import KubeShard.Program.Basic

/-!
# What a program leaves alone

A frame is a preorder on states: it relates a state to those that differ from it
only in ways of no concern.  A program respects a frame when it ends, with or
without a failure, in a state its frame allows.  Sequences of programs respect a
frame when their parts do, so a frame is checked at the primitive operations
alone.
-/

namespace KubeShard

/-- A preorder on states. -/
structure Frame (σ : Type) where
  rel : σ → σ → Prop
  refl : ∀ state, rel state state
  trans : ∀ {first second third}, rel first second → rel second third → rel first third

/-- The frame of programs that keep an invariant. -/
def Frame.keeps {σ : Type} (invariant : σ → Prop) : Frame σ where
  rel before after := invariant before → invariant after
  refl _ := id
  trans left right := right ∘ left

namespace Prog

variable {σ ε α β : Type} {frame : Frame σ}

/-- Every run of the program ends in a state its frame allows. -/
def Respects (frame : Frame σ) (program : Prog σ ε α) : Prop :=
  ∀ state, frame.rel state (exec program state).2

namespace Respects

theorem of_pure (value : α) : Respects frame (pure value : Prog σ ε α) :=
  fun state => frame.refl state

theorem of_throw (failure : ε) : Respects frame (throw failure : Prog σ ε α) :=
  fun state => frame.refl state

theorem of_get : Respects frame (get : Prog σ ε σ) :=
  fun state => frame.refl state

theorem of_modify {update : σ → σ} (allowed : ∀ state, frame.rel state (update state)) :
    Respects frame (modify update : Prog σ ε PUnit) :=
  allowed

/-- What respects a frame respects every wider one. -/
theorem mono {wider : Frame σ} {program : Prog σ ε α} (respects : Respects frame program)
    (imply : ∀ before after, frame.rel before after → wider.rel before after) :
    Respects wider program :=
  fun state => imply _ _ (respects state)

/-- The state a program leaves with its answer. -/
theorem rel {program : Prog σ ε α} (respects : Respects frame program) {state after : σ}
    {answer : Except ε α} (ran : exec program state = (answer, after)) :
    frame.rel state after := by
  have allowed := respects state
  rwa [ran] at allowed

theorem bind {program : Prog σ ε α} {next : α → Prog σ ε β}
    (first : Respects frame program) (second : ∀ value, Respects frame (next value)) :
    Respects frame (program >>= next) := by
  intro state
  have ran := first state
  rw [exec_bind]
  generalize exec program state = result at ran ⊢
  obtain ⟨answer, middle⟩ := result
  cases answer with
  | ok value => exact frame.trans ran (second value middle)
  | error failure => exact ran

/-- The second program may rely on what the first one returns. -/
theorem bind_of_returns {program : Prog σ ε α} {next : α → Prog σ ε β} {P : α → Prop}
    (first : Respects frame program)
    (returns : ∀ state value after, exec program state = (.ok value, after) → P value)
    (second : ∀ value, P value → Respects frame (next value)) :
    Respects frame (program >>= next) := by
  intro state
  have ran := first state
  have returned := returns state
  rw [exec_bind]
  generalize exec program state = result at ran returned ⊢
  obtain ⟨answer, middle⟩ := result
  cases answer with
  | ok value => exact frame.trans ran (second value (returned value middle rfl) middle)
  | error failure => exact ran

/-- The second program may rely on what the first one returns where the invariant holds. -/
theorem keeps_bind {invariant : σ → Prop} {program : Prog σ ε α} {next : α → Prog σ ε β}
    {P : α → Prop} (first : Respects (.keeps invariant) program)
    (returns : ∀ state value after, invariant state →
      exec program state = (.ok value, after) → P value)
    (second : ∀ value, P value → Respects (.keeps invariant) (next value)) :
    Respects (.keeps invariant) (program >>= next) := by
  intro state holds
  have ran := first state holds
  have returned := returns state
  rw [exec_bind]
  generalize exec program state = result at ran returned ⊢
  obtain ⟨answer, middle⟩ := result
  cases answer with
  | ok value => exact second value (returned value middle holds rfl) middle ran
  | error failure => exact ran

theorem attempt {program : Prog σ ε α} (respects : Respects frame program) :
    Respects frame program.attempt :=
  respects

theorem mapError {program : Prog σ ε α} (respects : Respects frame program)
    (rewrite : ε → ε) : Respects frame (program.mapError rewrite) := by
  apply respects.attempt.bind
  intro answer
  cases answer with
  | ok value => exact of_pure value
  | error failure => exact of_throw (rewrite failure)

theorem ite {condition : Prop} [Decidable condition] {first second : Prog σ ε α}
    (left : Respects frame first) (right : Respects frame second) :
    Respects frame (if condition then first else second) := by
  split
  · exact left
  · exact right

end Respects

end Prog

end KubeShard
