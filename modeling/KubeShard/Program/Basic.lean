import Mathlib.Logic.Relation

/-!
# Fallible programs over a state

A program reads and writes one state and either returns a value or fails.  The
state reached before a failure is kept, so a program that stops half way leaves
what it has already done behind.  `exec` is the semantics every proof uses; the
monad itself is the standard stack of `ExceptT` over `StateM`.
-/

namespace KubeShard

/-- Programs over states `σ` that may fail with an `ε`. -/
abbrev Prog (σ ε : Type) := ExceptT ε (StateM σ)

namespace Prog

variable {σ ε α β : Type}

/-- The answer of a program together with the state it leaves. -/
def exec (program : Prog σ ε α) (state : σ) : Except ε α × σ :=
  program.run.run state

/-- Run a program and hand its failure to the caller as a value. -/
def attempt (program : Prog σ ε α) : Prog σ ε (Except ε α) :=
  ExceptT.mk (Except.ok <$> program.run)

/-- Rewrite the failure of a program, leaving its successes alone. -/
def mapError (program : Prog σ ε α) (rewrite : ε → ε) : Prog σ ε α := do
  match ← program.attempt with
  | .ok value => pure value
  | .error failure => throw (rewrite failure)

@[simp] theorem exec_pure (value : α) (state : σ) :
    exec (pure value : Prog σ ε α) state = (.ok value, state) := rfl

@[simp] theorem exec_throw (failure : ε) (state : σ) :
    exec (throw failure : Prog σ ε α) state = (.error failure, state) := rfl

@[simp] theorem exec_get (state : σ) :
    exec (get : Prog σ ε σ) state = (.ok state, state) := rfl

@[simp] theorem exec_set (state after : σ) :
    exec (set after : Prog σ ε PUnit) state = (.ok ⟨⟩, after) := rfl

@[simp] theorem exec_modify (update : σ → σ) (state : σ) :
    exec (modify update : Prog σ ε PUnit) state = (.ok ⟨⟩, update state) := rfl

@[simp] theorem exec_attempt (program : Prog σ ε α) (state : σ) :
    exec program.attempt state =
      (.ok (exec program state).1, (exec program state).2) := rfl

theorem exec_bind (program : Prog σ ε α) (next : α → Prog σ ε β) (state : σ) :
    exec (program >>= next) state =
      match exec program state with
      | (.ok value, after) => exec (next value) after
      | (.error failure, after) => (.error failure, after) := by
  simp only [exec, ExceptT.run_bind, StateT.run_bind]
  rcases program.run.run state with ⟨answer, after⟩
  cases answer <;> rfl

theorem ext_exec {program other : Prog σ ε α}
    (same : ∀ state, exec program state = exec other state) : program = other :=
  funext same

theorem exec_attempt_eq_ok {program : Prog σ ε α} {state after : σ} {answer : Except ε α} :
    exec program.attempt state = (.ok answer, after) ↔ exec program state = (answer, after) := by
  rw [exec_attempt]
  rcases exec program state with ⟨actual, middle⟩
  simp

/-- A sequence returns when its parts do, one after the other. -/
theorem exec_bind_eq_ok {program : Prog σ ε α} {next : α → Prog σ ε β} {state after : σ}
    {value : β} :
    exec (program >>= next) state = (.ok value, after) ↔
      ∃ first middle, exec program state = (.ok first, middle) ∧
        exec (next first) middle = (.ok value, after) := by
  rw [exec_bind]
  rcases exec program state with ⟨answer, middle⟩
  cases answer with
  | ok first => simp [and_assoc]
  | error failure => simp

/-- A program that ends well has a value. -/
theorem exec_eq_of_isOk {program : Prog σ ε α} {state : σ}
    (ended : (exec program state).1.isOk = true) :
    ∃ value, exec program state = (.ok value, (exec program state).2) := by
  generalize exec program state = outcome at ended ⊢
  obtain ⟨answer, after⟩ := outcome
  cases answer with
  | error failure => cases ended
  | ok value => exact ⟨value, rfl⟩

/-- A sequence ends in a state of this kind when each part of it does, wherever it
stops. -/
theorem exec_bind_holds {P : σ → Prop} {program : Prog σ ε α} {next : α → Prog σ ε β} {state : σ}
    (first : P (exec program state).2)
    (second : ∀ value after, exec program state = (.ok value, after) →
      P (exec (next value) after).2) : P (exec (program >>= next) state).2 := by
  rw [exec_bind]
  generalize exec program state = result at first second ⊢
  obtain ⟨answer, middle⟩ := result
  cases answer with
  | ok value => exact second value middle rfl
  | error failure => exact first

theorem exec_mapError (program : Prog σ ε α) (rewrite : ε → ε) (state : σ) :
    exec (program.mapError rewrite) state =
      match exec program state with
      | (.ok value, after) => (.ok value, after)
      | (.error failure, after) => (.error (rewrite failure), after) := by
  simp only [mapError, exec_bind, exec_attempt]
  rcases exec program state with ⟨answer, after⟩
  cases answer <;> rfl

@[simp] theorem exec_mapError_eq_ok {program : Prog σ ε α} {rewrite : ε → ε}
    {state after : σ} {value : α} :
    exec (program.mapError rewrite) state = (.ok value, after) ↔
      exec program state = (.ok value, after) := by
  rw [exec_mapError]
  rcases exec program state with ⟨answer, middle⟩
  cases answer <;> simp

@[simp] theorem exec_map (image : α → β) (program : Prog σ ε α) (state : σ) :
    exec (image <$> program) state =
      ((exec program state).1.map image, (exec program state).2) := by
  rw [map_eq_pure_bind, exec_bind]
  rcases exec program state with ⟨answer, after⟩
  cases answer <;> rfl

@[simp] theorem exec_bind_ok {program : Prog σ ε α} {next : α → Prog σ ε β}
    {state after : σ} {value : α}
    (returns : exec program state = (.ok value, after)) :
    exec (program >>= next) state = exec (next value) after := by
  simp [exec_bind, returns]

end Prog

end KubeShard
