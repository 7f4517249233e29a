import KubeShard.Program.Basic

/-!
# Programs that cannot tell two states apart

A program is blind to a difference between states when two runs that start with that
difference give the same answer and end with it.
-/

namespace KubeShard.Prog

variable {σ ε α β : Type} {related : σ → σ → Prop}

/-- From related states the program gives the same answer and leaves related states. -/
def Blind (related : σ → σ → Prop) (program : Prog σ ε α) : Prop :=
  ∀ first second, related first second →
    (exec program first).1 = (exec program second).1 ∧
      related (exec program first).2 (exec program second).2

namespace Blind

theorem of_pure (value : α) : Blind related (pure value : Prog σ ε α) :=
  fun _ _ same => ⟨rfl, same⟩

theorem of_throw (failure : ε) : Blind related (throw failure : Prog σ ε α) :=
  fun _ _ same => ⟨rfl, same⟩

theorem of_modify {update : σ → σ}
    (keeps : ∀ first second, related first second → related (update first) (update second)) :
    Blind related (modify update : Prog σ ε PUnit) :=
  fun first second same => ⟨rfl, keeps first second same⟩

/-- The second program may rely on what the first one returns. -/
theorem bind_of_returns {program : Prog σ ε α} {next : α → Prog σ ε β} {P : α → Prop}
    (blind : Blind related program)
    (returns : ∀ first second, related first second → ∀ value after,
      exec program first = (.ok value, after) → P value)
    (after : ∀ value, P value → Blind related (next value)) :
    Blind related (program >>= next) := by
  intro first second same
  have ran := blind first second same
  have returned := returns first second same
  rw [exec_bind, exec_bind]
  generalize exec program first = one at ran returned ⊢
  generalize exec program second = two at ran ⊢
  obtain ⟨answer, middle⟩ := one
  obtain ⟨_, middle'⟩ := two
  obtain ⟨rfl, alike⟩ := ran
  cases answer with
  | ok value => exact after value (returned value middle rfl) middle middle' alike
  | error failure => exact ⟨rfl, alike⟩

theorem bind {program : Prog σ ε α} {next : α → Prog σ ε β}
    (blind : Blind related program) (after : ∀ value, Blind related (next value)) :
    Blind related (program >>= next) :=
  blind.bind_of_returns (P := fun _ => True) (fun _ _ _ _ _ _ => trivial) fun value _ => after value

theorem attempt {program : Prog σ ε α} (blind : Blind related program) :
    Blind related program.attempt := by
  intro first second same
  rw [exec_attempt, exec_attempt]
  exact ⟨congrArg Except.ok (blind first second same).1, (blind first second same).2⟩

theorem mapError {program : Prog σ ε α} (blind : Blind related program) (rewrite : ε → ε) :
    Blind related (program.mapError rewrite) := by
  apply blind.attempt.bind
  intro answer
  cases answer with
  | ok value => exact of_pure value
  | error failure => exact of_throw (rewrite failure)

end Blind

end KubeShard.Prog
