import KubeShard.Program.Basic

/-!
# Programs that return

A program returns from a state when it does not fail there.  A sequence returns
when its first part does and the second part returns from the state and with the
value the first part leaves, which is where facts about the first part come in.
-/

namespace KubeShard.Prog

variable {σ ε α β : Type} {state : σ}

/-- The program does not fail in this state. -/
def Returns (program : Prog σ ε α) (state : σ) : Prop :=
  ∃ value after, exec program state = (.ok value, after)

namespace Returns

theorem of_pure (value : α) : Returns (pure value : Prog σ ε α) state :=
  ⟨value, state, rfl⟩

theorem of_get : Returns (get : Prog σ ε σ) state := ⟨state, state, rfl⟩

theorem of_modify (update : σ → σ) : Returns (modify update : Prog σ ε PUnit) state :=
  ⟨⟨⟩, update state, rfl⟩

theorem attempt (program : Prog σ ε α) : Returns program.attempt state :=
  ⟨(exec program state).1, (exec program state).2, rfl⟩

theorem mapError {program : Prog σ ε α} (returns : Returns program state) (rewrite : ε → ε) :
    Returns (program.mapError rewrite) state := by
  obtain ⟨value, after, ran⟩ := returns
  exact ⟨value, after, exec_mapError_eq_ok.mpr ran⟩

theorem bind {program : Prog σ ε α} {next : α → Prog σ ε β} (first : Returns program state)
    (second : ∀ value after, exec program state = (.ok value, after) →
      Returns (next value) after) :
    Returns (program >>= next) state := by
  obtain ⟨value, middle, ran⟩ := first
  obtain ⟨result, after, rest⟩ := second value middle ran
  exact ⟨result, after, exec_bind_eq_ok.mpr ⟨value, middle, ran, rest⟩⟩

/-- A failure that was handed over as a value does not end the program. -/
theorem attempt_bind {program : Prog σ ε α} {next : Except ε α → Prog σ ε β}
    (second : ∀ answer after, exec program state = (answer, after) →
      Returns (next answer) after) :
    Returns (program.attempt >>= next) state :=
  (attempt program).bind fun answer after ran => second answer after (exec_attempt_eq_ok.mp ran)

end Returns

end KubeShard.Prog
