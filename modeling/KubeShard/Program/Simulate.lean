import KubeShard.Program.Frame

/-!
# Programs that answer alike

Two programs over different states are compared on one pair of related states: they
give the same answer and leave related states.  A program that touches nothing the
relation is about is simulated by its answer alone.
-/

namespace KubeShard.Prog

variable {σ τ ε α β : Type} {related : σ → τ → Prop}

/-- From these states both programs give the same answer and leave related states. -/
def Simulates (related : σ → τ → Prop) (program : Prog σ ε α) (shadow : Prog τ ε α)
    (state : σ) (memory : τ) : Prop :=
  (exec program state).1 = (exec shadow memory).1 ∧
    related (exec program state).2 (exec shadow memory).2

namespace Simulates

variable {state : σ} {memory : τ}

theorem of_pure (value : α) (holds : related state memory) :
    Simulates related (pure value : Prog σ ε α) (pure value) state memory :=
  ⟨rfl, holds⟩

theorem of_throw (failure : ε) (holds : related state memory) :
    Simulates related (throw failure : Prog σ ε α) (throw failure) state memory :=
  ⟨rfl, holds⟩

theorem of_modify {update : σ → σ} {shadowed : τ → τ}
    (holds : related (update state) (shadowed memory)) :
    Simulates related (modify update : Prog σ ε PUnit) (modify shadowed) state memory :=
  ⟨rfl, holds⟩

/-- A program in a frame that the relation does not see is simulated by its answer. -/
theorem of_answer {frame : Frame σ} {program : Prog σ ε α} {shadow : Prog τ ε α}
    (respects : Respects frame program)
    (blind : ∀ after, frame.rel state after → related after memory)
    (answers : exec shadow memory = ((exec program state).1, memory)) :
    Simulates related program shadow state memory := by
  rw [Simulates, answers]
  exact ⟨rfl, blind _ (respects state)⟩

/-- The shadow may be given less than what the first program returns. -/
theorem bind_image {γ : Type} {image : α → γ} {program : Prog σ ε α} {shadow : Prog τ ε γ}
    {next : α → Prog σ ε β} {shadowNext : γ → Prog τ ε β}
    (first : Simulates related (image <$> program) shadow state memory)
    (second : ∀ value after later, exec program state = (.ok value, after) →
      exec shadow memory = (.ok (image value), later) → related after later →
      Simulates related (next value) (shadowNext (image value)) after later) :
    Simulates related (program >>= next) (shadow >>= shadowNext) state memory := by
  obtain ⟨same, holds⟩ := first
  rw [exec_map] at same holds
  rw [Simulates, exec_bind, exec_bind]
  generalize exec program state = ran at same holds second ⊢
  generalize exec shadow memory = mirrored at same holds second ⊢
  obtain ⟨given, after⟩ := ran
  obtain ⟨_, later⟩ := mirrored
  cases same
  cases given with
  | ok value => exact second value after later rfl rfl holds
  | error failure => exact ⟨rfl, holds⟩

theorem bind {program : Prog σ ε α} {shadow : Prog τ ε α} {next : α → Prog σ ε β}
    {shadowNext : α → Prog τ ε β} (first : Simulates related program shadow state memory)
    (second : ∀ value after later, exec program state = (.ok value, after) →
      exec shadow memory = (.ok value, later) → related after later →
      Simulates related (next value) (shadowNext value) after later) :
    Simulates related (program >>= next) (shadow >>= shadowNext) state memory := by
  rw [← id_map program] at first
  exact first.bind_image second

/-- A step the shadow leaves out, because it does not see it. -/
theorem bind_left {program : Prog σ ε α} {next : α → Prog σ ε β} {shadow : Prog τ ε β}
    {value : α} {after : σ} (ran : exec program state = (.ok value, after))
    (rest : Simulates related (next value) shadow after memory) :
    Simulates related (program >>= next) shadow state memory := by
  rwa [Simulates, exec_bind_ok ran]

theorem attempt {program : Prog σ ε α} {shadow : Prog τ ε α}
    (simulates : Simulates related program shadow state memory) :
    Simulates related program.attempt shadow.attempt state memory :=
  ⟨congrArg Except.ok simulates.1, simulates.2⟩

theorem mapError {program : Prog σ ε α} {shadow : Prog τ ε α}
    (simulates : Simulates related program shadow state memory) (rewrite : ε → ε) :
    Simulates related (program.mapError rewrite) (shadow.mapError rewrite) state memory := by
  apply simulates.attempt.bind
  intro given after later _ _ holds
  cases given with
  | ok value => exact of_pure value holds
  | error failure => exact of_throw (rewrite failure) holds

theorem mapError_image {γ : Type} {image : α → γ} {program : Prog σ ε α} {shadow : Prog τ ε γ}
    (simulates : Simulates related (image <$> program) shadow state memory) (rewrite : ε → ε) :
    Simulates related (image <$> program.mapError rewrite) (shadow.mapError rewrite)
      state memory := by
  have commutes : exec (image <$> program.mapError rewrite) state =
      exec ((image <$> program).mapError rewrite) state := by
    simp only [exec_map, exec_mapError]
    rcases exec program state with ⟨given, after⟩
    cases given <;> rfl
  rw [Simulates, commutes]
  exact simulates.mapError rewrite

end Simulates

end KubeShard.Prog
