/-!
# Runs of a stepping system

A run feeds a list of inputs to a step function.  `Along` says that a condition
on the current state and the next input holds at every point of a run, and an
invariant that such steps keep holds wherever the run ends.
-/

namespace KubeShard

variable {σ ι : Type}

/-- The state a run ends in. -/
def run (step : σ → ι → σ) (start : σ) (inputs : List ι) : σ :=
  inputs.foldl step start

/-- Every step of the run meets the condition in the state it is taken in. -/
def Along (step : σ → ι → σ) (condition : σ → ι → Prop) : σ → List ι → Prop
  | _, [] => True
  | state, input :: rest => condition state input ∧ Along step condition (step state input) rest

instance Along.decidable (step : σ → ι → σ) (condition : σ → ι → Prop)
    [∀ state input, Decidable (condition state input)] :
    (start : σ) → (inputs : List ι) → Decidable (Along step condition start inputs)
  | _, [] => .isTrue trivial
  | start, input :: rest =>
      have := Along.decidable step condition (step start input) rest
      inferInstanceAs (Decidable (_ ∧ _))

/-- A condition holds along a run if it does along a first part and what follows it. -/
theorem along_append {step : σ → ι → σ} {condition : σ → ι → Prop} {start : σ}
    {first second : List ι} :
    Along step condition start (first ++ second) ↔
      Along step condition start first ∧ Along step condition (run step start first) second := by
  induction first generalizing start with
  | nil => exact ⟨fun along => ⟨trivial, along⟩, And.right⟩
  | cons input rest ih => exact (and_congr_right fun _ => ih).trans and_assoc.symm

/-- What holds at the start and is kept by every step holds at the end. -/
theorem run_invariant {step : σ → ι → σ} {P : σ → Prop}
    (keeps : ∀ state input, P state → P (step state input))
    {start : σ} (initially : P start) (inputs : List ι) : P (run step start inputs) := by
  induction inputs generalizing start with
  | nil => exact initially
  | cons input rest ih => exact ih (keeps start input initially)

/-- What holds at the start and is kept by every permitted step holds at the end. -/
theorem Along.invariant {step : σ → ι → σ} {condition : σ → ι → Prop} {P : σ → Prop}
    (keeps : ∀ state input, condition state input → P state → P (step state input))
    {start : σ} {inputs : List ι} (along : Along step condition start inputs)
    (initially : P start) : P (run step start inputs) := by
  induction inputs generalizing start with
  | nil => exact initially
  | cons input rest ih =>
      exact ih along.2 (keeps start input along.1 initially)

end KubeShard
