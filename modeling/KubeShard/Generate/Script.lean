import KubeShard.Generate.Names

/-!
# The size of generated scripts

`padScript` divides, scales by three quarters, encodes and cuts off, and still misses the
size it aims at by at most one byte.  The scripts of a task together miss the size of the
task by less than two bytes a step.
-/

namespace KubeShard.Generate

/-! ## One script -/

section script

variable (entropy : Entropy) {sleepSecs targetBytes : Int}

/-- What a script has besides its base and the padding itself. -/
theorem overhead_eq (base : String) :
    (base.length : Int) + ("# padding: ".length : Nat) + 1 = base.length + 12 := by
  have pad : "# padding: ".length = 11 := by decide
  omega

/-- Padding of fewer than two bytes is left out. -/
theorem padScript_small (small : targetBytes < (baseScript sleepSecs).length + 12 + 2) :
    padScript entropy sleepSecs targetBytes = baseScript sleepSecs := by
  simp only [padScript, overhead_eq]
  split
  · rfl
  · next positive =>
      have one : targetBytes - ((baseScript sleepSecs).length + 12) = 1 := by omega
      rw [one]
      rfl

/-- The text of `needed` characters of padding, or of one less. -/
theorem length_padding {needed : Int} (enough : 2 ≤ needed)
    (bytes : { drawn : List UInt8 // drawn.length = ((needed * 3).tdiv 4).toNat }) :
    let padding := Base64.encode bytes
    let cut := if padding.length > needed then padding.take needed.toNat else padding
    (cut.length : Int) = needed ∨ (cut.length : Int) = needed - 1 := by
  intro padding cut
  have scaled : (needed * 3).tdiv 4 = needed * 3 / 4 :=
    Int.tdiv_eq_ediv_of_nonneg (by omega)
  have encoded : padding.length = 4 * ((((needed * 3).tdiv 4).toNat + 2) / 3) := by
    rw [Base64.length_encode, bytes.property]
  rw [scaled] at encoded
  simp only [cut]
  split
  · next long =>
      rw [List.length_take]
      omega
  · next short => omega

theorem length_padScript (large : (baseScript sleepSecs).length + 12 + 2 ≤ targetBytes) :
    ((padScript entropy sleepSecs targetBytes).length : Int) = targetBytes ∨
      ((padScript entropy sleepSecs targetBytes).length : Int) = targetBytes - 1 := by
  have isOverhead := overhead_eq (baseScript sleepSecs)
  have pad : "# padding: ".length = 11 := by decide
  have newline : "\n".length = 1 := by decide
  simp only [padScript]
  -- The padding is drawn for this very number of bytes, so the number stays a variable.
  generalize ((baseScript sleepSecs).length : Int) + ("# padding: ".length : Nat) + 1 = overhead
    at isOverhead ⊢
  have positive : ¬targetBytes - overhead ≤ 0 := by omega
  have drawn : ¬((targetBytes - overhead) * 3).tdiv 4 ≤ 0 := by
    rw [Int.tdiv_eq_ediv_of_nonneg (by omega)]
    omega
  have padding := length_padding (show 2 ≤ targetBytes - overhead by omega) (entropy.bytes _)
  simp only [if_neg positive, if_neg drawn, String.length_append, String.length_ofList, pad,
    newline]
  omega

end script

/-! ## Sleeping -/

/-- `randomInt` stays between its bounds. -/
theorem randomInt_mem (entropy : Entropy) (min max : Int) :
    min ≤ randomInt entropy min max ∧
      (randomInt entropy min max = min ∨ randomInt entropy min max ≤ max) := by
  unfold randomInt
  split
  · exact ⟨Int.le_refl min, .inl rfl⟩
  · next wide =>
      split
      · exact ⟨Int.le_refl min, .inl rfl⟩
      · next drawn _ =>
          have below := drawn.isLt
          omega

/-- The text of an `int` has at most twenty characters. -/
theorem length_repr_machine {number : Int} (machine : -2 ^ 63 ≤ number ∧ number < 2 ^ 63) :
    number.repr.length ≤ 20 := by
  have short {digits : Nat} (small : digits ≤ 2 ^ 63) : digits.repr.length ≤ 19 :=
    (Nat.length_repr_le_iff (by decide)).mpr (by omega)
  rw [Int.repr_eq_if]
  split
  · exact Nat.le_succ_of_le (short (by omega))
  · rw [String.length_append]
    have sign : "-".length = 1 := by decide
    have digits := short (show (-number).toNat ≤ 2 ^ 63 by omega)
    omega

theorem length_baseScript {sleepSecs : Int}
    (machine : -2 ^ 63 ≤ sleepSecs ∧ sleepSecs < 2 ^ 63) :
    (baseScript sleepSecs).length ≤ 45 := by
  have digits := length_repr_machine machine
  have head : "#!/usr/bin/env sh\nsleep ".length = 24 := by decide
  have newline : "\n".length = 1 := by decide
  have parts : baseScript sleepSecs = "#!/usr/bin/env sh\nsleep " ++ sleepSecs.repr ++ "\n" := rfl
  rw [parts, String.length_append, String.length_append, head, newline]
  omega

/-! ## The scripts of a task -/

theorem planTask_stepCount_pos (t : TaskInfo) (r : Option ResolvedTask) (cfg : Config) :
    1 ≤ (planTask t r cfg).stepCount := by
  rw [planTask, Plan.atLeastOne_stepCount]
  omega

namespace Plan

theorem perStepSize_ge (plan : Plan) : 100 ≤ plan.perStepSize := by
  simp only [perStepSize]
  split <;> omega

theorem perStepSize_large {plan : Plan} (positive : 1 ≤ plan.stepCount)
    (large : 100 * plan.stepCount ≤ plan.targetSize) :
    plan.perStepSize = plan.targetSize / plan.stepCount := by
  have nonneg : 0 ≤ plan.targetSize := by omega
  have enough : 100 ≤ plan.targetSize / plan.stepCount :=
    Int.le_ediv_of_mul_le (by omega) large
  rw [perStepSize, Int.tdiv_eq_ediv_of_nonneg nonneg, if_neg (Int.not_lt.mpr enough)]

theorem perStepSize_small {plan : Plan} (positive : 1 ≤ plan.stepCount)
    (small : plan.targetSize < 100 * plan.stepCount) : plan.perStepSize = 100 := by
  have few : plan.targetSize.tdiv plan.stepCount < 100 := by
    by_cases nonneg : 0 ≤ plan.targetSize
    · rw [Int.tdiv_eq_ediv_of_nonneg nonneg]
      exact Int.ediv_lt_of_lt_mul (by omega) small
    · have flipped : plan.targetSize.tdiv plan.stepCount =
          -(-plan.targetSize).tdiv plan.stepCount := by
        rw [Int.neg_tdiv, Int.neg_neg]
      have quotient : 0 ≤ (-plan.targetSize).tdiv plan.stepCount :=
        Int.tdiv_nonneg (by omega) (by omega)
      omega
  rw [perStepSize, if_pos few]

end Plan

/-- Each script has the size of a step, or one byte less. -/
theorem length_script {entropy : Nat → Entropy} {plan : Plan} {cfg : Config} {step : Step}
    (membership : step ∈ generateSteps entropy plan cfg) :
    (step.script.length : Int) = plan.perStepSize ∨
      (step.script.length : Int) = plan.perStepSize - 1 := by
  obtain ⟨i, _, rfl⟩ := List.mem_map.mp membership
  apply length_padScript
  have drawn := randomInt_mem (entropy i) cfg.sleepMin cfg.sleepMax
  have low := cfg.sleepMin.property
  have high := cfg.sleepMax.property
  have base := length_baseScript
    (show -2 ^ 63 ≤ randomInt (entropy i) cfg.sleepMin cfg.sleepMax ∧
      randomInt (entropy i) cfg.sleepMin cfg.sleepMax < 2 ^ 63 by omega)
  have size := plan.perStepSize_ge
  omega

/-- The bytes of the scripts of some steps. -/
def scriptBytes (steps : List Step) : Int := (steps.map fun step => (step.script.length : Int)).sum

theorem scriptBytes_bounds {steps : List Step} {size : Int}
    (each : ∀ step ∈ steps, (step.script.length : Int) = size ∨
      (step.script.length : Int) = size - 1) :
    steps.length * (size - 1) ≤ scriptBytes steps ∧ scriptBytes steps ≤ steps.length * size := by
  induction steps with
  | nil => simp [scriptBytes]
  | cons step steps ih =>
      obtain ⟨lower, upper⟩ := ih fun other membership =>
        each other (List.mem_cons_of_mem step membership)
      have first := each step List.mem_cons_self
      simp only [scriptBytes, List.map_cons, List.sum_cons, List.length_cons,
        Int.natCast_succ, Int.add_mul, Int.one_mul] at lower upper ⊢
      omega

/-- A script has the size it is to have, or one byte less, from the size on at which two
bytes of padding fit, and no padding below; so the scripts of a generated task have together
the size of the task, short of less than two bytes a step, where that is a hundred bytes a
step, and otherwise 99 or 100 bytes each. -/
theorem script_size_law :
    (∀ (entropy : Entropy) (sleepSecs targetBytes : Int),
      ((baseScript sleepSecs).length + 12 + 2 ≤ targetBytes →
        ((padScript entropy sleepSecs targetBytes).length : Int) = targetBytes ∨
          ((padScript entropy sleepSecs targetBytes).length : Int) = targetBytes - 1) ∧
      (targetBytes < (baseScript sleepSecs).length + 12 + 2 →
        padScript entropy sleepSecs targetBytes = baseScript sleepSecs)) ∧
    ∀ (entropy : Nat → Entropy) (t : TaskInfo) (r : Option ResolvedTask)
      (prParams : List Param) (cfg : Config),
      let plan := planTask t r cfg
      let steps := (generatePipelineTask entropy t r prParams cfg).steps
      (steps.length : Int) = plan.stepCount ∧
      (100 * plan.stepCount ≤ plan.targetSize →
        plan.targetSize - 2 * plan.stepCount < scriptBytes steps ∧
          scriptBytes steps ≤ plan.targetSize) ∧
      (plan.targetSize < 100 * plan.stepCount →
        ∀ step ∈ steps, step.script.length = 99 ∨ step.script.length = 100) := by
  constructor
  · intro entropy sleepSecs targetBytes
    exact ⟨length_padScript entropy, padScript_small entropy⟩
  · intro entropy t r prParams cfg plan steps
    have positive : 1 ≤ plan.stepCount := planTask_stepCount_pos t r cfg
    have count : (steps.length : Int) = plan.stepCount := by
      simp only [steps, steps_generatePipelineTask, generateSteps, List.length_map,
        List.length_range]
      exact Int.toNat_of_nonneg (Int.le_trans (by decide) positive)
    have each (step : Step) (membership : step ∈ steps) :
        (step.script.length : Int) = plan.perStepSize ∨
          (step.script.length : Int) = plan.perStepSize - 1 :=
      length_script membership
    refine ⟨count, ?_, ?_⟩
    · intro large
      obtain ⟨lower, upper⟩ := scriptBytes_bounds each
      rw [count, Plan.perStepSize_large positive large] at lower upper
      have below := Int.mul_ediv_self_le (x := plan.targetSize) (k := plan.stepCount) (by omega)
      have above := Int.lt_mul_ediv_self_add (x := plan.targetSize) (k := plan.stepCount) positive
      rw [Int.mul_sub, Int.mul_one] at lower
      omega
    · intro small step membership
      have size := each step membership
      rw [Plan.perStepSize_small positive small] at size
      omega

end KubeShard.Generate
