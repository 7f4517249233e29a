import KubeShard.Generate.Generator
import KubeShard.Program.Decimal
import KubeShard.Program.Naming

/-!
# The steps of a generated task

What the generator goes by when it makes the steps of a task: the steps of the inline
specification, those read from a bundle, or the number of steps of its configuration.  All
three are a list of names, with an empty one for each step without a name.
-/

namespace KubeShard.Generate

open Naming

/-- A task with its specification inline. -/
def TaskInfo.Inline (t : TaskInfo) : Prop := t.bundleRef = "" ∧ t.inlineSteps > 0

instance (t : TaskInfo) : Decidable t.Inline :=
  inferInstanceAs (Decidable (t.bundleRef = "" ∧ t.inlineSteps > 0))

/-- The names of the steps a task is known to have, empty where a step has none. -/
def declaredSteps (t : TaskInfo) (r : Option ResolvedTask) : List String :=
  if t.Inline then (List.range t.inlineSteps).map fun i => t.inlineStepNames.getD i ""
  else
    match r with
    | none => []
    | some r => if r.err = none then r.stepNames else []

/-- The steps a task is generated with: those it is known to have, or else as many nameless
ones as the configuration says, and one at least. -/
def plannedSteps (t : TaskInfo) (r : Option ResolvedTask) (cfg : Config) : List String :=
  if declaredSteps t r = [] then List.replicate (max 1 cfg.defaultSteps.toNat) ""
  else declaredSteps t r

/-- The name of a step without a name. -/
def defaultName (i : Nat) : String := s!"step-{i}"

theorem defaultName_injective : Function.Injective defaultName := by
  intro first second same
  have digits : "step-" ++ first.repr = "step-" ++ second.repr := same
  exact Decimal.natRepr_injective ((String.append_right_inj "step-").mp digits)

theorem defaultName_ne_empty (i : Nat) : defaultName i ≠ "" := by
  intro empty
  have parts : "step-" ++ i.repr = "" := empty
  exact absurd (String.append_eq_empty_iff.mp parts).1 (by decide)

/-! ## The plan of a task -/

section plan

variable {t : TaskInfo} {r : Option ResolvedTask} {cfg : Config}

theorem declaredSteps_inline (inline : t.Inline) :
    declaredSteps t r = (List.range t.inlineSteps).map fun i => t.inlineStepNames.getD i "" :=
  if_pos inline

theorem declaredSteps_resolved (remote : ¬t.Inline) {result : ResolvedTask}
    (success : result.err = none) : declaredSteps t (some result) = result.stepNames := by
  simp [declaredSteps, remote, success]

theorem declaredSteps_unresolved (remote : ¬t.Inline)
    (failed : ∀ result, r = some result → result.err ≠ none) : declaredSteps t r = [] := by
  cases r with
  | none => simp [declaredSteps, remote]
  | some result => simp [declaredSteps, remote, failed result rfl]

theorem plannedSteps_default (none : declaredSteps t r = []) :
    plannedSteps t r cfg = List.replicate (max 1 cfg.defaultSteps.toNat) "" :=
  if_pos none

theorem plannedSteps_declared (some : declaredSteps t r ≠ []) :
    plannedSteps t r cfg = declaredSteps t r :=
  if_neg some

namespace Plan

variable (plan : Plan)

theorem followInline_of_inline (inline : t.Inline) :
    (plan.followInline t).stepCount = t.inlineSteps ∧
      (plan.followInline t).stepNames = t.inlineStepNames := by
  rw [followInline, if_pos (show t.bundleRef = "" ∧ t.inlineSteps > 0 from inline)]
  exact ⟨rfl, rfl⟩

theorem followInline_of_remote (remote : ¬t.Inline) : plan.followInline t = plan :=
  if_neg remote

theorem followResolved_of_success {result : ResolvedTask} (success : result.err = none)
    (several : result.stepNames ≠ []) :
    (plan.followResolved (some result)).stepCount = result.stepNames.length ∧
      (plan.followResolved (some result)).stepNames = result.stepNames := by
  have positive : result.stepNames.length > 0 := List.length_pos_iff.mpr several
  simp only [followResolved, success, positive, if_true]
  split <;> exact ⟨rfl, rfl⟩

theorem followResolved_of_nameless
    (nameless : ∀ result, r = some result → result.err = none → result.stepNames = []) :
    (plan.followResolved r).stepCount = plan.stepCount ∧
      (plan.followResolved r).stepNames = plan.stepNames := by
  cases r with
  | none => exact ⟨rfl, rfl⟩
  | some result =>
      by_cases success : result.err = none
      · have empty : result.stepNames = [] := nameless result rfl success
        simp only [followResolved, success, empty, List.length_nil, if_true,
          Nat.lt_irrefl, gt_iff_lt, if_false]
        split <;> exact ⟨rfl, rfl⟩
      · simp only [followResolved, success, if_false]
        split <;> exact ⟨rfl, rfl⟩

@[simp] theorem atLeastOne_stepCount : plan.atLeastOne.stepCount = max 1 plan.stepCount := by
  unfold atLeastOne
  split
  · next few =>
      change 1 = max 1 plan.stepCount
      omega
  · omega

@[simp] theorem atLeastOne_stepNames : plan.atLeastOne.stepNames = plan.stepNames := by
  unfold atLeastOne
  split <;> rfl

@[simp] theorem atLeastOne_targetSize : plan.atLeastOne.targetSize = plan.targetSize := by
  unfold atLeastOne
  split <;> rfl

/-- A plan makes the steps of a list of names. -/
structure Follows (names : List String) : Prop where
  count : plan.stepCount = names.length
  name : ∀ i < names.length, plan.stepNames.getD i "" = names.getD i ""

end Plan

theorem planTask_inline (inline : t.Inline) :
    (planTask t r cfg).Follows (plannedSteps t r cfg) := by
  have some : declaredSteps t r ≠ [] := by
    rw [declaredSteps_inline inline]
    simpa using Nat.ne_of_gt inline.2
  obtain ⟨count, names⟩ := ((Plan.initial cfg).followResolved r).followInline_of_inline inline
  rw [plannedSteps_declared some, declaredSteps_inline inline]
  constructor
  · have positive := inline.2
    simp only [planTask, Plan.atLeastOne_stepCount, count, List.length_map, List.length_range]
    omega
  · intro i inside
    have bound : i < t.inlineSteps := by simpa using inside
    simp [planTask, names, List.getD_eq_getElem?_getD, bound]

theorem planTask_resolved (remote : ¬t.Inline) {result : ResolvedTask}
    (success : result.err = none) (several : result.stepNames ≠ []) :
    (planTask t (some result) cfg).Follows (plannedSteps t (some result) cfg) := by
  have isDeclared := declaredSteps_resolved remote success
  obtain ⟨count, names⟩ := (Plan.initial cfg).followResolved_of_success success several
  rw [plannedSteps_declared (by rwa [isDeclared]), isDeclared]
  constructor
  · have positive := List.length_pos_iff.mpr several
    rw [planTask, Plan.followInline_of_remote _ remote, Plan.atLeastOne_stepCount, count]
    omega
  · intro i _
    rw [planTask, Plan.followInline_of_remote _ remote, Plan.atLeastOne_stepNames, names]

theorem planTask_default (remote : ¬t.Inline) (none : declaredSteps t r = []) :
    (planTask t r cfg).Follows (plannedSteps t r cfg) := by
  have nameless : ∀ result, r = some result → result.err = .none → result.stepNames = [] := by
    rintro result rfl success
    rw [← declaredSteps_resolved remote success, none]
  obtain ⟨count, names⟩ := (Plan.initial cfg).followResolved_of_nameless nameless
  rw [plannedSteps_default none]
  constructor
  · rw [planTask, Plan.followInline_of_remote _ remote, Plan.atLeastOne_stepCount, count,
      List.length_replicate]
    simp only [Plan.initial]
    omega
  · intro i inside
    rw [planTask, Plan.followInline_of_remote _ remote, Plan.atLeastOne_stepNames, names]
    have bound : i < max 1 cfg.defaultSteps.toNat := by simpa using inside
    simp only [Plan.initial, List.getD_eq_getElem?_getD, List.getElem?_replicate, bound, if_true]
    rfl

/-- A task is generated with its planned steps. -/
theorem planTask_follows (t : TaskInfo) (r : Option ResolvedTask) (cfg : Config) :
    (planTask t r cfg).Follows (plannedSteps t r cfg) := by
  by_cases inline : t.Inline
  · exact planTask_inline inline
  · by_cases none : declaredSteps t r = []
    · exact planTask_default inline none
    · cases r with
      | none => exact absurd (declaredSteps_unresolved inline (by simp)) none
      | some result =>
          by_cases success : result.err = .none
          · apply planTask_resolved inline success
            rwa [declaredSteps_resolved inline success] at none
          · refine absurd (declaredSteps_unresolved inline ?_) none
            rintro _ ⟨⟩
            exact success

end plan

/-! ## The names of the steps -/

/-- The steps of a task. -/
def PipelineTask.steps (pt : PipelineTask) : List Step :=
  match pt.taskSpec with
  | none => []
  | some spec => spec.steps

theorem Plan.stepName_eq (plan : Plan) (i : Nat) :
    plan.stepName i =
      if plan.stepNames.getD i "" = "" then defaultName i else plan.stepNames.getD i "" := by
  rw [Plan.stepName, List.getD_eq_getElem?_getD]
  cases plan.stepNames[i]? with
  | none => rfl
  | some name => by_cases empty : name = "" <;> simp [empty, defaultName]

section names

variable (entropy : Nat → Entropy) (t : TaskInfo) (r : Option ResolvedTask)
  (prParams : List Param) (cfg : Config)

theorem steps_generatePipelineTask :
    (generatePipelineTask entropy t r prParams cfg).steps =
      generateSteps entropy (planTask t r cfg) cfg :=
  rfl

/-- A generated task has as many steps as are planned. -/
theorem length_steps :
    (generatePipelineTask entropy t r prParams cfg).steps.length =
      (plannedSteps t r cfg).length := by
  rw [steps_generatePipelineTask, generateSteps, List.length_map, List.length_range,
    (planTask_follows t r cfg).count, Int.toNat_natCast]

/-- The names of the generated steps are the planned ones, with the gaps filled. -/
theorem names_steps :
    (generatePipelineTask entropy t r prParams cfg).steps.map Step.name =
      fill "" defaultName (plannedSteps t r cfg) := by
  have follows := planTask_follows t r cfg
  apply List.ext_getElem
  · rw [List.length_map, length_steps, length_fill]
  · intro i inside _
    have bound : i < (plannedSteps t r cfg).length := by
      rwa [List.length_map, length_steps] at inside
    have isName : (planTask t r cfg).stepNames.getD i "" = (plannedSteps t r cfg)[i] := by
      rw [follows.name i bound, List.getD_eq_getElem?_getD, List.getElem?_eq_getElem bound,
        Option.getD_some]
    simp only [steps_generatePipelineTask, generateSteps, List.map_map, List.getElem_map,
      Function.comp_apply, List.getElem_range, generateStep, Plan.stepName_eq, isName, fill,
      List.getElem_mapIdx]

/-- Where the names a task gives its steps are distinct, those of the generated steps are if
and only if none of them is the default name of a step without a name. -/
theorem generated_names_nodup_iff
    (distinct : ((declaredSteps t r).filter (· ≠ "")).Nodup) :
    ((generatePipelineTask entropy t r prParams cfg).steps.map Step.name).Nodup ↔
      ∀ given gap : Nat, (declaredSteps t r)[given]? = some (defaultName gap) →
        (declaredSteps t r)[gap]? ≠ some "" := by
  rw [names_steps]
  by_cases none : declaredSteps t r = []
  · have blank : ((plannedSteps t r cfg).filter (· ≠ "")) = [] := by
      rw [plannedSteps_default none]
      simp
    rw [nodup_fill_iff defaultName_injective defaultName_ne_empty (by rw [blank]; simp)]
    constructor
    · intro _ given gap isGiven
      simp [none] at isGiven
    · intro _ given gap isGiven
      have membership := List.mem_of_getElem? isGiven
      rw [plannedSteps_default none] at membership
      exact absurd (List.eq_of_mem_replicate membership) (defaultName_ne_empty gap)
  · rw [plannedSteps_declared none]
    exact nodup_fill_iff defaultName_injective defaultName_ne_empty distinct

end names

/-- Draws of zeros. -/
def Entropy.zeros : Entropy where
  int := fun _ => none
  bytes := fun count => ⟨List.replicate count 0, List.length_replicate⟩

/-- An inline task with steps of these names. -/
def inlineTask (name : String) (steps : List String) : PipelineTask where
  name := name
  taskSpec := some { steps := steps.map fun step => { name := step } }

/-- The generated task of such a task. -/
def generatedInline (steps : List String) : PipelineTask :=
  generatePipelineTask (fun _ => .zeros)
    (extractSingleTaskInfo (fun _ => "") (inlineTask "build" steps) false) none [] {}

theorem generated_names_nodup_iff_mixed :
    ((generatedInline ["build", "", "step-7"]).steps.map Step.name).Nodup := by
  apply (generated_names_nodup_iff (fun _ => .zeros) (extractSingleTaskInfo (fun _ => "")
    (inlineTask "build" ["build", "", "step-7"]) false) none [] {} (by decide +kernel)).mpr
  have declared : declaredSteps (extractSingleTaskInfo (fun _ => "")
      (inlineTask "build" ["build", "", "step-7"]) false) none = ["build", "", "step-7"] := by
    decide +kernel
  intro given gap isGiven isGap
  rw [declared] at isGiven isGap
  rcases gap with _ | _ | _ | gap
  · simp at isGap
  · have membership := List.mem_of_getElem? isGiven
    exact absurd membership (by decide +kernel)
  · simp at isGap
  · simp at isGap

/-- The first step is called as the second, which has no name, is called by default. -/
theorem named_like_default :
    (["step-1", ""].filter (· ≠ "")).Nodup ∧
      (generatedInline ["step-1", ""]).steps.map Step.name = ["step-1", "step-1"] := by
  decide +kernel

end KubeShard.Generate
