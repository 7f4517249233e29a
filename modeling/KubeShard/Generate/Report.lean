import KubeShard.Generate.Output
import Mathlib.Algebra.BigOperators.Group.List.Basic

/-!
# The report of the load-test generator

`tools/generate-from-pipeline/main.go`: before it generates, `main` prints what each task
will be and adds up the totals.  It decides on its own where the number of steps comes from,
and the theorem here says when that is the number that is generated.
-/

namespace KubeShard.Generate

/-! ## The summary loop of `main` -/

/-- What the loop finds about one task. -/
structure TaskReport where
  steps : Int
  size : Int
  status : String
  multiplier : Nat
  deriving DecidableEq, Repr

/-- The body of the loop. -/
def reportTask (t : TaskInfo) (r : Option ResolvedTask) (prParams : List Param)
    (cfg : Config) : TaskReport :=
  let multiplier := matrixExpansionCount (resolveMatrixValues t.matrix prParams)
  let report : TaskReport :=
    { steps := cfg.defaultSteps, size := cfg.defaultTaskSizeKB * 1024, status := "default"
      multiplier := multiplier }
  match r with
  | some r =>
      match r.err with
      | none =>
          { report with steps := r.stepNames.length, size := r.sizeBytes, status := "resolved" }
      | some err =>
          if r.sizeBytes > 0 then
            { report with size := r.sizeBytes, status := s!"partial ({err})" }
          else { report with status := s!"failed ({err})" }
  | none =>
      if t.inlineSteps > 0 then
        { report with steps := t.inlineSteps, size := t.inlineSize, status := "inline" }
      else report

/-- The totals `main` prints. -/
structure Totals where
  steps : Int := 0
  taskRuns : Nat := 0
  size : Int := 0
  deriving DecidableEq, Repr

/-- The totals with a task added. -/
def Totals.add (totals : Totals) (report : TaskReport) : Totals where
  steps := totals.steps + report.steps * report.multiplier
  taskRuns := totals.taskRuns + report.multiplier
  size := totals.size + report.size * report.multiplier

/-- The loop. -/
def summarize (tasks : List TaskInfo) (resolved : Resolution) (prParams : List Param)
    (cfg : Config) : Totals :=
  tasks.foldl (fun totals t => totals.add (reportTask t (resolved t.name) prParams cfg)) {}

/-! ## The number of steps -/

/-- When the number of steps reported for a task is that of the steps generated for it. -/
def ReportsSteps (t : TaskInfo) (r : Option ResolvedTask) (cfg : Config) : Prop :=
  match r with
  | some r =>
      if t.Inline then
        if r.err = none then r.stepNames.length = t.inlineSteps
        else cfg.defaultSteps = t.inlineSteps
      else if r.err = none then r.stepNames ≠ []
      else 1 ≤ cfg.defaultSteps
  | none =>
      if t.Inline then True
      else if t.inlineSteps > 0 then t.inlineSteps = max 1 cfg.defaultSteps
      else 1 ≤ cfg.defaultSteps

section steps

variable {t : TaskInfo} {r : Option ResolvedTask} {prParams : List Param} {cfg : Config}

theorem length_plannedSteps_inline (inline : t.Inline) :
    (plannedSteps t r cfg).length = t.inlineSteps := by
  have isDeclared := declaredSteps_inline (r := r) inline
  have some : declaredSteps t r ≠ [] := by
    rw [isDeclared]
    simpa using Nat.ne_of_gt inline.2
  rw [plannedSteps_declared some, isDeclared, List.length_map, List.length_range]

theorem length_plannedSteps_default (none : declaredSteps t r = []) :
    ((plannedSteps t r cfg).length : Int) = max 1 cfg.defaultSteps := by
  rw [plannedSteps_default none, List.length_replicate]
  omega

theorem reportTask_steps_some (result : ResolvedTask) :
    (reportTask t (some result) prParams cfg).steps =
      if result.err = none then (result.stepNames.length : Int) else cfg.defaultSteps := by
  cases isErr : result.err with
  | none => simp [reportTask, isErr]
  | some err =>
      simp only [reportTask, isErr, reduceCtorEq, if_false]
      split <;> rfl

theorem reportTask_steps_none :
    (reportTask t none prParams cfg).steps =
      if t.inlineSteps > 0 then (t.inlineSteps : Int) else cfg.defaultSteps := by
  by_cases several : t.inlineSteps > 0
  · simp [reportTask, several]
  · simp [reportTask, several]

/-- Resolution has answered something about the task. -/
theorem reportsSteps_some (result : ResolvedTask) :
    (reportTask t (some result) prParams cfg).steps =
        ((plannedSteps t (some result) cfg).length : Int) ↔
      ReportsSteps t (some result) cfg := by
  rw [reportTask_steps_some, ReportsSteps]
  by_cases inline : t.Inline
  · rw [length_plannedSteps_inline inline, if_pos inline]
    split
    · exact Int.ofNat_inj
    · exact Iff.rfl
  · rw [if_neg inline]
    by_cases success : result.err = none
    · rw [if_pos success, if_pos success]
      have isDeclared := declaredSteps_resolved inline success
      by_cases empty : result.stepNames = []
      · have count : ((plannedSteps t (some result) cfg).length : Int) = max 1 cfg.defaultSteps :=
          length_plannedSteps_default (isDeclared.trans empty)
        simp only [empty, List.length_nil, ne_eq, not_true, iff_false]
        omega
      · rw [plannedSteps_declared (by rwa [isDeclared]), isDeclared]
        simp [empty]
    · rw [if_neg success, if_neg success, length_plannedSteps_default]
      · omega
      · apply declaredSteps_unresolved inline
        rintro _ ⟨⟩
        exact success

/-- It has not. -/
theorem reportsSteps_none :
    (reportTask t none prParams cfg).steps = ((plannedSteps t none cfg).length : Int) ↔
      ReportsSteps t none cfg := by
  rw [reportTask_steps_none, ReportsSteps]
  by_cases inline : t.Inline
  · rw [length_plannedSteps_inline inline, if_pos inline, if_pos inline.2]
    exact iff_of_true rfl trivial
  · rw [if_neg inline, length_plannedSteps_default (declaredSteps_unresolved inline (by simp))]
    split
    · exact Iff.rfl
    · omega

theorem reportsSteps_iff :
    (reportTask t r prParams cfg).steps = ((plannedSteps t r cfg).length : Int) ↔
      ReportsSteps t r cfg := by
  cases r with
  | none => exact reportsSteps_none
  | some result => exact reportsSteps_some result

end steps

/-! ## The totals -/

section totals

variable (entropy : Nat → Nat → Entropy) (tasks : List TaskInfo) (resolved : Resolution)
  (prParams : List Param) (taskRunSpecs : List PipelineTaskRunSpec) (cfg : Config)

theorem foldl_add_steps (totals : Totals) :
    (tasks.foldl (fun totals t => totals.add (reportTask t (resolved t.name) prParams cfg))
        totals).steps =
      totals.steps + (tasks.map fun t => (reportTask t (resolved t.name) prParams cfg).steps *
        (reportTask t (resolved t.name) prParams cfg).multiplier).sum := by
  induction tasks generalizing totals with
  | nil => simp
  | cons t tasks ih =>
      rw [List.foldl_cons, ih, List.map_cons, List.sum_cons, Totals.add, Int.add_assoc]

theorem reportTask_multiplier (t : TaskInfo) (r : Option ResolvedTask) :
    (reportTask t r prParams cfg).multiplier =
      matrixExpansionCount (resolveMatrixValues t.matrix prParams) := by
  cases r with
  | none => by_cases several : t.inlineSteps > 0 <;> simp [reportTask, several]
  | some result =>
      cases isErr : result.err with
      | none => simp [reportTask, isErr]
      | some err => by_cases sized : result.sizeBytes > 0 <;> simp [reportTask, isErr, sized]

/-- The steps that the TaskRuns of a generated PipelineRun have together. -/
def PipelineRun.stepRuns (pr : PipelineRun) : Int :=
  (pr.tasks.map fun pt => (pt.steps.length * matrixExpansionCount pt.matrix : Int)).sum

theorem stepRuns_generatePipelineRun :
    (generatePipelineRun entropy tasks resolved prParams taskRunSpecs cfg).stepRuns =
      (tasks.map fun t => ((plannedSteps t (resolved t.name) cfg).length *
        matrixExpansionCount (resolveMatrixValues t.matrix prParams) : Int)).sum := by
  have output := tasks_generatePipelineRun entropy tasks resolved prParams taskRunSpecs cfg
  have unnumbered : tasks = tasks.zipIdx.map Prod.fst := (List.zipIdx_map_fst 0 tasks).symm
  rw [PipelineRun.stepRuns, (output.map _).sum_eq, List.map_map]
  conv_rhs => rw [unnumbered, List.map_map]
  congr 1
  apply List.map_congr_left
  intro numbered _
  simp only [Function.comp_apply, generatedTask, length_steps]
  rfl

/-- The report is right about every task, and then about the total, if and only if every
task meets the condition. -/
theorem report_agrees_iff :
    ((∀ t ∈ tasks, ∀ draws : Nat → Entropy,
        (reportTask t (resolved t.name) prParams cfg).steps =
          (generatePipelineTask draws t (resolved t.name) prParams cfg).steps.length) ∧
      (summarize tasks resolved prParams cfg).steps =
        (generatePipelineRun entropy tasks resolved prParams taskRunSpecs cfg).stepRuns) ↔
      ∀ t ∈ tasks, ReportsSteps t (resolved t.name) cfg := by
  constructor
  · rintro ⟨every, _⟩ t membership
    rw [← reportsSteps_iff, every t membership (entropy 0), length_steps]
  · intro meets
    have every (t : TaskInfo) (membership : t ∈ tasks) :
        (reportTask t (resolved t.name) prParams cfg).steps =
          ((plannedSteps t (resolved t.name) cfg).length : Int) :=
      reportsSteps_iff.mpr (meets t membership)
    constructor
    · intro t membership draws
      rw [every t membership, length_steps]
    · rw [summarize, foldl_add_steps, stepRuns_generatePipelineRun, Int.zero_add]
      congr 1
      apply List.map_congr_left
      intro t membership
      rw [every t membership, reportTask_multiplier]

end totals

/-- A task from a bundle that is not resolved, with no steps by default: none is reported
and one is generated. -/
theorem unresolved_bundle_reported :
    let t : TaskInfo := { name := "build", bundleRef := "quay.io/org/task:latest" }
    let cfg : Config := { defaultSteps := 0 }
    (reportTask t none [] cfg).steps = 0 ∧
      (generatePipelineTask (fun _ => .zeros) t none [] cfg).steps.length = 1 ∧
      (summarize [t] (fun _ => none) [] cfg).steps = 0 ∧
      (generatePipelineRun (fun _ _ => .zeros) [t] (fun _ => none) [] [] cfg).stepRuns = 1 := by
  decide +kernel

end KubeShard.Generate
