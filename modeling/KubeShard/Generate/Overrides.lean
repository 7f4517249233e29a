import KubeShard.Generate.Bundle

/-!
# Overrides of step resources

A PipelineRun may override the resources of single steps, by the names of the steps.  With
`preserveResources` these overrides are passed on as they are, while the steps they name are
generated.  The names meet if the tool has read the steps of the task.
-/

namespace KubeShard.Generate

open Naming

/-! ## The original tasks -/

section run

variable (marshal : TaskSpec → String) (registry : Registry) (pr : PipelineRun)

/-- The names of the steps of the original tasks, by task: of an inline task those in its
specification, of a bundled one those the registry serves if it does. -/
structure Originals (original : String → List String) : Prop where
  inline : ∀ t ∈ extractTaskInfos marshal pr, t.Inline → original t.name = t.inlineStepNames
  bundled : ∀ t ∈ bundled (extractTaskInfos marshal pr), (resolveBundle registry t).err = none →
    original t.name = (resolveBundle registry t).stepNames

/-- The overrides name steps of the original tasks. -/
def OverridesOriginals (original : String → List String) : Prop :=
  ∀ trs ∈ pr.taskRunSpecs, ∀ step ∈ trs.stepSpecs, step.name ∈ original trs.pipelineTaskName

end run

/-- Every override of a PipelineRun names a step of its task. -/
def PipelineRun.OverridesSteps (pr : PipelineRun) : Prop :=
  ∀ trs ∈ pr.taskRunSpecs, ∀ pt ∈ pr.tasks, pt.name = trs.pipelineTaskName →
    ∀ step ∈ trs.stepSpecs, step.name ∈ pt.steps.map Step.name

/-! ## What is forwarded -/

theorem taskRunSpecMap_eq_some {taskRunSpecs : List PipelineTaskRunSpec} {name : String}
    {trs : PipelineTaskRunSpec} (isSpec : taskRunSpecMap taskRunSpecs name = some trs) :
    trs ∈ taskRunSpecs ∧ trs.pipelineTaskName = name := by
  induction taskRunSpecs using List.reverseRecOn with
  | nil => cases isSpec
  | append_singleton taskRunSpecs last ih =>
      rw [taskRunSpecMap, List.foldl_append, List.foldl_cons, List.foldl_nil,
        Function.update_apply] at isSpec
      split at isSpec
      · next isName =>
          obtain rfl := Option.some.inj isSpec
          exact ⟨List.mem_append_right _ List.mem_cons_self, isName.symm⟩
      · obtain ⟨membership, isName⟩ := ih isSpec
        exact ⟨List.mem_append_left _ membership, isName⟩

section forwarded

variable {taskRunSpecs : List PipelineTaskRunSpec} {t : TaskInfo} {cfg : Config}

/-- An override with steps is passed on. -/
theorem forwardTaskRunSpec_steps (preserve : cfg.preserveResources = true)
    {trs : PipelineTaskRunSpec} (isSpec : taskRunSpecMap taskRunSpecs t.name = some trs)
    {step : TaskRunStepSpec} (membership : step ∈ trs.stepSpecs) :
    forwardTaskRunSpec taskRunSpecs t cfg =
      some ⟨t.name, trs.computeResources, trs.stepSpecs⟩ := by
  have several : trs.stepSpecs.length > 0 := List.length_pos_of_mem membership
  simp [forwardTaskRunSpec, preserve, isSpec, several]

/-- What is passed on is the override of the task. -/
theorem forwardTaskRunSpec_eq_some {forwarded : PipelineTaskRunSpec}
    (isForwarded : forwardTaskRunSpec taskRunSpecs t cfg = some forwarded) :
    ∃ trs, taskRunSpecMap taskRunSpecs t.name = some trs ∧
      forwarded.pipelineTaskName = t.name ∧ forwarded.stepSpecs = trs.stepSpecs := by
  unfold forwardTaskRunSpec at isForwarded
  split at isForwarded
  · split at isForwarded
    · cases isForwarded
    · next trs isSpec =>
        split at isForwarded
        · obtain rfl := Option.some.inj isForwarded
          exact ⟨trs, isSpec, rfl, rfl⟩
        · cases isForwarded
  · cases isForwarded

end forwarded

/-! ## What is read -/

/-- The tool has read the steps of a task. -/
def StepsRead (t : TaskInfo) (r : Option ResolvedTask) : Prop :=
  t.Inline ∨ ∃ result, r = some result ∧ result.err = none

/-- An override that meets a generated step: it names a step that was read, or it is the
name that a step without a name gets by default. -/
def MeetsStep (t : TaskInfo) (r : Option ResolvedTask) (cfg : Config) (name : String) : Prop :=
  StepsRead t r ∧ name ≠ "" ∨
    ∃ i, (plannedSteps t r cfg)[i]? = some "" ∧ name = defaultName i

theorem stepsRead_of_declared {t : TaskInfo} {r : Option ResolvedTask}
    (some : declaredSteps t r ≠ []) : StepsRead t r := by
  by_contra unread
  simp only [StepsRead, not_or, not_exists, not_and] at unread
  exact some (declaredSteps_unresolved unread.1 fun result => unread.2 result)

/-- The names of planned steps are those of steps that were read. -/
theorem stepsRead_of_planned {t : TaskInfo} {r : Option ResolvedTask} {cfg : Config}
    {name : String} (planned : name ∈ plannedSteps t r cfg) (given : name ≠ "") :
    StepsRead t r := by
  apply stepsRead_of_declared
  intro none
  rw [plannedSteps_default none] at planned
  exact given (List.eq_of_mem_replicate planned)

section original

variable {marshal : TaskSpec → String} {registry : Registry} {pr : PipelineRun}
  {original : String → List String} {skipResolve : Bool} {finished : List TaskInfo}

/-- An extracted task has as many names as steps. -/
theorem length_inlineStepNames {t : TaskInfo} (extracted : t ∈ extractTaskInfos marshal pr) :
    t.inlineStepNames.length = t.inlineSteps := by
  obtain ⟨spec, _, ⟨pt, _, rfl⟩ | ⟨pt, _, rfl⟩⟩ := (mem_extractTaskInfos marshal).mp extracted
  · obtain ⟨_, _, _, isInfo⟩ := extractSingleTaskInfo_eq marshal pt false
    rw [isInfo, List.length_map]
  · obtain ⟨_, _, _, isInfo⟩ := extractSingleTaskInfo_eq marshal pt true
    rw [isInfo, List.length_map]

theorem declaredSteps_extracted {t : TaskInfo} (extracted : t ∈ extractTaskInfos marshal pr)
    (inline : t.Inline) (r : Option ResolvedTask) : declaredSteps t r = t.inlineStepNames := by
  have count := length_inlineStepNames extracted
  rw [declaredSteps_inline inline]
  apply List.ext_getElem
  · simp [count]
  · intro i _ inside
    simp [List.getD_eq_getElem?_getD, List.getElem?_eq_getElem inside]

/-- Where the tool has read the steps of a task, it has read those of the original. -/
theorem original_eq_declared (originals : Originals marshal registry pr original)
    (completed : List.Perm finished (bundled (extractTaskInfos marshal pr))) {t : TaskInfo}
    (extracted : t ∈ extractTaskInfos marshal pr)
    (read : StepsRead t (resolution registry skipResolve finished t.name)) :
    original t.name = declaredSteps t (resolution registry skipResolve finished t.name) := by
  by_cases inline : t.Inline
  · rw [originals.inline t extracted inline, declaredSteps_extracted extracted inline]
  · rcases read with isInline | ⟨result, isResult, success⟩
    · exact absurd isInline inline
    · obtain ⟨other, membership, sameName, rfl⟩ := resolution_eq_some isResult
      rw [isResult, declaredSteps_resolved inline success, ← sameName]
      exact originals.bundled other (completed.mem_iff.mp membership) success

end original

/-! ## The generated overrides -/

section output

variable (marshal : TaskSpec → String) (registry : Registry) (skipResolve : Bool)
  (finished : List TaskInfo) (entropy : Nat → Nat → Entropy) (cfg : Config) (pr : PipelineRun)

/-- What the tool writes for a PipelineRun. -/
def loadTest : PipelineRun :=
  generatePipelineRun entropy (extractTaskInfos marshal pr)
    (resolution registry skipResolve finished) pr.params pr.taskRunSpecs cfg

/-- With overrides of steps of the original tasks: those that are forwarded name generated
steps if and only if each of them meets one. -/
theorem loadTest_overrides_iff (preserve : cfg.preserveResources = true)
    {original : String → List String} (originals : Originals marshal registry pr original)
    (overrides : OverridesOriginals pr original)
    (completed : List.Perm finished (bundled (extractTaskInfos marshal pr))) :
    (loadTest marshal registry skipResolve finished entropy cfg pr).OverridesSteps ↔
      ∀ t ∈ extractTaskInfos marshal pr, ∀ trs,
        taskRunSpecMap pr.taskRunSpecs t.name = some trs → ∀ step ∈ trs.stepSpecs,
          MeetsStep t (resolution registry skipResolve finished t.name) cfg step.name := by
  constructor
  · intro names t extracted trs isSpec step isStep
    obtain ⟨i, isTask⟩ := (exists_mem_zipIdx _).mpr extracted
    have forwarded : ⟨t.name, trs.computeResources, trs.stepSpecs⟩ ∈
        (loadTest marshal registry skipResolve finished entropy cfg pr).taskRunSpecs := by
      rw [loadTest, taskRunSpecs_generatePipelineRun]
      exact List.mem_filterMap.mpr
        ⟨t, extracted, forwardTaskRunSpec_steps preserve isSpec isStep⟩
    have generated := names _ forwarded _
      ((mem_tasks_generatePipelineRun ..).mpr ⟨t, i, isTask, rfl⟩) rfl step isStep
    rw [names_steps, mem_fill] at generated
    rcases generated with ⟨planned, given⟩ | gap
    · exact .inl ⟨stepsRead_of_planned planned given, given⟩
    · exact .inr gap
  · intro meets forwarded isForwarded pt isTask sameName step isStep
    rw [loadTest, taskRunSpecs_generatePipelineRun] at isForwarded
    obtain ⟨source, _, isSource⟩ := List.mem_filterMap.mp isForwarded
    obtain ⟨trs, isSpec, isName, sameSteps⟩ := forwardTaskRunSpec_eq_some isSource
    obtain ⟨t, i, isNumbered, rfl⟩ := (mem_tasks_generatePipelineRun ..).mp isTask
    have extracted := (exists_mem_zipIdx _).mp ⟨i, isNumbered⟩
    have shared : t.name = source.name := sameName.trans isName
    rw [← shared] at isSpec
    rw [sameSteps] at isStep
    rw [names_steps, mem_fill]
    rcases meets t extracted trs isSpec step isStep with ⟨read, given⟩ | gap
    · left
      refine ⟨?_, given⟩
      obtain ⟨isEntry, isTaskName⟩ := taskRunSpecMap_eq_some isSpec
      have named := overrides trs isEntry step isStep
      rw [isTaskName, original_eq_declared originals completed extracted read] at named
      rwa [plannedSteps_declared (List.ne_nil_of_mem named)]
    · exact .inr gap

end output

/-! ## A bundle that is not resolved -/

/-- A registry with one bundle, whose task has one step. -/
def compileRegistry : Registry := fun _ =>
  .ok [{ kind := "task", name := "compile", size := 100
         archive := .ok [.member 200 (some { steps := [{ name := "compile" }] })] }]

/-- A task from that bundle, and an override of its step. -/
def compileRun : PipelineRun where
  pipelineSpec := some { tasks := [
    { name := "build", taskRef := some { resolver := "bundles", params :=
        [⟨"bundle", { type := .string, stringVal := "quay.io/org/compile:latest" }⟩,
          ⟨"name", { type := .string, stringVal := "compile" }⟩] } }] }
  taskRunSpecs := [{ pipelineTaskName := "build", stepSpecs := [{ name := "compile" }] }]

/-- What is extracted of the task. -/
def compileTask : TaskInfo where
  name := "build"
  bundleRef := "quay.io/org/compile:latest"
  bundleTaskName := "compile"

theorem extract_compileRun : extractTaskInfos (fun _ => "") compileRun = [compileTask] := by
  decide +kernel

theorem originals_compileRun :
    Originals (fun _ => "") compileRegistry compileRun fun _ => ["compile"] where
  inline := by
    rw [extract_compileRun]
    decide +kernel
  bundled := by
    rw [extract_compileRun]
    decide +kernel

/-- Resolved, the override meets the step. -/
theorem loadTest_overrides_iff_resolved :
    (loadTest (fun _ => "") compileRegistry false [compileTask] (fun _ _ => .zeros)
      { preserveResources := true } compileRun).OverridesSteps := by
  apply (loadTest_overrides_iff (fun _ => "") compileRegistry false [compileTask]
    (fun _ _ => .zeros) { preserveResources := true } compileRun rfl originals_compileRun
    (by unfold OverridesOriginals; decide +kernel) (by rw [extract_compileRun]; rfl)).mpr
  rw [extract_compileRun]
  intro t isTask trs isSpec step isStep
  obtain rfl := List.mem_singleton.mp isTask
  obtain rfl : trs = { pipelineTaskName := "build", stepSpecs := [{ name := "compile" }] } :=
    (Option.some.inj isSpec).symm
  obtain rfl := List.mem_singleton.mp isStep
  exact .inl ⟨.inr ⟨_, rfl, rfl⟩, by decide⟩

/-- Not resolved, the steps are generated under default names, and the override of a step of
the original task names none of them. -/
theorem skipped_bundle_override :
    let out := loadTest (fun _ => "") compileRegistry true [compileTask] (fun _ _ => .zeros)
      { preserveResources := true } compileRun
    Originals (fun _ => "") compileRegistry compileRun (fun _ => ["compile"]) ∧
    OverridesOriginals compileRun (fun _ => ["compile"]) ∧
    out.taskRunSpecs = compileRun.taskRunSpecs ∧
    out.tasks.map (fun pt => (pt.name, pt.steps.map Step.name)) =
      [("build", ["step-0", "step-1", "step-2"])] ∧
    ¬out.OverridesSteps := by
  refine ⟨originals_compileRun, ?_⟩
  unfold OverridesOriginals PipelineRun.OverridesSteps
  decide +kernel

end KubeShard.Generate
