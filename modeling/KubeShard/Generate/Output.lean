import KubeShard.Generate.Names
import Mathlib.Data.List.Perm.Basic

/-!
# The generated PipelineRun

The loop of `generatePipelineRun` appends each task to one of two lists and perhaps an
override to a third.  Up to the order of regular and finally tasks, the result holds one
generated task for each task of the input.
-/

namespace KubeShard.Generate

/-! ## The tasks of the input -/

/-- The parameters of a bundle reference fill in two fields. -/
theorem TaskInfo.readBundleParams_eq (info : TaskInfo) (params : List Param) :
    ∃ bundleRef bundleTaskName,
      info.readBundleParams params = { info with bundleRef, bundleTaskName } := by
  induction params generalizing info with
  | nil => exact ⟨info.bundleRef, info.bundleTaskName, rfl⟩
  | cons param params ih =>
      rw [readBundleParams, List.foldl_cons]
      split
      · exact ih _
      · split
        · exact ih _
        · exact ih _

theorem TaskInfo.readTaskRef_eq (info : TaskInfo) (ref : Option TaskRef) :
    ∃ bundleRef bundleTaskName,
      info.readTaskRef ref = { info with bundleRef, bundleTaskName } := by
  unfold readTaskRef
  split
  · split
    · exact readBundleParams_eq _ _
    · exact ⟨info.bundleRef, info.bundleTaskName, rfl⟩
  · exact ⟨info.bundleRef, info.bundleTaskName, rfl⟩

section extracted

variable (marshal : TaskSpec → String)

/-- What is extracted of a task, whatever its bundle reference and its size are. -/
theorem extractSingleTaskInfo_eq (pt : PipelineTask) (isFinally : Bool) :
    ∃ bundleRef bundleTaskName inlineSize,
      extractSingleTaskInfo marshal pt isFinally =
        { name := pt.name, bundleRef, bundleTaskName, inlineSize
          runAfter := pt.runAfter
          matrix := pt.matrix
          isFinallyTask := isFinally
          inlineSteps := pt.steps.length
          inlineStepNames := pt.steps.map Step.name
          inlineStepResources := pt.steps.map Step.computeResources } := by
  obtain ⟨bundleRef, bundleTaskName, isReferenced⟩ := TaskInfo.readTaskRef_eq
    { name := pt.name, runAfter := pt.runAfter, matrix := pt.matrix, isFinallyTask := isFinally }
    pt.taskRef
  cases isSpec : pt.taskSpec with
  | none =>
      refine ⟨bundleRef, bundleTaskName, 0, ?_⟩
      simp only [extractSingleTaskInfo, isReferenced, isSpec, PipelineTask.steps]
      rfl
  | some spec =>
      refine ⟨bundleRef, bundleTaskName, (marshal spec).utf8ByteSize, ?_⟩
      simp only [extractSingleTaskInfo, isReferenced, isSpec, PipelineTask.steps]
      rfl

theorem extractSingleTaskInfo_matrix (pt : PipelineTask) (isFinally : Bool) :
    (extractSingleTaskInfo marshal pt isFinally).matrix = pt.matrix := by
  obtain ⟨_, _, _, isInfo⟩ := extractSingleTaskInfo_eq marshal pt isFinally
  rw [isInfo]

theorem mem_extractTaskInfos {pr : PipelineRun} {t : TaskInfo} :
    t ∈ extractTaskInfos marshal pr ↔
      ∃ spec, pr.pipelineSpec = some spec ∧
        ((∃ pt ∈ spec.tasks, extractSingleTaskInfo marshal pt false = t) ∨
          ∃ pt ∈ spec.finally_, extractSingleTaskInfo marshal pt true = t) := by
  cases isSpec : pr.pipelineSpec with
  | none => simp [extractTaskInfos, isSpec]
  | some spec => simp [extractTaskInfos, isSpec]

/-- The extracted tasks have the matrices of the input, in its order. -/
theorem matrices_extractTaskInfos (pr : PipelineRun) :
    (extractTaskInfos marshal pr).map TaskInfo.matrix = pr.tasks.map PipelineTask.matrix := by
  cases isSpec : pr.pipelineSpec with
  | none => simp [extractTaskInfos, PipelineRun.tasks, isSpec]
  | some spec =>
      simp [extractTaskInfos, PipelineRun.tasks, PipelineSpec.all, isSpec,
        Function.comp_def, extractSingleTaskInfo_matrix]

end extracted

/-! ## One round of the loop -/

theorem Draft.all_add (draft : Draft) (t : TaskInfo) (pt : PipelineTask)
    (override : Option PipelineTaskRunSpec) :
    List.Perm (draft.add t pt override).spec.all (draft.spec.all ++ [pt]) := by
  simp only [Draft.add, PipelineSpec.all]
  split
  · rw [List.append_assoc]
  · rw [List.append_assoc, List.append_assoc]
    exact (List.perm_append_comm).append_left _

section loop

variable (generated : TaskInfo × Nat → PipelineTask)
  (override : TaskInfo × Nat → Option PipelineTaskRunSpec)

/-- The tasks in the draft after the loop. -/
theorem foldl_add_all (numbered : List (TaskInfo × Nat)) (draft : Draft) :
    List.Perm
      (numbered.foldl (fun draft entry => draft.add entry.1 (generated entry) (override entry))
        draft).spec.all
      (draft.spec.all ++ numbered.map generated) := by
  induction numbered generalizing draft with
  | nil => simp
  | cons entry numbered ih =>
      rw [List.foldl_cons, List.map_cons, ← List.singleton_append, ← List.append_assoc]
      exact (ih _).trans ((draft.all_add _ _ _).append_right _)

/-- The overrides in the draft after the loop. -/
theorem foldl_add_taskRunSpecs (numbered : List (TaskInfo × Nat)) (draft : Draft) :
    (numbered.foldl (fun draft entry => draft.add entry.1 (generated entry) (override entry))
        draft).taskRunSpecs =
      draft.taskRunSpecs ++ numbered.filterMap override := by
  induction numbered generalizing draft with
  | nil => simp
  | cons entry numbered ih =>
      rw [List.foldl_cons, ih]
      cases isOverride : override entry with
      | none => simp [Draft.add, isOverride]
      | some trs => simp [Draft.add, isOverride]

end loop

/-! ## The result -/

section output

variable (entropy : Nat → Nat → Entropy) (tasks : List TaskInfo) (resolved : Resolution)
  (prParams : List Param) (taskRunSpecs : List PipelineTaskRunSpec) (cfg : Config)

/-- The task generated for a task of the list. -/
def generatedTask (numbered : TaskInfo × Nat) : PipelineTask :=
  generatePipelineTask (entropy numbered.2) numbered.1 (resolved numbered.1.name) prParams cfg

theorem tasks_generatePipelineRun :
    List.Perm (generatePipelineRun entropy tasks resolved prParams taskRunSpecs cfg).tasks
      (tasks.zipIdx.map (generatedTask entropy resolved prParams cfg)) :=
  foldl_add_all _ _ tasks.zipIdx {}

theorem taskRunSpecs_generatePipelineRun :
    (generatePipelineRun entropy tasks resolved prParams taskRunSpecs cfg).taskRunSpecs =
      tasks.filterMap fun t => forwardTaskRunSpec taskRunSpecs t cfg := by
  have numbered := foldl_add_taskRunSpecs (generatedTask entropy resolved prParams cfg)
    (fun entry => forwardTaskRunSpec taskRunSpecs entry.1 cfg) tasks.zipIdx {}
  have unnumbered : tasks.zipIdx.filterMap
      ((fun t => forwardTaskRunSpec taskRunSpecs t cfg) ∘ Prod.fst) =
        tasks.filterMap fun t => forwardTaskRunSpec taskRunSpecs t cfg := by
    rw [← List.filterMap_map, List.zipIdx_map_fst]
  rw [← unnumbered]
  exact numbered

/-- Every task of a list has a number. -/
theorem exists_mem_zipIdx {t : TaskInfo} : (∃ i, (t, i) ∈ tasks.zipIdx) ↔ t ∈ tasks := by
  constructor
  · rintro ⟨i, membership⟩
    have first := List.mem_map_of_mem (f := Prod.fst) membership
    rwa [List.zipIdx_map_fst] at first
  · intro membership
    rw [← List.zipIdx_map_fst 0 tasks] at membership
    obtain ⟨⟨t, i⟩, isEntry, rfl⟩ := List.mem_map.mp membership
    exact ⟨i, isEntry⟩

/-- The generated tasks are those generated for a task of the list. -/
theorem mem_tasks_generatePipelineRun {pt : PipelineTask} :
    pt ∈ (generatePipelineRun entropy tasks resolved prParams taskRunSpecs cfg).tasks ↔
      ∃ t i, (t, i) ∈ tasks.zipIdx ∧
        generatePipelineTask (entropy i) t (resolved t.name) prParams cfg = pt := by
  rw [(tasks_generatePipelineRun entropy tasks resolved prParams taskRunSpecs cfg).mem_iff,
    List.mem_map, Prod.exists]
  rfl

end output

end KubeShard.Generate
