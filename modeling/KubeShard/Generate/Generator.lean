import KubeShard.Generate.Pipeline
import KubeShard.Program.Base64

/-!
# The load-test generator

`tools/generate-from-pipeline/generator.go`.  The functions that draw random numbers take
what is drawn as an argument.  Integers are those of mathematics; only the seconds to sleep
are bounded, because their text is part of a script whose length counts.
-/

namespace KubeShard.Generate

/-! ## Extraction -/

/-- The loop of `extractSingleTaskInfo` over the parameters of a bundle reference. -/
def TaskInfo.readBundleParams (info : TaskInfo) (params : List Param) : TaskInfo :=
  params.foldl
    (fun info param =>
      if param.name = "bundle" then { info with bundleRef := param.value.stringVal }
      else if param.name = "name" then { info with bundleTaskName := param.value.stringVal }
      else info)
    info

/-- What `extractSingleTaskInfo` takes from a task reference. -/
def TaskInfo.readTaskRef (info : TaskInfo) : Option TaskRef → TaskInfo
  | some ref => if ref.resolver = "bundles" then info.readBundleParams ref.params else info
  | none => info

section extraction

variable (marshal : TaskSpec → String)

/-- What it takes from an inline specification; `marshal` is `yaml.Marshal`. -/
def TaskInfo.readTaskSpec (info : TaskInfo) : Option TaskSpec → TaskInfo
  | some spec =>
      { info with
        inlineSteps := spec.steps.length
        inlineSize := (marshal spec).utf8ByteSize
        inlineStepNames := spec.steps.map Step.name
        inlineStepResources := spec.steps.map Step.computeResources }
  | none => info

/-- `extractSingleTaskInfo`. -/
def extractSingleTaskInfo (pt : PipelineTask) (isFinally : Bool) : TaskInfo :=
  let info : TaskInfo :=
    { name := pt.name, runAfter := pt.runAfter, matrix := pt.matrix, isFinallyTask := isFinally }
  (info.readTaskRef pt.taskRef).readTaskSpec marshal pt.taskSpec

/-- `extractTaskInfos`. -/
def extractTaskInfos (pr : PipelineRun) : List TaskInfo :=
  match pr.pipelineSpec with
  | none => []
  | some spec =>
      spec.tasks.map (fun pt => extractSingleTaskInfo marshal pt false) ++
        spec.finally_.map (fun pt => extractSingleTaskInfo marshal pt true)

end extraction

/-! ## Matrices -/

/-- The map of `resolveMatrixValues` from the names of array parameters to their values. -/
def paramMap (prParams : List Param) : String → Option (List String) :=
  prParams.foldl
    (fun map param =>
      if param.value.type = .array then
        Function.update map param.name (some param.value.arrayVal)
      else map)
    fun _ => none

/-- The name between `$(params.` and the `)` at the end of a text. -/
def paramReference (ref : String) : Option String :=
  if "$(params.".toList <+: ref.toList ∧ ")".toList <:+ ref.toList then
    some (.ofList (ref.toList.drop 9).dropLast)
  else none

/-- The body of the loop of `resolveMatrixValues`. -/
def resolveMatrixParam (map : String → Option (List String)) (mp : Param) : Param :=
  match mp.value.arrayVal with
  | [ref] =>
      match (paramReference ref).bind map with
      | some vals => { mp with value := { type := .array, arrayVal := vals } }
      | none => mp
  | _ => mp

/-- `resolveMatrixValues`. -/
def resolveMatrixValues (matrix : Option Matrix) (prParams : List Param) : Option Matrix :=
  match matrix with
  | none => none
  | some matrix =>
      some { params := matrix.params.map (resolveMatrixParam (paramMap prParams))
             include_ := matrix.include_ }

/-- `matrixExpansionCount`. -/
def matrixExpansionCount : Option Matrix → Nat
  | none => 1
  | some matrix =>
      let count := matrix.params.foldl
        (fun count mp =>
          let n := mp.value.arrayVal.length
          if n > 0 then count * n else count)
        1
      if count = 1 ∧ matrix.params.length = 0 ∧ matrix.include_.length > 0 then
        matrix.include_.length
      else count

/-! ## Scripts -/

/-- `randomInt`. -/
def randomInt (entropy : Entropy) (min max : Int) : Int :=
  if min ≥ max then min
  else
    match entropy.int (max - min + 1).toNat with
    | none => min
    | some n => min + n

/-- The script without padding. -/
def baseScript (sleepSecs : Int) : String := s!"#!/usr/bin/env sh\nsleep {sleepSecs}\n"

/-- `padScript`.  All texts here are ASCII, so their length is that of their bytes. -/
def padScript (entropy : Entropy) (sleepSecs targetBytes : Int) : String :=
  let base := baseScript sleepSecs
  let pad := "# padding: "
  let overhead : Int := base.length + pad.length + 1
  let needed := targetBytes - overhead
  if needed ≤ 0 then base
  else
    let rawBytes := (needed * 3).tdiv 4
    if rawBytes ≤ 0 then base
    else
      let padding := Base64.encode (entropy.bytes rawBytes.toNat)
      let padding := if padding.length > needed then padding.take needed.toNat else padding
      base ++ pad ++ String.ofList padding ++ "\n"

/-! ## Tasks -/

/-- The variables `generatePipelineTask` computes before it makes the steps. -/
structure Plan where
  stepCount : Int
  targetSize : Int
  stepNames : List String := []
  stepResources : List ResourceRequirements := []
  deriving DecidableEq, Repr

namespace Plan

/-- What `generatePipelineTask` starts with. -/
def initial (cfg : Config) : Plan where
  stepCount := cfg.defaultSteps
  targetSize := cfg.defaultTaskSizeKB * 1024

/-- What it takes over from the result of the resolution. -/
def followResolved (plan : Plan) : Option ResolvedTask → Plan
  | none => plan
  | some r =>
      if r.err = none then
        let plan :=
          if r.stepNames.length > 0 then
            { plan with
              stepCount := r.stepNames.length
              stepNames := r.stepNames
              stepResources := r.stepResources }
          else plan
        if r.sizeBytes > 0 then { plan with targetSize := r.sizeBytes } else plan
      else if r.sizeBytes > 0 then { plan with targetSize := r.sizeBytes }
      else plan

/-- What it takes over from an inline specification. -/
def followInline (plan : Plan) (t : TaskInfo) : Plan :=
  if t.bundleRef = "" ∧ t.inlineSteps > 0 then
    { stepCount := t.inlineSteps
      targetSize := if t.inlineSize > 0 then t.inlineSize else plan.targetSize
      stepNames := t.inlineStepNames
      stepResources := t.inlineStepResources }
  else plan

/-- At least one step. -/
def atLeastOne (plan : Plan) : Plan :=
  if plan.stepCount < 1 then { plan with stepCount := 1 } else plan

/-- The size each step is to have. -/
def perStepSize (plan : Plan) : Int :=
  let size := plan.targetSize.tdiv plan.stepCount
  if size < 100 then 100 else size

/-- The name of a step. -/
def stepName (plan : Plan) (i : Nat) : String :=
  match plan.stepNames[i]? with
  | some name => if name ≠ "" then name else s!"step-{i}"
  | none => s!"step-{i}"

end Plan

/-- The plan of a task. -/
def planTask (t : TaskInfo) (r : Option ResolvedTask) (cfg : Config) : Plan :=
  (((Plan.initial cfg).followResolved r).followInline t).atLeastOne

/-- The body of the loop of `generatePipelineTask` over the steps. -/
def generateStep (entropy : Entropy) (plan : Plan) (cfg : Config) (i : Nat) : Step where
  name := plan.stepName i
  image := cfg.image
  imagePullPolicy := "IfNotPresent"
  script := padScript entropy (randomInt entropy cfg.sleepMin cfg.sleepMax) plan.perStepSize
  computeResources :=
    if cfg.preserveResources then (plan.stepResources[i]?).getD {} else {}

/-- The steps `generatePipelineTask` makes. -/
def generateSteps (entropy : Nat → Entropy) (plan : Plan) (cfg : Config) : List Step :=
  (List.range plan.stepCount.toNat).map fun i => generateStep (entropy i) plan cfg i

/-- `generatePipelineTask`. -/
def generatePipelineTask (entropy : Nat → Entropy) (t : TaskInfo) (r : Option ResolvedTask)
    (prParams : List Param) (cfg : Config) : PipelineTask :=
  let steps := generateSteps entropy (planTask t r cfg) cfg
  let matrix := resolveMatrixValues t.matrix prParams
  let params :=
    match matrix with
    | none => []
    | some matrix => matrix.params.map fun mp => { name := mp.name, type := .string }
  { name := t.name
    runAfter := t.runAfter
    taskSpec := some { steps := steps, params := params }
    matrix := matrix }

/-! ## The whole PipelineRun -/

/-- The map of `generatePipelineRun` from the names of tasks to their overrides. -/
def taskRunSpecMap (taskRunSpecs : List PipelineTaskRunSpec) :
    String → Option PipelineTaskRunSpec :=
  taskRunSpecs.foldl (fun map trs => Function.update map trs.pipelineTaskName (some trs))
    fun _ => none

/-- The override `generatePipelineRun` passes on for a task. -/
def forwardTaskRunSpec (taskRunSpecs : List PipelineTaskRunSpec) (t : TaskInfo)
    (cfg : Config) : Option PipelineTaskRunSpec :=
  if cfg.preserveResources then
    match taskRunSpecMap taskRunSpecs t.name with
    | none => none
    | some trs =>
        if trs.computeResources ≠ none ∨ trs.stepSpecs.length > 0 then
          some { pipelineTaskName := t.name
                 computeResources := trs.computeResources
                 stepSpecs := trs.stepSpecs }
        else none
  else none

/-- The fields of the PipelineRun that the loop of `generatePipelineRun` appends to. -/
structure Draft where
  spec : PipelineSpec := {}
  taskRunSpecs : List PipelineTaskRunSpec := []
  deriving DecidableEq, Repr

/-- The body of that loop, with the task it has generated. -/
def Draft.add (draft : Draft) (t : TaskInfo) (pt : PipelineTask)
    (override : Option PipelineTaskRunSpec) : Draft where
  spec :=
    if t.isFinallyTask then { draft.spec with finally_ := draft.spec.finally_ ++ [pt] }
    else { draft.spec with tasks := draft.spec.tasks ++ [pt] }
  taskRunSpecs := draft.taskRunSpecs ++ override.toList

/-- `generatePipelineRun`. -/
def generatePipelineRun (entropy : Nat → Nat → Entropy) (tasks : List TaskInfo)
    (resolved : Resolution) (prParams : List Param) (taskRunSpecs : List PipelineTaskRunSpec)
    (cfg : Config) : PipelineRun :=
  let draft := tasks.zipIdx.foldl
    (fun (draft : Draft) (numbered : TaskInfo × Nat) =>
      let t := numbered.1
      draft.add t (generatePipelineTask (entropy numbered.2) t (resolved t.name) prParams cfg)
        (forwardTaskRunSpec taskRunSpecs t cfg))
    {}
  { apiVersion := "tekton.dev/v1"
    kind := "PipelineRun"
    generateName := cfg.genPrefix
    namespace_ := cfg.namespace_
    pipelineSpec := some draft.spec
    taskRunSpecs := draft.taskRunSpecs }

end KubeShard.Generate
