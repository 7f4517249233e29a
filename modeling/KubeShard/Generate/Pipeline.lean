import Mathlib.Algebra.Ring.Int.Defs
import Mathlib.Algebra.Ring.Nat
import Mathlib.Logic.Function.Basic

/-!
# Pipelines and the load-test generator's data

`tools/generate-from-pipeline` reads a Tekton PipelineRun and writes another one that
puts the same load on the cluster.  Of Tekton's types the model has the fields the tool
reads or fills in.  The steps of the input keep their names and resources only; the size of
a task comes from the YAML text of its whole specification, which is a parameter where it is
needed.
-/

namespace KubeShard.Generate

/-! ## Tekton -/

/-- `ParamType`; `unset` is the empty string. -/
inductive ParamType where
  | unset
  | string
  | array
  | object
  deriving DecidableEq, Repr

/-- `ParamValue`. -/
structure ParamValue where
  type : ParamType := .unset
  stringVal : String := ""
  arrayVal : List String := []
  objectVal : List (String × String) := []
  deriving DecidableEq, Repr

/-- `Param`. -/
structure Param where
  name : String
  value : ParamValue
  deriving DecidableEq, Repr

/-- `IncludeParams`. -/
structure IncludeParams where
  name : String
  params : List Param := []
  deriving DecidableEq, Repr

/-- `Matrix`. -/
structure Matrix where
  params : List Param := []
  include_ : List IncludeParams := []
  deriving DecidableEq, Repr

/-- `corev1.ResourceRequirements`. -/
structure ResourceRequirements where
  requests : List (String × String) := []
  limits : List (String × String) := []
  deriving DecidableEq, Repr

/-- `Step`. -/
structure Step where
  name : String
  image : String := ""
  imagePullPolicy : String := ""
  script : String := ""
  computeResources : ResourceRequirements := {}
  deriving DecidableEq, Repr

/-- `ParamSpec`. -/
structure ParamSpec where
  name : String
  type : ParamType
  deriving DecidableEq, Repr

/-- `TaskSpec`, embedded in a task of a pipeline or read from a bundle. -/
structure TaskSpec where
  params : List ParamSpec := []
  steps : List Step := []
  deriving DecidableEq, Repr

/-- `TaskRef`, as far as it concerns a resolver. -/
structure TaskRef where
  resolver : String
  params : List Param := []
  deriving DecidableEq, Repr

/-- `PipelineTask`. -/
structure PipelineTask where
  name : String
  taskRef : Option TaskRef := none
  taskSpec : Option TaskSpec := none
  runAfter : List String := []
  matrix : Option Matrix := none
  deriving DecidableEq, Repr

/-- `PipelineSpec`. -/
structure PipelineSpec where
  tasks : List PipelineTask := []
  finally_ : List PipelineTask := []
  deriving DecidableEq, Repr

/-- `TaskRunStepSpec`. -/
structure TaskRunStepSpec where
  name : String
  computeResources : ResourceRequirements := {}
  deriving DecidableEq, Repr

/-- `PipelineTaskRunSpec`. -/
structure PipelineTaskRunSpec where
  pipelineTaskName : String
  computeResources : Option ResourceRequirements := none
  stepSpecs : List TaskRunStepSpec := []
  deriving DecidableEq, Repr

/-- `PipelineRun`. -/
structure PipelineRun where
  apiVersion : String := ""
  kind : String := ""
  generateName : String := ""
  namespace_ : String := ""
  params : List Param := []
  pipelineSpec : Option PipelineSpec := none
  taskRunSpecs : List PipelineTaskRunSpec := []
  deriving DecidableEq, Repr

/-- The tasks of a pipeline, the regular ones first. -/
def PipelineSpec.all (spec : PipelineSpec) : List PipelineTask := spec.tasks ++ spec.finally_

/-- The tasks of an inline pipeline. -/
def PipelineRun.tasks (pr : PipelineRun) : List PipelineTask :=
  match pr.pipelineSpec with
  | none => []
  | some spec => spec.all

/-! ## The tool -/

/-- `taskInfo`. -/
structure TaskInfo where
  name : String
  bundleRef : String := ""
  bundleTaskName : String := ""
  runAfter : List String := []
  matrix : Option Matrix := none
  isFinallyTask : Bool := false
  inlineSteps : Nat := 0
  inlineSize : Nat := 0
  inlineStepNames : List String := []
  inlineStepResources : List ResourceRequirements := []
  deriving DecidableEq, Repr

/-- An `int`. -/
abbrev MachineInt := { number : Int // -2 ^ 63 ≤ number ∧ number < 2 ^ 63 }

theorem machine_one : -2 ^ 63 ≤ (1 : Int) ∧ (1 : Int) < 2 ^ 63 := by decide

theorem machine_ten : -2 ^ 63 ≤ (10 : Int) ∧ (10 : Int) < 2 ^ 63 := by decide

/-- `config`, with the defaults of the flags. -/
structure Config where
  namespace_ : String := "default"
  genPrefix : String := "load-test-"
  image : String := "registry.access.redhat.com/hi/core-runtime:2.43"
  sleepMin : MachineInt := ⟨1, machine_one⟩
  sleepMax : MachineInt := ⟨10, machine_ten⟩
  defaultTaskSizeKB : Int := 17
  defaultSteps : Int := 3
  preserveResources : Bool := false
  deriving DecidableEq, Repr

/-- `resolvedTask`; `err` is the text of the error. -/
structure ResolvedTask where
  name : String
  stepNames : List String := []
  stepResources : List ResourceRequirements := []
  sizeBytes : Int := 0
  err : Option String := none
  deriving DecidableEq, Repr

/-- The results of the resolution by task name, as the map of `resolveBundles` answers. -/
abbrev Resolution := String → Option ResolvedTask

/-- What `crypto/rand` gives to one step: an answer of `rand.Int` below a bound, and of
`rand.Read`. -/
structure Entropy where
  int : (bound : Nat) → Option (Fin bound)
  bytes : (count : Nat) → { drawn : List UInt8 // drawn.length = count }

end KubeShard.Generate
