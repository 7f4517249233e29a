import KubeShard.Generate.Output
import Mathlib.Data.List.Induction

/-!
# Resolving task bundles

`tools/generate-from-pipeline/bundle.go`: the steps of a task that is referenced by a bundle
are read from an OCI registry.  The registry, its archives and the parsers are not part of
this code.  A registry answers a reference with an error or with the layers of an image, and
a layer is met as the sequence of archive members that the reader comes across.
-/

namespace KubeShard.Generate

/-! ## Registries -/

/-- What the reader of an archive comes across: a member with its size and the Task it
parses as, if it does, or a failure. -/
inductive TarItem where
  | member (size : Nat) (task : Option TaskSpec)
  | brokenHeader (message : String)
  | brokenData (message : String)
  deriving DecidableEq, Repr

/-- A layer of an image: its two annotations, its compressed size, and its archive, or the
error of `Uncompressed`. -/
structure Layer where
  kind : String := ""
  name : String := ""
  size : Int
  archive : Except String (List TarItem)

/-- The calls before the layers of an image are known. -/
inductive PullError where
  | parse (message : String)
  | pull (message : String)
  | manifest (message : String)
  | layers (message : String)
  deriving DecidableEq, Repr

/-- What a registry answers to each bundle reference. -/
abbrev Registry := String → Except PullError (List Layer)

/-- The error text of `resolveBundle` for such a call. -/
def PullError.text (bundleRef : String) : PullError → String
  | .parse message => s!"parse ref {bundleRef.quote}: {message}"
  | .pull message => s!"pull {bundleRef.quote}: {message}"
  | .manifest message => s!"manifest: {message}"
  | .layers message => s!"layers: {message}"

/-! ## The resolver -/

/-- The loop of `extractTask`. -/
def extractMembers (lastSize : Nat) : List TarItem → Except String (TaskSpec × Nat)
  | [] =>
      if lastSize > 0 then .error s!"could not parse {lastSize} bytes as Task"
      else .error "empty tar"
  | .brokenHeader message :: _ => .error s!"tar: {message}"
  | .brokenData message :: _ => .error s!"read: {message}"
  | .member size (some task) :: _ => .ok (task, size)
  | .member size none :: rest => extractMembers size rest

/-- `extractTask`. -/
def extractTask (layer : Layer) : Except String (TaskSpec × Nat) :=
  match layer.archive with
  | .error message => .error s!"uncompress: {message}"
  | .ok items => extractMembers 0 items

/-- The layer `resolveBundle` reads a task from. -/
def isTaskLayer (t : TaskInfo) (layer : Layer) : Bool :=
  layer.kind = "task" && (t.bundleTaskName = "" || layer.name = t.bundleTaskName)

/-- `resolveBundle`. -/
def resolveBundle (registry : Registry) (t : TaskInfo) : ResolvedTask :=
  match registry t.bundleRef with
  | .error failure => { name := t.name, err := some (failure.text t.bundleRef) }
  | .ok layers =>
      match layers.find? (isTaskLayer t) with
      | none => { name := t.name, err := some "no task layer found in bundle" }
      | some layer =>
          match extractTask layer with
          | .error message =>
              { name := t.name
                sizeBytes := layer.size
                err := some s!"extract (using compressed layer size): {message}" }
          | .ok (task, rawSize) =>
              { name := t.name
                stepNames := task.steps.map Step.name
                stepResources := task.steps.map Step.computeResources
                sizeBytes := rawSize }

/-- The tasks `resolveBundles` starts a goroutine for. -/
def bundled (tasks : List TaskInfo) : List TaskInfo := tasks.filter fun t => t.bundleRef ≠ ""

/-- `resolveBundles`, whose goroutines store their results in this order. -/
def resolveBundles (registry : Registry) (finished : List TaskInfo) : Resolution :=
  finished.foldl (fun results t => Function.update results t.name (some (resolveBundle registry t)))
    fun _ => none

/-- The results `main` goes on with. -/
def resolution (registry : Registry) (skipResolve : Bool) (finished : List TaskInfo) :
    Resolution :=
  if skipResolve then fun _ => none else resolveBundles registry finished

/-- A result was stored for a task of its name. -/
theorem resolveBundles_eq_some {registry : Registry} {finished : List TaskInfo} {name : String}
    {result : ResolvedTask} (isResult : resolveBundles registry finished name = some result) :
    ∃ t ∈ finished, t.name = name ∧ resolveBundle registry t = result := by
  induction finished using List.reverseRecOn with
  | nil => cases isResult
  | append_singleton finished t ih =>
      rw [resolveBundles, List.foldl_append, List.foldl_cons, List.foldl_nil,
        Function.update_apply] at isResult
      split at isResult
      · next isName =>
          exact ⟨t, List.mem_append_right _ List.mem_cons_self, isName.symm,
            Option.some.inj isResult⟩
      · obtain ⟨other, membership, isOther⟩ := ih isResult
        exact ⟨other, List.mem_append_left _ membership, isOther⟩

theorem resolution_eq_some {registry : Registry} {skipResolve : Bool}
    {finished : List TaskInfo} {name : String} {result : ResolvedTask}
    (isResult : resolution registry skipResolve finished name = some result) :
    ∃ t ∈ finished, t.name = name ∧ resolveBundle registry t = result := by
  unfold resolution at isResult
  split at isResult
  · cases isResult
  · exact resolveBundles_eq_some isResult

end KubeShard.Generate
