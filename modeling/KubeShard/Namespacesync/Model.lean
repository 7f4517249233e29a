import KubeShard.Api.Condition
import KubeShard.Api.Error
import KubeShard.Program.Store

/-!
# The NamespaceSync reconciler

`operator/internal/controller/namespacesync/reconciler.go`: one pass lists the
namespaces of the primary that match the selector, creates the missing ones on
the secondary and deletes the ones that are no longer wanted.

The parser of label selectors belongs to `k8s.io/apimachinery` and is a
parameter.  So is the outcome of every API call: a schedule of faults may fail
any of them.  Building the secondary client is one such call.

Others may write to the secondary while a pass is under way.  A namespace that is deleted goes
away if something finalizes it; a secondary without a controller manager keeps it as
Terminating, which no pass looks at.
-/

namespace KubeShard.Namespacesync

/-- A label map, as its entries in key order. -/
abbrev Labels := List (String × String)

/-- `metav1.LabelSelectorOperator`. -/
inductive SelectorOperator where
  | «in»
  | notIn
  | «exists»
  | doesNotExist
  deriving DecidableEq, Repr

/-- `metav1.LabelSelectorRequirement`. -/
structure SelectorRequirement where
  key : String
  operator : SelectorOperator
  values : List String
  deriving DecidableEq, Repr

/-- `metav1.LabelSelector`. -/
structure LabelSelector where
  matchLabels : Labels
  matchExpressions : List SelectorRequirement
  deriving DecidableEq, Repr

/-- The name and the labels of a `corev1.Namespace`. -/
structure Namespace where
  name : String
  labels : Labels
  deriving DecidableEq, Repr

/-- `NamespaceSyncSpec`, without the connection that only the construction of
the secondary client reads. -/
structure NamespaceSyncSpec where
  labelSelector : LabelSelector
  excludeNamespaces : List String
  deriving DecidableEq, Repr

/-- `NamespaceSyncStatus`. -/
structure NamespaceSyncStatus where
  conditions : List (Condition SyncCondition) := []
  syncedNamespaces : Nat := 0
  lastSyncTime : Option Nat := none
  observedGeneration : Nat := 0
  deriving DecidableEq, Repr

/-- A `NamespaceSync` object. -/
structure NamespaceSync where
  name : String
  generation : Nat
  spec : NamespaceSyncSpec
  status : NamespaceSyncStatus
  deriving DecidableEq, Repr

/-- Writes a pass issues, each with the error it got back. -/
inductive Event where
  | create (namespaceName : String) (failure : Option ApiError)
  | delete (namespaceName : String) (failure : Option ApiError)
  | updateStatus (status : NamespaceSyncStatus) (failure : Option ApiError)
  deriving DecidableEq, Repr

/-- What a pass reads and writes.  `raced` is the secondary once others have written to it
after the pass has listed it, if they do, and `finalizes` says that deleted namespaces of the
secondary are finalized. -/
structure World where
  sync : Option NamespaceSync
  primary : Store Namespace.name
  secondary : Store Namespace.name
  clock : Nat
  trace : List Event
  raced : Option (Store Namespace.name) := none
  finalizes : Bool := true

/-- The world once others have written to the secondary. -/
def World.overtaken (world : World) : World :=
  { world with secondary := world.raced.getD world.secondary, raced := none }

@[simp] theorem World.overtaken_primary (world : World) :
    world.overtaken.primary = world.primary := rfl

@[simp] theorem World.overtaken_trace (world : World) :
    world.overtaken.trace = world.trace := rfl

/-- The API calls of one pass. -/
inductive Call where
  | getSync
  | buildSecondaryClient
  | listPrimary
  | listSecondary
  | create (namespaceName : String)
  | delete (namespaceName : String)
  | updateStatus
  deriving DecidableEq, Repr

/-- Programs of this reconciler. -/
abbrev Pass := Prog World ApiError

/-- `systemNamespaces`. -/
def systemNamespaces : List String :=
  ["kube-system", "kube-public", "kube-node-lease", "default"]

/-- `filterLabels`: the label the API server maintains itself is not copied. -/
def filterLabels (src : Labels) : Labels :=
  src.filter fun entry => entry.1 ≠ "kubernetes.io/metadata.name"

/-- Append the event of a write to the trace. -/
def record (event : Option ApiError → Event) (failure : Option ApiError) (world : World) : World :=
  { world with trace := world.trace ++ [event failure] }

section

variable (labelSelectorAsSelector : LabelSelector → Except ApiError (Labels → Bool))
variable (faults : Call → Option Fault)

/-- `r.Get` of the NamespaceSync. -/
def getSync : Pass NamespaceSync :=
  call faults .getSync do
    match (← get).sync with
    | some nsSync => pure nsSync
    -- the caller drops the text
    | none => throw (.notFound "NamespaceSync.kube-shard.konflux-ci.dev" "")

/-- `r.List` of the namespaces matching a selector. -/
def listPrimary (selector : Labels → Bool) : Pass (List Namespace) :=
  call faults .listPrimary do
    pure ((← get).primary.items.filter fun ns => selector ns.labels)

/-- `secondaryClient.List` of all namespaces, and what others write after it. -/
def listSecondary : Pass (List Namespace) :=
  call faults .listSecondary do
    let world ← get
    set world.overtaken
    pure world.secondary.items

/-- `secondaryClient.Create`. -/
def createOnSecondary (ns : Namespace) : Pass Unit :=
  logged (record (.create ns.name)) <| call faults (.create ns.name) do
    if ns.name ∈ (← get).secondary.keys then
      throw (.alreadyExists "namespaces" ns.name)
    else
      modify fun world => { world with secondary := world.secondary.insert ns }

/-- `secondaryClient.Delete`. -/
def deleteOnSecondary (name : String) : Pass Unit :=
  logged (record (.delete name)) <| call faults (.delete name) do
    let world ← get
    if name ∈ world.secondary.keys then
      set (if world.finalizes then { world with secondary := world.secondary.erase name }
        else world)
    else
      throw (.notFound "namespaces" name)

/-- `r.Status().Update`. -/
def updateStatus (nsSync : NamespaceSync) : Pass Unit :=
  logged (record (.updateStatus nsSync.status)) <| call faults .updateStatus <|
    replace World.sync (fun object world => { world with sync := some object })
      "namespacesyncs.kube-shard.konflux-ci.dev" nsSync.name nsSync

/-- `ensureNamespaceOnSecondary`. -/
def ensureNamespaceOnSecondary (ns : Namespace) : Pass Unit := do
  match ← (createOnSecondary faults ⟨ns.name, filterLabels ns.labels⟩).attempt with
  | .ok () => pure ()
  | .error failure => if failure.isAlreadyExists then pure () else throw failure

/-- `deleteNamespaceOnSecondary`. -/
def deleteNamespaceOnSecondary (name : String) : Pass Unit := do
  if name ∈ systemNamespaces then
    pure ()
  else
    match ← (deleteOnSecondary faults name).attempt with
    | .ok () => pure ()
    | .error failure => if failure.isNotFound then pure () else throw failure

/-- The loop of `Reconcile` that creates missing namespaces.  It returns the
errors it collected. -/
def createMissing (excluded secondaryExisting : List String) :
    List Namespace → Pass (List ApiError)
  | [] => pure []
  | ns :: rest => do
      if ns.name ∈ excluded ∨ ns.name ∈ secondaryExisting then
        createMissing excluded secondaryExisting rest
      else
        let outcome ← (ensureNamespaceOnSecondary faults ns).attempt
        let syncErrors ← createMissing excluded secondaryExisting rest
        match outcome with
        | .ok () => pure syncErrors
        | .error failure => pure (failure.wrap s!"namespace {ns.name}" :: syncErrors)

/-- The loop of `Reconcile` that deletes orphaned namespaces. -/
def deleteOrphaned (desiredNames : List String) : List Namespace → Pass (List ApiError)
  | [] => pure []
  | ns :: rest => do
      if ns.name ∈ desiredNames ∨ ns.name ∈ systemNamespaces then
        deleteOrphaned desiredNames rest
      else
        let outcome ← (deleteNamespaceOnSecondary faults ns.name).attempt
        let syncErrors ← deleteOrphaned desiredNames rest
        match outcome with
        | .ok () => pure syncErrors
        | .error failure => pure (failure.wrap s!"deleting namespace {ns.name}" :: syncErrors)

/-- The names a pass wants on the secondary. -/
def desiredNames (excluded : List String) (primaryNamespaces : List Namespace) :
    List String :=
  (primaryNamespaces.map Namespace.name).filter fun name => name ∉ excluded

/-- Set the Ready condition of a NamespaceSync. -/
def setReady (nsSync : NamespaceSync) (now : Nat) (status : ConditionStatus)
    (reason message : String) : NamespaceSync :=
  { nsSync with
    status.conditions := setStatusCondition now
      ⟨.ready, status, reason, message, nsSync.generation⟩ nsSync.status.conditions
    status.observedGeneration := nsSync.generation }

/-- The exits on an unreachable secondary: report it, ignoring a failure of the
report, and return the error. -/
def secondaryUnavailable (nsSync : NamespaceSync) (message : String)
    (failure : ApiError) : Pass Unit := do
  let now := (← get).clock
  let _ ← (updateStatus faults
    (setReady nsSync now .false "SecondaryUnavailable" message)).attempt
  throw failure

/-- The status a completed pass writes. -/
def syncedStatus (nsSync : NamespaceSync) (now : Nat) (desired : List String)
    (syncErrors : List ApiError) : NamespaceSync :=
  let counted := { nsSync with status.syncedNamespaces := desired.length }
  let reported :=
    if syncErrors.length > 0 then
      setReady counted now .false "SyncErrors"
        s!"{syncErrors.length} namespace(s) failed to sync"
    else
      setReady counted now .true "SyncComplete" s!"{desired.length} namespace(s) synced"
  { reported with status.lastSyncTime := some now }

omit faults in
/-- Reporting leaves the spec alone. -/
@[simp] theorem syncedStatus_spec (nsSync : NamespaceSync) (now : Nat)
    (desired : List String) (syncErrors : List ApiError) :
    (syncedStatus nsSync now desired syncErrors).spec = nsSync.spec := by
  simp only [syncedStatus]
  split <;> rfl

/-- `Reconcile` once both sides are listed: create, delete, report. -/
def syncNamespaces (nsSync : NamespaceSync)
    (primaryNamespaces secondaryNamespaces : List Namespace) : Pass Unit := do
  let excluded := nsSync.spec.excludeNamespaces
  let desired := desiredNames excluded primaryNamespaces
  let createErrors ← createMissing faults excluded
    (secondaryNamespaces.map Namespace.name) primaryNamespaces
  let deleteErrors ← deleteOrphaned faults desired secondaryNamespaces
  let now := (← get).clock
  updateStatus faults (syncedStatus nsSync now desired (createErrors ++ deleteErrors))

/-- `Reconcile` for an existing NamespaceSync. -/
def reconcileSync (nsSync : NamespaceSync) : Pass Unit := do
  match ← (call faults .buildSecondaryClient (pure ()) : Pass Unit).attempt with
  | .error failure => secondaryUnavailable faults nsSync failure.message failure
  | .ok () =>
    match labelSelectorAsSelector nsSync.spec.labelSelector with
    | .error failure => throw (failure.wrap "invalid label selector")
    | .ok selector =>
      let primaryNamespaces ←
        (listPrimary faults selector).mapError (·.wrap "listing primary namespaces")
      match ← (listSecondary faults).attempt with
      | .error failure =>
          secondaryUnavailable faults nsSync
            s!"failed to list secondary namespaces: {failure.message}" failure
      | .ok secondaryNamespaces =>
          syncNamespaces faults nsSync primaryNamespaces secondaryNamespaces

/-- `Reconcile`. -/
def reconcile : Pass Unit := do
  match ← (getSync faults).attempt with
  | .error failure => if failure.isNotFound then pure () else throw failure
  | .ok nsSync => reconcileSync labelSelectorAsSelector faults nsSync

end

end KubeShard.Namespacesync
