import KubeShard.Api.Error
import KubeShard.Resources.Workloads

/-!
# API calls of an APIShard pass

The programs of `operator/internal/controller/apishard/reconciler.go` run on the
state of one pass: the cluster, the status and resource version of the pass's own
copy of the shard, the objects tracked so far, and the writes issued so far.

A schedule decides what happens around the calls of a pass.  It may fail any of
them with any error, and it may let users create, edit and delete APIShards right
before any of them.  Passes themselves do not overlap: the controller has one
worker.  The NamespaceSync and WebhookSync controllers may finish passes of their own
before any call on a sync object.  Everything else in the cluster changes between
passes only.
-/

namespace KubeShard.Apishard

open Resources

/-- The API calls of a pass, by the place they are made from. -/
inductive Call where
  | getShard
  | finalizerGet (index : Nat)
  | finalizerDelete (index : Nat)
  | removeFinalizer
  | addFinalizer
  | ensureNamespace
  | writeProvisioning
  | writeError
  | writeFinal
  | apply (component : Component)
  | applyKineServiceFallback
  | getCredentials
  | generatePassword
  | getStatefulSet
  | getConnectionSecret
  | getMetricsSecret
  | getAuthenticationConfigMap
  | getPKI
  | getAdminClient
  | applyMetricsClusterRole
  | getTLSSecret
  | applyAPIService (index : Nat)
  | getOrphan (index : Nat)
  | deleteOrphan (index : Nat)
  | listCRDs
  | getSyncPKI
  | getSyncAdminClient
  | buildSyncClient
  | getCRD (index : Nat)
  | applyCRD (index : Nat)
  | getKineDeployment
  | getSecondaryDeployment
  | getPostgreSQLStatefulSet
  | getVerifyPKI
  | getVerifyAdminClient
  | buildVerifyClient
  | verifyList
  | getNamespaceSync
  | writeNamespaceSync
  | getWebhookSync
  | writeWebhookSync
  | readNamespaceSync
  | readWebhookSync
  | listAPIServices
  | cleanupOrphans
  deriving DecidableEq, Repr

/-- What users do to APIShards. -/
inductive ShardEdit where
  | create (name : String) (spec : APIShardSpec)
  | editSpec (name : String) (spec : APIShardSpec)
  | delete (name : String)
  deriving DecidableEq, Repr

/-- What a pass of a sync controller writes to the status of its object: nothing, an
error, or that it went through without one. -/
inductive SyncReport where
  | silent
  | unavailable (message : String)
  | failed (message : String)
  | complete (message : String)
  deriving DecidableEq, Repr

/-- A pass of a sync controller, at the time it writes its status.  The object it has
read is then still the stored one, or the write is refused. -/
structure SyncPass where
  kind : SyncKind
  key : String × String
  report : SyncReport
  deriving DecidableEq, Repr

/-- Sixteen zero bytes. -/
def zeroBytes : Fin 16 → Fin 256 := fun _ => 0

/-- What happens around the calls of one pass. -/
structure Schedule where
  /-- The edits made right before a call. -/
  edits : Call → List ShardEdit := fun _ => []
  /-- The error a call fails with. -/
  faults : Call → Option ApiError := fun _ => none
  /-- The bytes `GeneratePassword` draws. -/
  random : Fin 16 → Fin 256 := zeroBytes
  /-- The orphans a failing cleanup has deleted before it failed. -/
  cleaned : ObjectKey → Bool := fun _ => false
  /-- The passes of sync controllers that end right before a call on a sync object. -/
  syncs : Call → List SyncPass := fun _ => []

/-- The `Reconciler`: the capabilities found at start-up, and the functions of
other packages that are used as they are. -/
structure Reconciler where
  serviceMonitorAvailable : Bool
  sccAvailable : Bool
  parsePostgreSQLDSN : String → Except ApiError OTelConnectionParams
  /-- `hashedconfigmap.BuildConfigMapName`. -/
  buildConfigMapName : String → String → String
  /-- `json.Unmarshal` into a list of strings. -/
  unmarshalStrings : String → Except ApiError (List String)

/-- Writes of interest, in the order they take effect. -/
inductive Event where
  /-- An object was applied with this data. -/
  | applied (key : ObjectKey) (data : List (String × String))
  /-- A shard applied an APIService. -/
  | appliedAPIService (shard : UID) (name : String)
  /-- A shard deleted this APIService. -/
  | deletedAPIService (shard : UID) (service : APIService)
  /-- The finalizer of a shard was removed while these APIServices had it as
  their controller. -/
  | removedFinalizer (shard : UID) (registered : List String)
  /-- A shard applied a CRD to its secondary. -/
  | appliedCRD (shard : UID) (crd : UID)
  /-- The status of this shard was persisted. -/
  | persisted (shard : APIShard)
  /-- Orphans were about to be cleaned up with these objects tracked. -/
  | cleanup (shard : UID) (tracked : List ObjectKey)
  /-- A sync controller finished a pass without an error on the object of this key, which
  had this spec. -/
  | synced (kind : SyncKind) (key : String × String) (spec : kind.Spec)
  deriving DecidableEq, Repr

/-- The state of a pass. -/
structure State where
  cluster : Cluster
  status : APIShardStatus := {}
  resourceVersion : Nat := 0
  tracked : List ObjectKey := []
  trace : List Event := []

/-- Programs of this reconciler. -/
abbrev Pass := Prog State ApiError

/-! ## Edits by users -/

namespace Registry

/-- Store a shard under a fresh resource version. -/
def write (registry : Registry) (shard : APIShard) : Registry :=
  { registry with
    shards := registry.shards.insert { shard with resourceVersion := registry.nextRevision }
    nextRevision := registry.nextRevision + 1 }

/-- The effect of a user's edit.  Deleting an object that has finalizers only
marks it. -/
def edit (registry : Registry) : ShardEdit → Registry
  | .create name spec =>
      if name ∈ registry.shards.keys then registry
      else
        { registry.write
            { name := name, uid := registry.nextUID, generation := 1, resourceVersion := 0,
              spec := spec } with
          nextUID := registry.nextUID + 1 }
  | .editSpec name spec =>
      match registry.shards.find? name with
      | none => registry
      | some shard =>
          registry.write
            { shard with
              spec := spec
              generation :=
                if shard.spec = spec then shard.generation else shard.generation + 1 }
  | .delete name =>
      match registry.shards.find? name with
      | none => registry
      | some shard =>
          if shard.finalizers = [] then
            { registry with shards := registry.shards.erase name }
          else if shard.deleting then registry
          else
            registry.write { shard with deleting := true, generation := shard.generation + 1 }

/-- The effect of a list of edits. -/
def edits (registry : Registry) (edits : List ShardEdit) : Registry :=
  edits.foldl edit registry

end Registry

/-- The state once the edits scheduled before a call have happened. -/
def State.edited (state : State) (ctx : Schedule) (request : Call) : State :=
  { state with cluster.registry := state.cluster.registry.edits (ctx.edits request) }

@[simp] theorem State.edited_status (state : State) (ctx : Schedule) (request : Call) :
    (state.edited ctx request).status = state.status := rfl

@[simp] theorem State.edited_resourceVersion (state : State) (ctx : Schedule) (request : Call) :
    (state.edited ctx request).resourceVersion = state.resourceVersion := rfl

@[simp] theorem State.edited_registry (state : State) (ctx : Schedule) (request : Call) :
    (state.edited ctx request).cluster.registry =
      state.cluster.registry.edits (ctx.edits request) := rfl

/-- Make one API call: the scheduled edits happen, and then the call fails with
the error scheduled for it, or acts. -/
def callAPI (ctx : Schedule) {α : Type} (request : Call) (action : Pass α) : Pass α := do
  modify (·.edited ctx request)
  match ctx.faults request with
  | some failure => throw failure
  | none => action

section callAPI

open Prog

variable {ctx : Schedule} {α : Type} {request : Call} {action : Pass α}

theorem exec_callAPI_none (clean : ctx.faults request = none) (state : State) :
    exec (callAPI ctx request action) state = exec action (state.edited ctx request) := by
  simp only [callAPI, exec_bind, exec_modify, clean]

theorem exec_callAPI_some {failure : ApiError} (faulty : ctx.faults request = some failure)
    (state : State) :
    exec (callAPI ctx request action) state = (.error failure, state.edited ctx request) := by
  simp only [callAPI, exec_bind, exec_modify, faulty, exec_throw]

/-- A call that answers was not failed. -/
theorem exec_callAPI_ok {state after : State} {value : α} :
    exec (callAPI ctx request action) state = (.ok value, after) ↔
      ctx.faults request = none ∧
        exec action (state.edited ctx request) = (.ok value, after) := by
  cases faults : ctx.faults request with
  | none => simp [exec_callAPI_none faults]
  | some failure => simp [exec_callAPI_some faults]

end callAPI

/-! ## Passes of the sync controllers -/

namespace SyncObject

variable {σ : Type}

/-- A status update: one that changes nothing keeps the resource version. -/
def updateStatus (object : SyncObject σ) (conditions : List (Condition SyncCondition))
    (lastSyncTime : Option Nat) : SyncObject σ :=
  { object with
    conditions := conditions
    lastSyncTime := lastSyncTime
    resourceVersion :=
      if object.conditions = conditions ∧ object.lastSyncTime = lastSyncTime then
        object.resourceVersion
      else object.resourceVersion + 1 }

/-- The object after a pass of its controller. -/
def reported (object : SyncObject σ) (now : Nat) (report : SyncReport) : SyncObject σ :=
  let ready status reason message :=
    setStatusCondition now ⟨.ready, status, reason, message, object.generation⟩ object.conditions
  match report with
  | .silent => object
  | .unavailable message =>
      object.updateStatus (ready .false "SecondaryUnavailable" message) object.lastSyncTime
  | .failed message => object.updateStatus (ready .false "SyncErrors" message) (some now)
  | .complete message => object.updateStatus (ready .true "SyncComplete" message) (some now)

end SyncObject

/-- The pass went through without an error. -/
def SyncReport.isComplete : SyncReport → Bool
  | .complete _ => true
  | _ => false

/-- The state after a pass of a sync controller. -/
def State.sync (state : State) (pass : SyncPass) : State :=
  match (state.cluster.syncs pass.kind).find? pass.key with
  | none => state
  | some object =>
      { state with
        cluster := state.cluster.setSyncs pass.kind ((state.cluster.syncs pass.kind).insert
          (object.reported state.cluster.clock pass.report))
        trace := state.trace ++
          if pass.report.isComplete then [.synced pass.kind pass.key object.spec] else [] }

/-- The state once the passes of sync controllers scheduled before a call have ended. -/
def State.synced (state : State) (ctx : Schedule) (request : Call) : State :=
  (ctx.syncs request).foldl State.sync state

/-- Make an API call on a sync object. -/
def callSync (ctx : Schedule) {α : Type} (request : Call) (action : Pass α) : Pass α := do
  modify (·.synced ctx request)
  callAPI ctx request action

/-- Append an event to the trace. -/
def record (event : Event) : Pass Unit :=
  modify fun state => { state with trace := state.trace ++ [event] }

/-! ## The shard's own object -/

/-- Set a condition of the pass's copy of the shard. -/
def setCondition (shard : APIShard) (type : ShardCondition) (status : ConditionStatus)
    (reason message : String) : Pass Unit :=
  modify fun state => { state with
    status.conditions := setStatusCondition state.cluster.clock
      ⟨type, status, reason, message, shard.generation⟩ state.status.conditions }

/-- Remove a condition of the pass's copy of the shard. -/
def removeCondition (type : ShardCondition) : Pass Unit :=
  modify fun state => { state with
    status.conditions := removeStatusCondition type state.status.conditions }

/-- A stored shard after a status update.  An update that changes nothing keeps
the resource version. -/
def Registry.updated (registry : Registry) (stored : APIShard) (status : APIShardStatus) :
    APIShard :=
  { stored with
    status := status
    resourceVersion :=
      if stored.status = status then stored.resourceVersion else registry.nextRevision }

/-- The status of the pass's copy becomes that of the stored shard. -/
def State.persist (state : State) (stored : APIShard) : State :=
  let registry := state.cluster.registry
  let updated := registry.updated stored state.status
  { state with
    cluster.registry := { registry with
      shards := registry.shards.insert updated
      nextRevision := registry.nextRevision + 1 }
    resourceVersion := updated.resourceVersion
    trace := state.trace ++ [.persisted updated] }

/-- `r.Status().Update`: refused when the copy is stale. -/
def updateStatus (ctx : Schedule) (request : Call) (shard : APIShard) : Pass Unit :=
  callAPI ctx request do
    let state ← get
    match state.cluster.registry.shards.find? shard.name with
    | none => throw (.notFound "apishards.kube-shard.konflux-ci.dev" shard.name)
    | some stored =>
        if stored.resourceVersion ≠ state.resourceVersion then
          throw (.conflict "apishards.kube-shard.konflux-ci.dev" shard.name)
        else
          set (state.persist stored)

/-! ## Reading and applying objects -/

/-- `r.Get` of an object. -/
def getObject (ctx : Schedule) (request : Call) (key : ObjectKey) : Pass Object :=
  callAPI ctx request do
    match (← get).cluster.objects.find? key with
    | some object => pure object
    | none => throw (.notFound key.kind.resource key.name)

open Prog in
theorem exec_getObject (ctx : Schedule) (request : Call) (key : ObjectKey) (state : State) :
    exec (getObject ctx request key) state =
      match ctx.faults request, state.cluster.objects.find? key with
      | some failure, _ => (.error failure, state.edited ctx request)
      | none, some object => (.ok object, state.edited ctx request)
      | none, none => (.error (.notFound key.kind.resource key.name), state.edited ctx request) := by
  rw [getObject]
  cases faulty : ctx.faults request with
  | some failure => rw [exec_callAPI_some faulty]
  | none =>
      have objects : (state.edited ctx request).cluster.objects = state.cluster.objects := rfl
      rw [exec_callAPI_none faulty, exec_bind, exec_get]
      dsimp only
      rw [objects]
      cases state.cluster.objects.find? key <;> rfl

open Prog in
theorem getObject_ok {ctx : Schedule} {request : Call} {key : ObjectKey} {object : Object}
    {state after : State}
    (ran : exec (getObject ctx request key) state = (.ok object, after)) :
    ctx.faults request = none ∧ state.cluster.objects.find? key = some object ∧
      after = state.edited ctx request := by
  obtain ⟨clean, ran⟩ := exec_callAPI_ok.mp ran
  simp only [exec_bind, exec_get] at ran
  split at ran
  · next found =>
      cases ran
      exact ⟨clean, found, rfl⟩
  · cases ran

/-- The kinds of object this cluster does not serve. -/
def Cluster.unserved (cluster : Cluster) : ObjectKind → Bool
  | .serviceMonitor => !cluster.servesServiceMonitor
  | .securityContextConstraints => !cluster.servesSCC
  | _ => false

/-- What an applied object keeps of the live one: its status and what other field managers
have set. -/
def Object.merge (live object : Object) : Object :=
  { object with
    replicas := live.replicas, readyReplicas := live.readyReplicas, others := live.others }

/-- An applied object as the server stores it. -/
def Cluster.merge (cluster : Cluster) (object : Object) : Object :=
  match cluster.objects.find? object.key with
  | some live => live.merge object
  | none => object

@[simp] theorem Cluster.merge_key (cluster : Cluster) (object : Object) :
    (cluster.merge object).key = object.key := by
  unfold merge
  cases cluster.objects.find? object.key <;> rfl

@[simp] theorem Cluster.merge_data (cluster : Cluster) (object : Object) :
    (cluster.merge object).data = object.data := by
  unfold merge
  cases cluster.objects.find? object.key <;> rfl

@[simp] theorem Cluster.merge_spec (cluster : Cluster) (object : Object) :
    (cluster.merge object).spec = object.spec := by
  unfold merge
  cases cluster.objects.find? object.key <;> rfl

/-- Server-side apply of an object. -/
def applyObject (object : Object) : Pass Unit := do
  if (← get).cluster.unserved object.key.kind then
    throw ⟨.fault .noMatch, "no matches for kind"⟩
  else
    modify fun state => { state with
      cluster.objects := state.cluster.objects.insert (state.cluster.merge object)
      trace := state.trace ++ [.applied object.key object.data] }

/-- `tc.ApplyOwned` of an object that is already built: it is labelled with its
owner and tracked. -/
def applyOwnedObject (ctx : Schedule) (request : Call) (shard : APIShard) (object : Object) :
    Pass Unit :=
  callAPI ctx request do
    applyObject { object with owner := some shard.name }
    modify fun state => { state with tracked := state.tracked ++ [object.key] }

/-- `tc.ApplyOwned` of a component. -/
def applyOwned (ctx : Schedule) (shard : APIShard) (component : Component)
    (data : List (String × String) := []) (spec : ObjectSpec := component.spec shard) : Pass Unit :=
  applyOwnedObject ctx (.apply component) shard
    { key := component.key shard, data := data, spec := spec }

/-- `managedGVKs`: all kinds but Namespaces. -/
def managedKind (kind : ObjectKind) : Bool := kind ≠ .namespace

/-- An object that `CleanupOrphans` deletes. -/
def orphaned (shard : APIShard) (tracked : List ObjectKey) (object : Object) : Bool :=
  managedKind object.key.kind && object.owner == some shard.name && object.key ∉ tracked

/-- Drop objects from the cluster. -/
def Cluster.dropObjects (cluster : Cluster) (drop : Object → Bool) : Cluster :=
  { cluster with
    objects := ⟨cluster.objects.items.filter fun object => !drop object,
      cluster.objects.nodup.sublist (List.filter_sublist.map Object.key)⟩ }

/-- `tc.CleanupOrphans`.  A failing cleanup may have deleted some of the orphans. -/
def cleanupOrphans (ctx : Schedule) (shard : APIShard) : Pass Unit := do
  let before ← get
  record (.cleanup shard.uid before.tracked)
  match ← (callAPI ctx .cleanupOrphans (pure ()) : Pass Unit).attempt with
  | .ok () =>
      modify fun state => { state with
        cluster := state.cluster.dropObjects (orphaned shard state.tracked) }
  | .error failure =>
      modify fun state => { state with
        cluster := state.cluster.dropObjects fun object =>
          orphaned shard state.tracked object && ctx.cleaned object.key }
      throw failure

end KubeShard.Apishard
