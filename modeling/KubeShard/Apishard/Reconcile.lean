import KubeShard.Apishard.Health

/-!
# One pass of the APIShard reconciler

`Reconcile` reads the shard and takes one of three roads: a missing shard needs
nothing, a shard being deleted is deregistered and released, and a live one is
driven through all the steps.  The first failing step ends a live pass with the
error in the status; three steps near the end only return it.
-/

namespace KubeShard.Apishard

open Resources

/-- `finalizerName`. -/
def finalizerName : String := "kube-shard.konflux-ci.dev/apiservice-cleanup"

variable (r : Reconciler) (ctx : Schedule)

/-- `r.Get` of the shard. -/
def getShard (name : String) : Pass APIShard :=
  callAPI ctx .getShard do
    match (← get).cluster.registry.shards.find? name with
    | some shard => pure shard
    | none => throw (.notFound "APIShard.kube-shard.konflux-ci.dev" name)

/-! ## Deletion -/

/-- The loop of the deletion branch over the registered names. -/
def deregister (shard : APIShard) : Nat → List String → Pass Unit
  | _, [] => pure ()
  | index, name :: rest => do
      match ← (Aggregation.getAPIService ctx (.finalizerGet index) name).attempt with
      | .error failure =>
          if failure.isNotFound then deregister shard (index + 1) rest else throw failure
      | .ok service =>
          match ← (Aggregation.deleteAPIService ctx shard (.finalizerDelete index)
            service.name).attempt with
          | .ok () => deregister shard (index + 1) rest
          | .error failure =>
              if failure.isNotFound then deregister shard (index + 1) rest else throw failure

/-- The names of the APIServices a shard controls or has controlled. -/
def Cluster.registered (cluster : Cluster) (uid : UID) : List String :=
  (cluster.apiServices.items.filter fun service => uid ∈ service.controllers).map APIService.name

/-- `r.Update` without the finalizer: refused when the copy is stale.  A deleted
object goes away with its last finalizer. -/
def removeFinalizer (shard : APIShard) : Pass Unit :=
  callAPI ctx .removeFinalizer do
    let state ← get
    let registry := state.cluster.registry
    match registry.shards.find? shard.name with
    | none => throw (.notFound "apishards.kube-shard.konflux-ci.dev" shard.name)
    | some stored =>
        if stored.resourceVersion ≠ shard.resourceVersion then
          throw (.conflict "apishards.kube-shard.konflux-ci.dev" shard.name)
        else
          let finalizers := shard.finalizers.filter (· ≠ finalizerName)
          set { state with
            cluster.registry :=
              if finalizers = [] then
                { registry with shards := registry.shards.erase shard.name }
              else
                registry.write { stored with finalizers := finalizers }
            trace := state.trace ++
              [Event.removedFinalizer shard.uid (state.cluster.registered shard.uid)] }

/-- The deletion branch. -/
def reconcileDelete (shard : APIShard) : Pass Unit := do
  if finalizerName ∈ shard.finalizers then
    deregister ctx shard 0 shard.status.registeredAPIServices
    removeFinalizer ctx shard

/-! ## The live shard -/

/-- The merge patch that adds the finalizer.  It carries the whole list and no
resource version; the answer replaces the pass's copy of the shard.  An object
that is being deleted takes no new finalizers. -/
def addFinalizer (shard : APIShard) : Pass APIShard :=
  callAPI ctx .addFinalizer do
    let state ← get
    let registry := state.cluster.registry
    let finalizers := shard.finalizers ++ [finalizerName]
    match registry.shards.find? shard.name with
    | none => throw (.notFound "apishards.kube-shard.konflux-ci.dev" shard.name)
    | some stored =>
        if stored.deleting ∧ ¬finalizers ⊆ stored.finalizers then
          throw ⟨.fault .invalid, "no new finalizers can be added if the object is being deleted"⟩
        else
          let patched := { stored with
            finalizers := finalizers, resourceVersion := registry.nextRevision }
          set { state with cluster.registry := registry.write patched }
          pure patched

/-- The copy of the shard the rest of the pass works on. -/
def ensureFinalizer (shard : APIShard) : Pass APIShard :=
  if finalizerName ∈ shard.finalizers then pure shard else addFinalizer ctx shard

/-- The status `setErrorAndRequeue` writes. -/
def setError (shard : APIShard) (failure : ApiError) : Pass Unit := do
  modify fun state => { state with
    status.phase := .error
    status.message := failure.message
    status.observedGeneration := shard.generation }
  setCondition shard .reconciled .false "ReconcileError" failure.message

/-- `setErrorAndRequeue`: a failing status write is only logged. -/
def setErrorAndRequeue {α : Type} (shard : APIShard) (failure : ApiError) : Pass α := do
  setError shard failure
  let _ ← (updateStatus ctx .writeError shard).attempt
  throw failure

/-- A step of the pass whose failure is reported in the status. -/
def orSetError {α : Type} (shard : APIShard) (step : Pass α) : Pass α := do
  match ← step.attempt with
  | .ok value => pure value
  | .error failure => setErrorAndRequeue ctx shard failure

/-- The first status write of a shard. -/
def initializePhase (shard : APIShard) : Pass Unit := do
  if (← get).status.phase = .empty then
    setPhase .provisioning
    updateStatus ctx .writeProvisioning shard

/-- The steps of a live pass that apply the objects of the shard. -/
def reconcileObjects (shard : APIShard) : Pass Unit := do
  orSetError ctx shard (reconcileStorage r ctx shard)
  orSetError ctx shard (reconcileCertManager ctx shard)
  orSetError ctx shard (reconcileAuthConfig ctx shard)
  orSetError ctx shard (reconcileSecondaryServiceAccount ctx shard)
  orSetError ctx shard (reconcileAuthDelegator ctx shard)
  orSetError ctx shard (reconcileAPIServerSCC r ctx shard)
  let _ ← orSetError ctx shard (reconcileRequestHeaderCA r ctx shard)
  orSetError ctx shard (reconcileAdminKubeconfig ctx shard)
  orSetError ctx shard (reconcileSecondary ctx shard)
  orSetError ctx shard (reconcileMetrics r ctx shard)

/-- The status a pass writes when its steps all succeeded. -/
def setReconciled (shard : APIShard) : Pass Unit := do
  modify fun state => { state with
    status.message := ""
    status.observedGeneration := shard.generation }
  setCondition shard .reconciled .true "ReconcileSucceeded"
    "All resources reconciled successfully"

/-- The end of a pass whose steps all succeeded. -/
def reportSuccess (shard : APIShard) : Pass Unit := do
  setReconciled shard
  updateStatus ctx .writeFinal shard

/-- The part of a live pass from the APIServices on. -/
def reconcileServing (shard : APIShard) : Pass Result := do
  orSetError ctx shard (reconcileAPIServices ctx shard)
  reconcileCRDConflicts ctx shard
  let healthResult ← updateHealthStatus ctx shard
  let _ ← (cleanupOrphans ctx shard).attempt
  reportSuccess ctx shard
  pure healthResult

/-- The pass works on this copy of the shard from here on. -/
def adopt (shard : APIShard) : Pass Unit :=
  modify fun state => { state with
    status := shard.status, resourceVersion := shard.resourceVersion, tracked := [] }

/-- The part of a live pass before the APIServices. -/
def reconcileResources (shard : APIShard) : Pass Unit := do
  orSetError ctx shard (ensureNamespace ctx shard)
  initializePhase ctx shard
  reconcileObjects r ctx shard

/-- A live pass once the finalizer is in place. -/
def reconcileCopy (shard : APIShard) : Pass Result := do
  reconcileResources r ctx shard
  reconcileServing ctx shard

/-- A pass on a live shard. -/
def reconcileLive (shard : APIShard) : Pass Result := do
  let shard ← ensureFinalizer ctx shard
  adopt shard
  reconcileCopy r ctx shard

/-- `Reconcile`. -/
def reconcile (name : String) : Pass Result := do
  match ← (getShard ctx name).attempt with
  | .error failure => if failure.isNotFound then pure {} else throw failure
  | .ok shard =>
      if shard.deleting then
        reconcileDelete ctx shard
        pure {}
      else
        reconcileLive r ctx shard

end KubeShard.Apishard
