import KubeShard.Apishard.Reconcile
import KubeShard.Program.Assign

/-!
# The status of a pass, from the answers it gets

The same `Reconcile` once more, seen from the status alone.  What the cluster and the
secondary answer is given from outside; steps that no line of the status depends on
are known by their outcome.  Instead of changing a status the pass lists its
assignments to it, and remembers which of them its last status write has persisted.
-/

namespace KubeShard.Apishard

open Resources Prog Aggregation

/-! ## Assignments -/

/-- The parts of a status that are assigned to. -/
inductive Slot where
  | condition (type : ShardCondition)
  | initialPhase
  | phase
  | message
  | observedGeneration
  | connectionSecret
  | secondaryEndpoint
  | registeredAPIServices
  deriving DecidableEq, Repr

theorem Phase.provisioning_ne_empty : Phase.provisioning ≠ .empty := nofun

theorem Phase.ready_ne_empty : Phase.ready ≠ .empty := nofun

theorem Phase.error_ne_empty : Phase.error ≠ .empty := nofun

/-- An assignment to a status.  The initial phase is only given to a status without
one, and no other assignment takes the phase away again. -/
inductive Assignment where
  | set (new : NewCondition ShardCondition)
  | remove (type : ShardCondition)
  | initialPhase
  | phase (phase : Phase) (named : phase ≠ .empty)
  | message (text : String)
  | observedGeneration (generation : Nat)
  | connectionSecret (reference : ConnectionSecretReference)
  | secondaryEndpoint (endpoint : String)
  | registeredAPIServices (names : List String)
  deriving DecidableEq, Repr

namespace Assignment

/-- The part an assignment writes. -/
def slot : Assignment → Slot
  | set new => .condition new.type
  | remove type => .condition type
  | initialPhase => .initialPhase
  | phase _ _ => .phase
  | message _ => .message
  | observedGeneration _ => .observedGeneration
  | connectionSecret _ => .connectionSecret
  | secondaryEndpoint _ => .secondaryEndpoint
  | registeredAPIServices _ => .registeredAPIServices

/-- The effect of an assignment at a time. -/
def apply (now : Nat) : Assignment → APIShardStatus → APIShardStatus
  | set new, status =>
      { status with conditions := setStatusCondition now new status.conditions }
  | remove type, status =>
      { status with conditions := removeStatusCondition type status.conditions }
  | initialPhase, status =>
      if status.phase = .empty then { status with phase := .provisioning } else status
  | phase reached _, status => { status with phase := reached }
  | message text, status => { status with message := text }
  | observedGeneration generation, status => { status with observedGeneration := generation }
  | connectionSecret reference, status => { status with connectionSecret := some reference }
  | secondaryEndpoint endpoint, status => { status with secondaryEndpoint := endpoint }
  | registeredAPIServices names, status => { status with registeredAPIServices := names }

end Assignment

/-! ## Answers -/

/-- What a pass on a live shard is answered. -/
structure Answers where
  /-- The read of the shard and the patch that adds the finalizer. -/
  finalizer : Except ApiError Unit := .ok ()
  ensureNamespace : Except ApiError Unit := .ok ()
  /-- The password, the credentials and the init script of the in-cluster database. -/
  credentials : Except ApiError Unit := .ok ()
  /-- The read of the StatefulSet. -/
  statefulSet : Except ApiError StatefulSet := .ok {}
  /-- The applies of the StatefulSet and its Service. -/
  database : Except ApiError Unit := .ok ()
  /-- The read of the connection Secret. -/
  connectionSecret : Except ApiError Object := .ok { key := ⟨.secret, "", ""⟩ }
  kine : Except ApiError Unit := .ok ()
  /-- The metrics collector, where there is one to deploy. -/
  collector : Except ApiError Unit := .ok ()
  /-- The steps from the cert-manager resources to the request header CA. -/
  access : Except ApiError Unit := .ok ()
  /-- Whether the admin kubeconfig could be written. -/
  adminKubeconfig : Except ApiError Bool := .ok true
  /-- The secondary and the resources for metrics scraping. -/
  secondary : Except ApiError Unit := .ok ()
  /-- The read of the TLS Secret and the applies of the APIServices. -/
  apiServices : Except ApiError Unit := .ok ()
  /-- The Get and the Delete of an orphaned APIService. -/
  orphan : String → Except ApiError Unit := fun _ => .ok ()
  /-- The List of the CRDs. -/
  crds : Except ApiError (List CRD) := .ok []
  /-- The client for the CRD sync. -/
  syncClient : Except ApiError Unit := .ok ()
  /-- The copy of one CRD to the secondary. -/
  syncCRD : String → Except ApiError Unit := fun _ => .ok ()
  checkDeploymentHealth : Except ApiError Bool := .ok true
  verifySecondaryAuth : Bool := true
  /-- The Ready condition of the NamespaceSync. -/
  namespaceSync : Except ApiError (Option (Condition SyncCondition)) := .ok none
  /-- The Ready condition of the WebhookSync. -/
  webhookSync : Except ApiError (Option (Condition SyncCondition)) := .ok none
  /-- The List of the APIServices. -/
  services : Except ApiError (List APIService) := .ok []

/-! ## The pass -/

namespace Report

/-- The assignments so far, and those the last status write has persisted. -/
structure Memory where
  assigned : List Assignment := []
  written : Option (List Assignment) := none

/-- Programs that report. -/
abbrev Reporting := Prog Memory ApiError

/-- Make an assignment. -/
def assign (assignment : Assignment) : Reporting Unit :=
  modify fun memory => { memory with assigned := memory.assigned ++ [assignment] }

/-- `r.Status().Update`. -/
def persist : Reporting Unit :=
  modify fun memory => { memory with written := some memory.assigned }

/-- A call that was answered. -/
def answer {α : Type} : Except ApiError α → Reporting α
  | .ok value => pure value
  | .error failure => throw failure

variable (answers : Answers) (shard : APIShard) (read : List Assignment → APIShardStatus)

/-- The status as it is now. -/
def status : Reporting APIShardStatus := do
  pure (read (← get).assigned)

/-- `meta.SetStatusCondition`. -/
def setCondition (type : ShardCondition) (status : ConditionStatus) (reason message : String) :
    Reporting Unit :=
  assign (.set ⟨type, status, reason, message, shard.generation⟩)

/-! ### Storage -/

/-- `preservePostgreSQLVolumeClaimTemplates`. -/
def preservePostgreSQLVolumeClaimTemplates : Reporting Unit := do
  let requested := postgreSQLVolumeClaimTemplates shard
  match answers.statefulSet with
  | .error failure =>
      if failure.isNotFound then
        setCondition shard .storageReady .true "VolumeClaimTemplateUnchanged"
          "no existing PostgreSQL StatefulSet; applying requested volume claim templates"
      else
        throw (failure.wrap "fetching existing statefulset")
  | .ok live =>
      if volumeClaimTemplatesMatch requested live.volumeClaimTemplates then
        setCondition shard .storageReady .true "VolumeClaimTemplateUnchanged"
          "PostgreSQL volume claim templates match the live StatefulSet"
      else
        let described := describeVolumeClaimTemplates live.volumeClaimTemplates
        let wanted := describeVolumeClaimTemplates requested
        setCondition shard .storageReady .false "VolumeClaimTemplateImmutable"
          (s!"volumeClaimTemplates are immutable; live {described}, spec requested {wanted}. " ++
            "Update the APIShard to match the live volume or recreate the shard.")

/-- `reconcileInClusterPostgreSQL`. -/
def reconcileInClusterPostgreSQL : Reporting Unit := do
  answer answers.credentials
  (preservePostgreSQLVolumeClaimTemplates answers shard).mapError
    (·.wrap "preserving postgresql volume claim templates")
  answer answers.database

/-- The exit of `validateExternalPostgreSQLSecret` with a reason. -/
def storageNotReady (reason message : String) (failure : ApiError) : Reporting Unit := do
  setCondition shard .storageReady .false reason message
  throw failure

/-- `validateExternalPostgreSQLSecret`. -/
def validateExternalPostgreSQLSecret : Reporting Unit := do
  match shard.spec.storage.connectionSecretRef with
  | none =>
      storageNotReady shard "MissingConnectionSecretRef"
        "storage.type is PostgreSQL but connectionSecretRef is not set"
        (.errorf "storage.type is PostgreSQL but connectionSecretRef is not set")
  | some ref =>
      let target := shard.spec.targetNamespace
      match answers.connectionSecret with
      | .error failure =>
          if failure.isNotFound then
            storageNotReady shard "SecretNotFound"
              s!"Secret \"{ref.name}\" not found in namespace \"{target}\""
              (.errorf s!"connection secret \"{ref.name}\" not found in namespace \"{target}\"")
          else
            storageNotReady shard "SecretReadError"
              s!"Failed to read Secret \"{ref.name}\": {failure.message}"
              (failure.wrap s!"reading connection secret \"{ref.name}\"")
      | .ok secret =>
          if (secret.lookup ref.key).isNone then
            storageNotReady shard "KeyNotFound"
              s!"Key \"{ref.key}\" not found in Secret \"{ref.name}\""
              (.errorf s!"key \"{ref.key}\" not found in secret \"{ref.name}\"")
          else
            setCondition shard .storageReady .true "SecretValid"
              s!"Connection secret \"{ref.name}\" validated"

/-- `reconcilePostgreSQLMetrics`. -/
def reconcilePostgreSQLMetrics : Reporting Unit := do
  if !storageMonitoringEnabled shard then
    assign (.remove .monitoringDegraded)
  else if shard.spec.storage.type = .sqlite then
    setCondition shard .monitoringDegraded .true "UnsupportedStorageType"
      "Storage monitoring is not supported for SQLite; disable monitoring.enabled or switch to PostgreSQL"
  else
    match answers.collector with
    | .error failure =>
        setCondition shard .monitoringDegraded .true "MetricsCollectorFailed"
          s!"Failed to deploy metrics collector: {failure.message}"
    | .ok () =>
        setCondition shard .monitoringDegraded .false "MetricsCollectorHealthy"
          "PostgreSQL metrics collector is deployed"

/-- `reconcileStorage`. -/
def reconcileStorage : Reporting Unit := do
  match shard.spec.storage.type with
  | .inClusterPostgreSQL =>
      (reconcileInClusterPostgreSQL answers shard).mapError (·.wrap "in-cluster PostgreSQL")
  | .postgreSQL =>
      (validateExternalPostgreSQLSecret answers shard).mapError (·.wrap "external PostgreSQL")
  | .sqlite => pure ()
  (answer answers.kine).mapError (·.wrap "kine")
  reconcilePostgreSQLMetrics answers shard

/-! ### The first half of a pass -/

/-- The status `setErrorAndRequeue` writes. -/
def setError (failure : ApiError) : Reporting Unit := do
  assign (.phase .error Phase.error_ne_empty)
  assign (.message failure.message)
  assign (.observedGeneration shard.generation)
  setCondition shard .reconciled .false "ReconcileError" failure.message

/-- A step whose failure is reported in the status. -/
def orSetError {α : Type} (step : Reporting α) : Reporting α := do
  match ← step.attempt with
  | .ok value => pure value
  | .error failure =>
      setError shard failure
      persist
      throw failure

/-- The first status write of a shard. -/
def initializePhase : Reporting Unit := do
  assign .initialPhase
  persist

/-- `reconcileAdminKubeconfig`. -/
def reconcileAdminKubeconfig : Reporting Unit := do
  if ← answer answers.adminKubeconfig then
    assign (.connectionSecret
      ⟨Component.adminKubeconfig.name shard, shard.spec.targetNamespace⟩)

/-- The part of a pass before the APIServices. -/
def reconcileResources : Reporting Unit := do
  orSetError shard (answer answers.ensureNamespace)
  initializePhase
  orSetError shard (reconcileStorage answers shard)
  orSetError shard (answer answers.access)
  orSetError shard (reconcileAdminKubeconfig answers shard)
  orSetError shard (answer answers.secondary)

/-- The deletion loop over the APIServices registered before. -/
def deleteOrphanedAPIServices (desired : List String) : List String → Except ApiError Unit
  | [] => .ok ()
  | name :: rest =>
      if name ∈ desired then deleteOrphanedAPIServices desired rest
      else
        match answers.orphan name with
        | .error failure => .error failure
        | .ok () => deleteOrphanedAPIServices desired rest

/-- `reconcileAPIServices`. -/
def reconcileAPIServices : Reporting Unit := do
  answer answers.apiServices
  let desired := desiredAPIServiceNames shard
  answer (deleteOrphanedAPIServices answers desired (← status read).registeredAPIServices)
  assign (.registeredAPIServices desired)

/-! ### The second half of a pass -/

/-- `syncCRDsToSecondary`. -/
def syncCRDsToSecondary (names : List String) : Except ApiError Unit :=
  match answers.syncClient with
  | .error failure => .error failure
  | .ok () =>
      match names.filterMap fun name =>
        match answers.syncCRD name with
        | .ok () => none
        | .error failure => some failure with
      | [] => .ok ()
      | errors => .error (.errorf ("\n".intercalate (errors.map ApiError.message)))

/-- `reconcileCRDConflicts`. -/
def reconcileCRDConflicts : Reporting Unit := do
  match answers.crds with
  | .error _ => pure ()
  | .ok crds =>
      match (conflicting shard crds).map CRD.name with
      | [] =>
          setCondition shard .crdConflict .false "NoConflicts"
            "No conflicting CRDs detected on primary"
      | names =>
          let message := conflictMessage names
          match syncCRDsToSecondary answers names with
          | .error failure =>
              setCondition shard .crdConflict .true "CRDSyncFailed"
                s!"{message}; sync failed: {failure.message}"
          | .ok () =>
              setCondition shard .crdConflict .true "CRDsSyncedToSecondary"
                (message ++ "; CRDs synced to secondary")

/-- One half of `aggregateSubCRStatus`. -/
def aggregateReady (type : ShardCondition)
    (ready : Except ApiError (Option (Condition SyncCondition))) : Reporting Unit := do
  match ← answer ready with
  | some ready => setCondition shard type ready.status ready.reason ready.message
  | none => pure ()

/-- `aggregateSubCRStatus`. -/
def aggregateSubCRStatus : Reporting Unit := do
  let _ ← (show Reporting Unit from do
    aggregateReady shard .namespaceSyncReady answers.namespaceSync
    aggregateReady shard .webhookSyncReady answers.webhookSync).attempt
  pure ()

/-- `checkAPIServiceAvailability`. -/
def checkAPIServiceAvailability : Reporting Result := do
  let status ← status read
  if conflictIs "CRDSyncFailed" status then
    assign (.phase .provisioning Phase.provisioning_ne_empty)
    pure { requeueAfter := 10 }
  else if !conflictIs "CRDsSyncedToSecondary" status then
    assign (.remove .apiServicesRegistered)
    pure {}
  else
    match checkOwned shard.uid (← answer answers.services) with
    | some unavailMsg =>
        assign (.phase .provisioning Phase.provisioning_ne_empty)
        setCondition shard .apiServicesRegistered .false "APIServicesNotAvailable" unavailMsg
        pure { requeueAfter := 10 }
    | none =>
        setCondition shard .apiServicesRegistered .true "AllAvailable"
          "All APIServices are available via aggregation"
        pure {}

/-- The branch of `updateHealthStatus` on workloads that are not ready. -/
def reportUnhealthy : Reporting Result := do
  assign (.phase .provisioning Phase.provisioning_ne_empty)
  setCondition shard .secondaryHealthy .false "DeploymentNotReady"
    "Secondary API server is not yet ready"
  if conflictIs "CRDsSyncedToSecondary" (← status read) then
    setCondition shard .apiServicesRegistered .false "SecondaryUnhealthy"
      "Cannot verify APIService availability while secondary is unhealthy"
  pure { requeueAfter := 10 }

/-- `updateHealthStatus`. -/
def updateHealthStatus : Reporting Result := do
  if ← answer answers.checkDeploymentHealth then
    setCondition shard .secondaryHealthy .true "DeploymentAvailable"
      "Secondary API server is healthy"
    assign (.secondaryEndpoint (secondaryEndpoint shard))
    if answers.verifySecondaryAuth then
      aggregateSubCRStatus answers shard
    let result ← checkAPIServiceAvailability answers shard read
    if result.requeueAfter > 0 then
      pure result
    else
      assign (.phase .ready Phase.ready_ne_empty)
      pure {}
  else
    reportUnhealthy shard read

/-- The end of a pass whose steps all succeeded. -/
def reportSuccess : Reporting Unit := do
  assign (.message "")
  assign (.observedGeneration shard.generation)
  setCondition shard .reconciled .true "ReconcileSucceeded"
    "All resources reconciled successfully"
  persist

/-- The end of a pass, once the APIServices are registered. -/
def reconcileHealth : Reporting Result := do
  reconcileCRDConflicts answers shard
  let healthResult ← updateHealthStatus answers shard read
  reportSuccess shard
  pure healthResult

/-- `Reconcile` of a live shard. -/
def reconcile : Reporting Result := do
  answer answers.finalizer
  reconcileResources answers shard
  orSetError shard (reconcileAPIServices answers shard read)
  reconcileHealth answers shard read

end Report

/-- The status after these assignments. -/
def APIShardStatus.assigned (status : APIShardStatus) (now : Nat)
    (assignments : List Assignment) : APIShardStatus :=
  Assign.applyAll (Assignment.apply now) assignments status

/-- What a pass on the shard, given these answers, leaves persisted of a status. -/
def Answers.persisted (answers : Answers) (shard : APIShard) (now : Nat)
    (status : APIShardStatus) : APIShardStatus :=
  match (exec (Report.reconcile answers shard (status.assigned now)) {}).2.written with
  | none => status
  | some assignments => status.assigned now assignments

end KubeShard.Apishard
