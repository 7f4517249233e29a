import KubeShard.Aggregation.Apiservice
import KubeShard.Apishard.Infrastructure

/-!
# APIServices, CRDs and health

The second half of a pass: registering APIServices, copying conflicting CRDs to
the secondary, and deciding whether the shard is ready.
-/

namespace KubeShard.Apishard

open Resources

variable (ctx : Schedule) (shard : APIShard)

/-- `ctrl.Result`, in seconds. -/
structure Result where
  requeueAfter : Nat := 0
  deriving DecidableEq, Repr

/-- `reconcileAPIServices`. -/
def reconcileAPIServices : Pass Unit := do
  let secretName := pkiSecretName shard
  match ← (getObject ctx .getTLSSecret (targetKey shard .secret secretName)).attempt with
  | .error failure =>
      if failure.isNotFound then
        throw (.errorf s!"TLS secret {secretName} not yet available (cert-manager pending)")
      else
        throw (failure.wrap s!"reading TLS secret {secretName}")
  | .ok secret =>
      let registered ← Aggregation.reconcile ctx shard (secret.entry caCertKey)
        (← get).status.registeredAPIServices
      modify fun state => { state with status.registeredAPIServices := registered }

/-! ## CRDs -/

/-- The CRD `syncCRDsToSecondary` makes of one of the primary. -/
def CRD.secondary (crd : CRD) : SecondaryCRD where
  name := crd.name
  labels := crd.labels
  annotations := crd.annotations
  group := crd.group
  conversion := crd.conversion
  rest := crd.rest

/-- The URL `transformCRDConversion` formats. -/
def conversionURL (service : Webhooksync.ServiceReference) : String :=
  let port : Int :=
    match service.port with
    | none => 443
    | some port => port
  let path :=
    match service.path with
    | none => ""
    | some path => path
  s!"https://{service.name}.{service.namespace_}.svc:{port}{path}"

/-- A client configuration with its service reference replaced by a URL. -/
def directConfig (config : Webhooksync.WebhookClientConfig) : Webhooksync.WebhookClientConfig :=
  match config.service with
  | none => config
  | some service => { config with url := some (conversionURL service), service := none }

/-- `transformCRDConversion`. -/
def transformCRDConversion (crd : SecondaryCRD) : SecondaryCRD :=
  match crd.conversion with
  | none => crd
  | some conversion =>
      if conversion.strategy ≠ .webhook then crd
      else
        match conversion.webhook with
        | none => crd
        | some webhook =>
            { crd with conversion := some { conversion with webhook := some { webhook with
                clientConfig := webhook.clientConfig.map directConfig } } }

/-- Server-side apply of a CRD on the secondary. -/
def applySecondaryCRD (index : Nat) (crd : CRD) : Pass Unit :=
  callAPI ctx (.applyCRD index) do
    modify fun state => { state with
      cluster.secondaryCRDs := Function.update state.cluster.secondaryCRDs shard.uid
        ((state.cluster.secondaryCRDs shard.uid).insert (transformCRDConversion crd.secondary))
      trace := state.trace ++ [.appliedCRD shard.uid crd.uid] }

/-- `r.Get` of a CRD. -/
def getCRD (index : Nat) (name : String) : Pass CRD :=
  callAPI ctx (.getCRD index) do
    match (← get).cluster.crds.find? name with
    | some crd => pure crd
    | none => throw (.notFound "CustomResourceDefinition.apiextensions.k8s.io" name)

/-- The loop of `syncCRDsToSecondary`: the errors it collects. -/
def syncCRDs : Nat → List String → Pass (List ApiError)
  | _, [] => pure []
  | index, name :: rest => do
      match ← (getCRD ctx index name).attempt with
      | .error failure =>
          let errors ← syncCRDs (index + 1) rest
          pure (failure.wrap s!"get CRD {name} from primary" :: errors)
      | .ok crd =>
          let outcome ← (applySecondaryCRD ctx shard index crd).attempt
          let errors ← syncCRDs (index + 1) rest
          match outcome with
          | .ok () => pure errors
          | .error failure => pure (failure.wrap s!"apply CRD {name} on secondary" :: errors)

/-- `errors.Join`: no error for an empty list. -/
def joinErrors : List ApiError → Pass Unit
  | [] => pure ()
  | errors => throw (.errorf ("\n".intercalate (errors.map ApiError.message)))

/-- `syncCRDsToSecondary`. -/
def syncCRDsToSecondary (crdNames : List String) : Pass Unit := do
  if secondaryEndpoint shard = "" then
    throw (.errorf "secondary endpoint not available yet")
  else
    let _ ← (getObject ctx .getSyncPKI (targetKey shard .secret (pkiSecretName shard))).mapError
      (·.wrap "reading PKI secret for CRD sync")
    let _ ← (getObject ctx .getSyncAdminClient
      (targetKey shard .secret (adminClientSecretName shard))).mapError
      (·.wrap "reading admin client cert for CRD sync")
    (callAPI ctx .buildSyncClient (pure ())).mapError (·.wrap "creating secondary client")
    let errors ← syncCRDs ctx shard 0 crdNames
    joinErrors errors

/-- `reconcileCRDConflicts`.  A failed detection leaves the condition as it is. -/
def reconcileCRDConflicts : Pass Unit := do
  match ← (Aggregation.detectCRDConflicts ctx shard).attempt with
  | .error _ => pure ()
  | .ok [] =>
      setCondition shard .crdConflict .false "NoConflicts"
        "No conflicting CRDs detected on primary"
  | .ok names =>
      let message := Aggregation.conflictMessage names
      match ← (syncCRDsToSecondary ctx shard names).attempt with
      | .error failure =>
          setCondition shard .crdConflict .true "CRDSyncFailed"
            s!"{message}; sync failed: {failure.message}"
      | .ok () =>
          setCondition shard .crdConflict .true "CRDsSyncedToSecondary"
            (message ++ "; CRDs synced to secondary")

/-! ## Sync objects -/

/-- `verifySecondaryAuth`. -/
def verifySecondaryAuth : Pass Bool := do
  match ← (getObject ctx .getVerifyPKI
    (targetKey shard .secret (pkiSecretName shard))).attempt with
  | .error _ => pure false
  | .ok pkiSecret =>
    match ← (getObject ctx .getVerifyAdminClient
      (targetKey shard .secret (adminClientSecretName shard))).attempt with
    | .error _ => pure false
    | .ok adminSecret =>
      if pkiSecret.entry caCertKey = "" ∨ adminSecret.entry "tls.crt" = "" ∨
          adminSecret.entry "tls.key" = "" then
        pure false
      else
        match ← (callAPI ctx .buildVerifyClient (pure ())).attempt with
        | .error _ => pure false
        | .ok () =>
          match ← (callAPI ctx .verifyList (pure ())).attempt with
          | .error _ => pure false
          | .ok () => pure true

/-- The connection both sync objects use. -/
def syncConnection : SecondaryConnection where
  serviceName := s!"{shard.name}-apiserver"
  serviceNamespace := shard.spec.targetNamespace
  servicePort := 443
  authSecret := adminClientSecretName shard
  caSecret := pkiSecretName shard

/-- The name of a shard's sync object. -/
def SyncKind.nameOf : SyncKind → String
  | .namespaceSync => s!"{shard.name}-ns-sync"
  | .webhookSync => s!"{shard.name}-webhook-sync"

/-- What a shard's sync object has beside the connection. -/
def SyncKind.specOf : (kind : SyncKind) → kind.Spec
  | .namespaceSync => ⟨shard.spec.labelSelector, []⟩
  | .webhookSync => shard.spec.apiGroups.map APIGroupSpec.group

/-- The identity of a shard's sync object. -/
def SyncKind.keyOf (kind : SyncKind) : String × String :=
  (shard.spec.targetNamespace, kind.nameOf shard)

/-- The condition of a shard that mirrors its sync object. -/
def SyncKind.condition : SyncKind → ShardCondition
  | .namespaceSync => .namespaceSyncReady
  | .webhookSync => .webhookSyncReady

/-- `Get` of a sync object in `CreateOrUpdate`. -/
def SyncKind.getCall : SyncKind → Call
  | .namespaceSync => .getNamespaceSync
  | .webhookSync => .getWebhookSync

/-- `Create` or `Update` of a sync object. -/
def SyncKind.writeCall : SyncKind → Call
  | .namespaceSync => .writeNamespaceSync
  | .webhookSync => .writeWebhookSync

/-- `Get` of a sync object in `aggregateSubCRStatus`. -/
def SyncKind.readCall : SyncKind → Call
  | .namespaceSync => .readNamespaceSync
  | .webhookSync => .readWebhookSync

/-- How the errors of a cached read name the resource. -/
def SyncKind.resource : SyncKind → String
  | .namespaceSync => "NamespaceSync.kube-shard.konflux-ci.dev"
  | .webhookSync => "WebhookSync.kube-shard.konflux-ci.dev"

/-- How the errors of the server name the resource. -/
def SyncKind.plural : SyncKind → String
  | .namespaceSync => "namespacesyncs.kube-shard.konflux-ci.dev"
  | .webhookSync => "webhooksyncs.kube-shard.konflux-ci.dev"

/-- Store a sync object. -/
def storeSync (kind : SyncKind) (object : SyncObject kind.Spec) : Pass Unit :=
  modify fun state => { state with
    cluster := state.cluster.setSyncs kind ((state.cluster.syncs kind).insert object) }

/-- `r.Create` of a sync object. -/
def createSync (kind : SyncKind) (object : SyncObject kind.Spec) : Pass Unit :=
  callSync ctx kind.writeCall do
    match ((← get).cluster.syncs kind).find? object.key with
    | some _ => throw (.alreadyExists kind.plural object.name)
    | none => storeSync kind object

/-- `r.Update` of a sync object: refused when the copy is stale.  The stored status is
kept. -/
def updateSync (kind : SyncKind) (object : SyncObject kind.Spec) : Pass Unit :=
  callSync ctx kind.writeCall do
    match ((← get).cluster.syncs kind).find? object.key with
    | none => throw (.notFound kind.plural object.name)
    | some stored =>
        if stored.resourceVersion ≠ object.resourceVersion then
          throw (.conflict kind.plural object.name)
        else
          storeSync kind { object with
            conditions := stored.conditions
            lastSyncTime := stored.lastSyncTime
            resourceVersion := stored.resourceVersion + 1
            generation :=
              if object.connection = stored.connection ∧ object.spec = stored.spec then
                stored.generation
              else stored.generation + 1 }

/-- `controllerutil.CreateOrUpdate` of a sync object: created when missing, and
written when it changes. -/
def createOrUpdate (kind : SyncKind) : Pass Unit := do
  let existing ← callSync ctx kind.getCall do
    pure (((← get).cluster.syncs kind).find? (kind.keyOf shard))
  match existing with
  | none =>
      createSync ctx kind
        { namespace_ := shard.spec.targetNamespace, name := kind.nameOf shard, generation := 1,
          owner := some shard.name, connection := syncConnection shard,
          spec := kind.specOf shard }
  | some object =>
      let updated := { object with
        owner := some shard.name
        connection := syncConnection shard
        spec := kind.specOf shard }
      if updated = object then pure ()
      else updateSync ctx kind updated

/-- `reconcileNamespaceSync`. -/
def reconcileNamespaceSync : Pass Unit := createOrUpdate ctx shard .namespaceSync

/-- `reconcileWebhookSync`. -/
def reconcileWebhookSync : Pass Unit := createOrUpdate ctx shard .webhookSync

/-- `r.Get` of a sync object. -/
def readSync (kind : SyncKind) : Pass (SyncObject kind.Spec) :=
  callSync ctx kind.readCall do
    match ((← get).cluster.syncs kind).find? (kind.keyOf shard) with
    | some object => pure object
    | none => throw (.notFound kind.resource (kind.nameOf shard))

/-- One half of `aggregateSubCRStatus`: read a sync object and copy its Ready
condition. -/
def aggregateReady (kind : SyncKind) : Pass Unit := do
  let object ← readSync ctx shard kind
  match findStatusCondition object.conditions .ready with
  | some ready => setCondition shard kind.condition ready.status ready.reason ready.message
  | none => pure ()

/-- `aggregateSubCRStatus`: an error ends it silently. -/
def aggregateSubCRStatus : Pass Unit := do
  let _ ← (show Pass Unit from do
    aggregateReady ctx shard .namespaceSync
    aggregateReady ctx shard .webhookSync).attempt
  pure ()

/-! ## Health -/

/-- All replicas of a workload are ready, and there is one. -/
def Object.ready (object : Object) : Bool :=
  object.readyReplicas > 0 && object.readyReplicas == object.replicas

/-- `checkDeploymentHealth`. -/
def checkDeploymentHealth : Pass Bool := do
  let kineDeploy ← getObject ctx .getKineDeployment
    (targetKey shard .deployment (kineDeploymentName shard))
  let secondaryDeploy ← getObject ctx .getSecondaryDeployment
    (targetKey shard .deployment (secondaryDeploymentName shard))
  if shard.spec.storage.type = .inClusterPostgreSQL then
    let pgSts ← getObject ctx .getPostgreSQLStatefulSet
      (targetKey shard .statefulSet (postgreSQLStatefulSetName shard))
    pure (kineDeploy.ready && secondaryDeploy.ready && pgSts.ready)
  else
    pure (kineDeploy.ready && secondaryDeploy.ready)

/-- Set the phase of the pass's copy of the shard. -/
def setPhase (phase : Phase) : Pass Unit :=
  modify fun state => { state with status.phase := phase }

/-- The CRDConflict condition is True with the given reason. -/
def conflictIs (reason : String) (status : APIShardStatus) : Bool :=
  match findStatusCondition status.conditions .crdConflict with
  | some condition => condition.status = .true && condition.reason = reason
  | none => false

/-- `checkAPIServiceAvailability`. -/
def checkAPIServiceAvailability : Pass Result := do
  let status := (← get).status
  if conflictIs "CRDSyncFailed" status then
    setPhase .provisioning
    pure { requeueAfter := 10 }
  else if !conflictIs "CRDsSyncedToSecondary" status then
    removeCondition .apiServicesRegistered
    pure {}
  else
    match ← (Aggregation.checkAvailability ctx shard.uid).mapError
      (·.wrap "check APIService availability") with
    | some unavailMsg =>
        setPhase .provisioning
        setCondition shard .apiServicesRegistered .false "APIServicesNotAvailable" unavailMsg
        pure { requeueAfter := 10 }
    | none =>
        setCondition shard .apiServicesRegistered .true "AllAvailable"
          "All APIServices are available via aggregation"
        pure {}

/-- The branch of `updateHealthStatus` on workloads that are not ready. -/
def reportUnhealthy : Pass Result := do
  setPhase .provisioning
  setCondition shard .secondaryHealthy .false "DeploymentNotReady"
    "Secondary API server is not yet ready"
  if conflictIs "CRDsSyncedToSecondary" (← get).status then
    setCondition shard .apiServicesRegistered .false "SecondaryUnhealthy"
      "Cannot verify APIService availability while secondary is unhealthy"
  pure { requeueAfter := 10 }

/-- The sync objects are kept up to date once the secondary accepts requests;
failures are only logged. -/
def reconcileSubCRs : Pass Unit := do
  if ← verifySecondaryAuth ctx shard then
    let _ ← (reconcileNamespaceSync ctx shard).attempt
    let _ ← (reconcileWebhookSync ctx shard).attempt
    aggregateSubCRStatus ctx shard

/-- `updateHealthStatus`. -/
def updateHealthStatus : Pass Result := do
  if ← checkDeploymentHealth ctx shard then
    setCondition shard .secondaryHealthy .true "DeploymentAvailable"
      "Secondary API server is healthy"
    modify fun state => { state with status.secondaryEndpoint := secondaryEndpoint shard }
    reconcileSubCRs ctx shard
    let result ← checkAPIServiceAvailability ctx shard
    if result.requeueAfter > 0 then
      pure result
    else
      setPhase .ready
      pure {}
  else
    reportUnhealthy shard

end KubeShard.Apishard
