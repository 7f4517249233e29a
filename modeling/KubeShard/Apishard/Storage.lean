import KubeShard.Apishard.Pass
import Mathlib.Data.List.Infix

/-!
# The storage steps of a pass

`reconcileStorage` and what it calls: the in-cluster PostgreSQL, the check of an
external connection Secret, Kine, and the metrics collector.  The collector is
optional: its failures are reported in a condition and do not stop the pass.
-/

namespace KubeShard.Apishard

open Resources

variable (r : Reconciler) (ctx : Schedule) (shard : APIShard)

/-- A Secret or ConfigMap of the target namespace. -/
def targetKey (kind : ObjectKind) (name : String) : ObjectKey :=
  ⟨kind, shard.spec.targetNamespace, name⟩

/-! ## PostgreSQL -/

/-- `getOrGeneratePostgresPassword`: whatever goes wrong with the read, a new
password is generated. -/
def getOrGeneratePostgresPassword : Pass String := do
  let existing ← (getObject ctx .getCredentials
    (targetKey shard .secret (postgreSQLSecretName shard))).attempt
  match existing with
  | .ok secret =>
      if secret.entry "POSTGRES_PASSWORD" ≠ "" then
        pure (secret.entry "POSTGRES_PASSWORD")
      else
        generate
  | .error _ => generate
where
  /-- `resources.GeneratePassword`. -/
  generate : Pass String :=
    (callAPI ctx .generatePassword (pure (generatePassword ctx.random))).mapError
      (·.wrap "generating random password")

/-- `preservePostgreSQLVolumeClaimTemplates`: the StatefulSet to apply. -/
def preservePostgreSQLVolumeClaimTemplates (desired : StatefulSet) : Pass StatefulSet := do
  let requested := desired.volumeClaimTemplates
  let existing ← (getObject ctx .getStatefulSet
    (targetKey shard .statefulSet (postgreSQLStatefulSetName shard))).attempt
  match existing with
  | .error failure =>
      if failure.isNotFound then
        setCondition shard .storageReady .true "VolumeClaimTemplateUnchanged"
          "no existing PostgreSQL StatefulSet; applying requested volume claim templates"
        pure desired
      else
        throw (failure.wrap "fetching existing statefulset")
  | .ok object =>
      let live := object.statefulSet
      if volumeClaimTemplatesMatch requested live.volumeClaimTemplates then
        setCondition shard .storageReady .true "VolumeClaimTemplateUnchanged"
          "PostgreSQL volume claim templates match the live StatefulSet"
      else
        let described := describeVolumeClaimTemplates live.volumeClaimTemplates
        let wanted := describeVolumeClaimTemplates requested
        setCondition shard .storageReady .false "VolumeClaimTemplateImmutable"
          (s!"volumeClaimTemplates are immutable; live {described}, spec requested {wanted}. " ++
            "Update the APIShard to match the live volume or recreate the shard.")
      pure (alignPostgreSQLVolumeClaims desired live)

/-- The steps of `reconcileInClusterPostgreSQL` before the StatefulSet. -/
def prepareDatabase : Pass Unit := do
  let password ← (getOrGeneratePostgresPassword ctx shard).mapError (·.wrap "postgres password")
  (applyOwned ctx shard .postgreSQLSecret (buildPostgreSQLSecret shard password)).mapError
    (·.wrap "postgresql secret")
  (applyOwned ctx shard .postgreSQLInitConfigMap).mapError (·.wrap "postgresql init configmap")

/-- The steps of `reconcileInClusterPostgreSQL` up to the StatefulSet that is to be applied. -/
def statefulSetToApply : Pass StatefulSet := do
  prepareDatabase ctx shard
  (preservePostgreSQLVolumeClaimTemplates ctx shard (buildPostgreSQLStatefulSet shard)).mapError
    (·.wrap "preserving postgresql volume claim templates")

/-- The steps of `reconcileInClusterPostgreSQL` once the StatefulSet is known. -/
def applyDatabase (set : StatefulSet) : Pass Unit := do
  (applyOwned ctx shard .postgreSQLStatefulSet [] (.statefulSet set)).mapError
    (·.wrap "postgresql statefulset")
  (applyOwned ctx shard .postgreSQLService).mapError (·.wrap "postgresql service")

/-- `reconcileInClusterPostgreSQL`. -/
def reconcileInClusterPostgreSQL : Pass Unit := do
  let statefulSet ← statefulSetToApply ctx shard
  applyDatabase ctx shard statefulSet

theorem reconcileInClusterPostgreSQL_eq : reconcileInClusterPostgreSQL ctx shard = (do
    prepareDatabase ctx shard
    let statefulSet ← (preservePostgreSQLVolumeClaimTemplates ctx shard
      (buildPostgreSQLStatefulSet shard)).mapError
      (·.wrap "preserving postgresql volume claim templates")
    applyDatabase ctx shard statefulSet) := by
  rw [reconcileInClusterPostgreSQL, statefulSetToApply, bind_assoc]

/-- All the steps on the database in their order. -/
theorem reconcileInClusterPostgreSQL_steps : reconcileInClusterPostgreSQL ctx shard = (do
    let password ← (getOrGeneratePostgresPassword ctx shard).mapError (·.wrap "postgres password")
    (applyOwned ctx shard .postgreSQLSecret (buildPostgreSQLSecret shard password)).mapError
      (·.wrap "postgresql secret")
    (applyOwned ctx shard .postgreSQLInitConfigMap).mapError (·.wrap "postgresql init configmap")
    let statefulSet ← (preservePostgreSQLVolumeClaimTemplates ctx shard
      (buildPostgreSQLStatefulSet shard)).mapError
      (·.wrap "preserving postgresql volume claim templates")
    (applyOwned ctx shard .postgreSQLStatefulSet [] (.statefulSet statefulSet)).mapError
      (·.wrap "postgresql statefulset")
    (applyOwned ctx shard .postgreSQLService).mapError (·.wrap "postgresql service")) := by
  simp only [reconcileInClusterPostgreSQL_eq, prepareDatabase, applyDatabase, bind_assoc]

/-- The exit of `validateExternalPostgreSQLSecret` with a reason. -/
def storageNotReady (reason message : String) (failure : ApiError) : Pass Unit := do
  setCondition shard .storageReady .false reason message
  throw failure

/-- `validateExternalPostgreSQLSecret`. -/
def validateExternalPostgreSQLSecret : Pass Unit := do
  match shard.spec.storage.connectionSecretRef with
  | none =>
      storageNotReady shard "MissingConnectionSecretRef"
        "storage.type is PostgreSQL but connectionSecretRef is not set"
        (.errorf "storage.type is PostgreSQL but connectionSecretRef is not set")
  | some ref =>
      let target := shard.spec.targetNamespace
      let secret ← (getObject ctx .getConnectionSecret (targetKey shard .secret ref.name)).attempt
      match secret with
      | .error failure =>
          if failure.isNotFound then
            storageNotReady shard "SecretNotFound"
              s!"Secret \"{ref.name}\" not found in namespace \"{target}\""
              (.errorf s!"connection secret \"{ref.name}\" not found in namespace \"{target}\"")
          else
            storageNotReady shard "SecretReadError"
              s!"Failed to read Secret \"{ref.name}\": {failure.message}"
              (failure.wrap s!"reading connection secret \"{ref.name}\"")
      | .ok secret =>
          if (secret.lookup ref.key).isNone then
            storageNotReady shard "KeyNotFound"
              s!"Key \"{ref.key}\" not found in Secret \"{ref.name}\""
              (.errorf s!"key \"{ref.key}\" not found in secret \"{ref.name}\"")
          else
            setCondition shard .storageReady .true "SecretValid"
              s!"Connection secret \"{ref.name}\" validated"

/-! ## Kine -/

/-- `strings.Contains`. -/
def containsText (text part : String) : Bool := decide (part.toList <:+: text.toList)

/-- `isTrafficDistributionUnsupported`. -/
def isTrafficDistributionUnsupported (failure : ApiError) : Bool :=
  containsText failure.message "trafficDistribution" &&
    (failure.isInvalid || failure.isNotFound || containsText failure.message "unknown field")

/-- `tc.ApplyOwned` of the Kine Service, with or without a traffic distribution,
which an older cluster refuses. -/
def applyKineService (request : Call) (trafficDistribution : Bool) : Pass Unit :=
  callAPI ctx request do
    if trafficDistribution && !(← get).cluster.servesTrafficDistribution then
      throw ⟨.fault .invalid, "spec.trafficDistribution: Invalid value"⟩
    else
      let key := Component.kineService.key shard
      applyObject { key := key, owner := some shard.name }
      modify fun state => { state with tracked := state.tracked ++ [key] }

/-- The end of `reconcileKine`: the Service, a second time without the hint if need be. -/
def serveKine : Pass Unit := do
  match ← (applyKineService ctx shard (.apply .kineService) (isColocateEnabled shard)).attempt with
  | .ok () => pure ()
  | .error failure =>
      if isColocateEnabled shard && isTrafficDistributionUnsupported failure then
        (applyKineService ctx shard .applyKineServiceFallback false).mapError
          (·.wrap "kine service (fallback without trafficDistribution)")
      else
        throw (failure.wrap "kine service")

/-- `reconcileKine`. -/
def reconcileKine : Pass Unit := do
  (applyOwned ctx shard .kineDeployment).mapError (·.wrap "kine deployment")
  if buildPDB shard.spec.kineReplicas then
    (applyOwned ctx shard .kinePDB).mapError (·.wrap "kine pdb")
  serveKine ctx shard

theorem reconcileKine_eq : reconcileKine ctx shard = (do
    (applyOwned ctx shard .kineDeployment).mapError (·.wrap "kine deployment")
    if buildPDB shard.spec.kineReplicas then
      (applyOwned ctx shard .kinePDB).mapError (·.wrap "kine pdb")
      serveKine ctx shard
    else
      serveKine ctx shard) :=
  rfl

/-! ## The metrics collector -/

/-- `applyOTelCollector`. -/
def applyOTelCollector (params : OTelConnectionParams) (credentialSecretName : String) :
    Pass Unit := do
  let configContent := buildOTelCollectorConfig shard params
  let cmName := r.buildConfigMapName (oTelCollectorConfigMapBaseName shard) configContent
  (applyOwned ctx shard (.oTelCollectorConfigMap cmName) [("config.yaml", configContent)]).mapError
    (·.wrap "otel collector configmap")
  (applyOwned ctx shard .oTelCollectorDeployment [] (.deployment
    (buildOTelCollectorDeployment credentialSecretName cmName params))).mapError
    (·.wrap "otel collector deployment")
  (applyOwned ctx shard .oTelCollectorService).mapError (·.wrap "otel collector service")
  if r.serviceMonitorAvailable then
    (applyOwned ctx shard .postgreSQLServiceMonitor).mapError
      (·.wrap "postgresql metrics service monitor")

/-- `ensureOTelCredentialSecret`: the name of the Secret. -/
def ensureOTelCredentialSecret (params : OTelConnectionParams) : Pass String := do
  (applyOwned ctx shard .oTelCredentialSecret
    [("POSTGRES_USER", params.user), ("POSTGRES_PASSWORD", params.password)]).mapError
    (·.wrap "otel credential secret")
  pure (named shard "-postgresql-metrics-credentials")

/-- The in-cluster branch of `reconcilePostgreSQLMetrics`. -/
def inClusterMetrics : Pass Unit :=
  applyOTelCollector r ctx shard
    { inClusterPostgreSQLConnectionParams shard with
      caCertSecretName := postgreSQLCASecretName shard
      caCertSecretKey := caCertKey }
    (postgreSQLSecretName shard)

/-- The external branch of `reconcilePostgreSQLMetrics`. -/
def externalMetrics : Pass Unit := do
  match shard.spec.storage.connectionSecretRef with
  | none => throw (.errorf "storage.monitoring enabled but connectionSecretRef is not set")
  | some ref =>
      let secret ← (getObject ctx .getMetricsSecret (targetKey shard .secret ref.name)).mapError
        (·.wrap "reading connection secret for metrics")
      match r.parsePostgreSQLDSN (secret.entry ref.key) with
      | .error failure => throw (failure.wrap "parsing DSN for metrics collector")
      | .ok params =>
          match shard.spec.storage.monitoring.bind StorageMonitoringSpec.caCertSecret with
          | none =>
              throw (.errorf
                "caCertSecret must be set in spec.storage.monitoring for external PostgreSQL")
          | some caCert =>
              let params := { params with
                caCertSecretName := caCert.name, caCertSecretKey := caCert.key }
              let credentialSecret ← ensureOTelCredentialSecret ctx shard params
              applyOTelCollector r ctx shard params credentialSecret

/-- The end of `reconcilePostgreSQLMetrics`: the outcome becomes a condition. -/
def reportMetrics (collect : Pass Unit) : Pass Unit := do
  match ← collect.attempt with
  | .error failure =>
      setCondition shard .monitoringDegraded .true "MetricsCollectorFailed"
        s!"Failed to deploy metrics collector: {failure.message}"
  | .ok () =>
      setCondition shard .monitoringDegraded .false "MetricsCollectorHealthy"
        "PostgreSQL metrics collector is deployed"

/-- `reconcilePostgreSQLMetrics`. -/
def reconcilePostgreSQLMetrics : Pass Unit := do
  if !storageMonitoringEnabled shard then
    removeCondition .monitoringDegraded
  else
    match shard.spec.storage.type with
    | .sqlite =>
        setCondition shard .monitoringDegraded .true "UnsupportedStorageType"
          "Storage monitoring is not supported for SQLite; disable monitoring.enabled or switch to PostgreSQL"
    | .inClusterPostgreSQL => reportMetrics shard (inClusterMetrics r ctx shard)
    | .postgreSQL => reportMetrics shard (externalMetrics r ctx shard)

/-- `reconcileStorage`. -/
def reconcileStorage : Pass Unit := do
  match shard.spec.storage.type with
  | .inClusterPostgreSQL =>
      (reconcileInClusterPostgreSQL ctx shard).mapError (·.wrap "in-cluster PostgreSQL")
  | .postgreSQL =>
      (validateExternalPostgreSQLSecret ctx shard).mapError (·.wrap "external PostgreSQL")
  | .sqlite => pure ()
  (reconcileKine ctx shard).mapError (·.wrap "kine")
  reconcilePostgreSQLMetrics r ctx shard

end KubeShard.Apishard
