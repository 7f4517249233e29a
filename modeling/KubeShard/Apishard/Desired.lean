import KubeShard.Apishard.Live
import KubeShard.Program.Overlay
import KubeShard.Resources.Identity
import Mathlib.Data.List.TakeWhile

/-!
# The desired objects of a shard

What a pass is for, as far as objects are concerned: a few inputs are read from the cluster, the
spec and these inputs decide a list of objects, the objects of the list are applied, and the
other objects with the label of the shard are deleted.  Which components are on the list also
depends on the capabilities found at start-up and on the calls that fail.
-/

namespace KubeShard.Apishard

open Resources Prog

/-! ## Storage -/

/-- Applying the component meets no obstacle. -/
def clear (ctx : Schedule) (cluster : Cluster) (component : Component) : Bool :=
  (ctx.faults (.apply component)).isNone && !cluster.unserved component.kind

theorem clear_congr (ctx : Schedule) {before after : Cluster}
    (unserved : after.unserved = before.unserved) : clear ctx after = clear ctx before := by
  funext component
  rw [clear, clear, unserved]

/-- The components of the storage backend. -/
def storageComponents (shard : APIShard) : List Component :=
  match shard.spec.storage.type with
  | .inClusterPostgreSQL =>
      [.postgreSQLSecret, .postgreSQLInitConfigMap, .postgreSQLStatefulSet, .postgreSQLService]
  | _ => []

/-- The components of Kine. -/
def kineComponents (shard : APIShard) : List Component :=
  [.kineDeployment] ++ (if buildPDB shard.spec.kineReplicas then [.kinePDB] else []) ++
    [.kineService]

/-- The components of the metrics collector itself. -/
def collectorBasics (r : Reconciler) (shard : APIShard) (params : OTelConnectionParams) :
    List Component :=
  [.oTelCollectorConfigMap (r.buildConfigMapName (oTelCollectorConfigMapBaseName shard)
      (buildOTelCollectorConfig shard params)),
    .oTelCollectorDeployment, .oTelCollectorService]

/-- The components of the metrics collector, and what lets Prometheus find it. -/
def collectorComponents (r : Reconciler) (shard : APIShard) (params : OTelConnectionParams) :
    List Component :=
  collectorBasics r shard params ++
    if r.serviceMonitorAvailable then [.postgreSQLServiceMonitor] else []

/-- The connection of the metrics collector to an external database. -/
def externalParams (r : Reconciler) (shard : APIShard) (cluster : Cluster) :
    Option OTelConnectionParams := do
  let ref ← shard.spec.storage.connectionSecretRef
  let secret ← cluster.objects.find? (targetKey shard .secret ref.name)
  let params ← (r.parsePostgreSQLDSN (secret.entry ref.key)).toOption
  let caCert ← shard.spec.storage.monitoring.bind StorageMonitoringSpec.caCertSecret
  pure { params with caCertSecretName := caCert.name, caCertSecretKey := caCert.key }

/-- The components the metrics collector needs. -/
def collectorChain (r : Reconciler) (shard : APIShard) (cluster : Cluster) : List Component :=
  if storageMonitoringEnabled shard then
    match shard.spec.storage.type with
    | .sqlite => []
    | .inClusterPostgreSQL => collectorComponents r shard
        { inClusterPostgreSQLConnectionParams shard with
          caCertSecretName := postgreSQLCASecretName shard
          caCertSecretKey := caCertKey }
    | .postgreSQL =>
        match externalParams r shard cluster with
        | some params => .oTelCredentialSecret :: collectorComponents r shard params
        | none => []
  else
    []

/-- The connection Secret cannot be read for the metrics collector. -/
def metricsUnread (ctx : Schedule) (shard : APIShard) : Bool :=
  decide (shard.spec.storage.type = .postgreSQL) && (ctx.faults .getMetricsSecret).isSome

/-- The components of the metrics collector that a pass applies. -/
def collected (r : Reconciler) (ctx : Schedule) (shard : APIShard) (cluster : Cluster) :
    List Component :=
  if metricsUnread ctx shard then []
  else (collectorChain r shard cluster).takeWhile (clear ctx cluster)

/-- The connection Secret of an external database is there and has the key. -/
def ConnectionValid (shard : APIShard) (cluster : Cluster) : Prop :=
  ∃ ref secret, shard.spec.storage.connectionSecretRef = some ref ∧
    cluster.objects.find? (targetKey shard .secret ref.name) = some secret ∧
    (secret.lookup ref.key).isSome = true

/-! ## Access and workloads -/

/-- The components that let the secondary run on OpenShift. -/
def sccComponents (r : Reconciler) : List Component :=
  if r.sccAvailable then [.apiServerSCC, .apiServerSCCClusterRole, .apiServerSCCRoleBinding]
  else []

/-- The components of the secondary API server. -/
def secondaryComponents (shard : APIShard) : List Component :=
  [.secondaryDeployment] ++ (if buildPDB shard.spec.secondaryReplicas then [.secondaryPDB] else []) ++
    [.secondaryService]

/-- The ConfigMap with the request header CA of the primary. -/
def authenticationKey : ObjectKey :=
  ⟨.configMap, "kube-system", "extension-apiserver-authentication"⟩

/-- The request header CA of the primary can be copied. -/
def HeaderReady (r : Reconciler) (cluster : Cluster) : Prop :=
  ∃ source allowedNames, cluster.objects.find? authenticationKey = some source ∧
    source.entry "requestheader-client-ca-file" ≠ "" ∧
    (if source.entry "requestheader-allowed-names" = "" then .ok []
      else r.unmarshalStrings (source.entry "requestheader-allowed-names")) = .ok allowedNames

/-- What the admin kubeconfig is made from. -/
structure Credentials where
  caData : String
  clientCert : String
  clientKey : String
  deriving DecidableEq, Repr

/-- What the cluster has to make the admin kubeconfig from. -/
def credentials (shard : APIShard) (cluster : Cluster) : Option Credentials :=
  match cluster.objects.find? (targetKey shard .secret (pkiSecretName shard)),
    cluster.objects.find? (targetKey shard .secret (adminClientSecretName shard)) with
  | some pkiSecret, some adminSecret =>
      if pkiSecret.entry caCertKey = "" ∨ adminSecret.entry "tls.crt" = "" ∨
          adminSecret.entry "tls.key" = "" then
        none
      else
        some ⟨pkiSecret.entry caCertKey, adminSecret.entry "tls.crt", adminSecret.entry "tls.key"⟩
  | _, _ => none

/-- The credentials for the admin kubeconfig are there. -/
def credentialsReady (shard : APIShard) (cluster : Cluster) : Bool :=
  (credentials shard cluster).isSome

/-- The Secrets the admin kubeconfig is made from cannot be read. -/
def credentialsUnread (ctx : Schedule) : Bool :=
  (ctx.faults .getPKI).isSome || (ctx.faults .getAdminClient).isSome

/-- The admin kubeconfig, if a pass applies it. -/
def kubeconfigComponents (ctx : Schedule) (shard : APIShard) (cluster : Cluster) :
    List Component :=
  if credentialsReady shard cluster && !credentialsUnread ctx then [.adminKubeconfig] else []

/-- The components that discovery by Prometheus needs beside the ServiceMonitor of
Kine. -/
def discoveryComponents : List Component :=
  [.secondaryServiceMonitor, .prometheusDiscoveryRole, .prometheusDiscoveryRoleBinding]

/-- The components for metrics scraping that a pass applies. -/
def monitoringComponents (r : Reconciler) (ctx : Schedule) (cluster : Cluster) : List Component :=
  if r.serviceMonitorAvailable then
    [.metricsReaderServiceAccount, .metricsReaderTokenSecret, .metricsReaderClusterRoleBinding] ++
      if clear ctx cluster .kineServiceMonitor then .kineServiceMonitor :: discoveryComponents
      else []
  else
    []

/-! ## All components -/

/-- The names of hashed ConfigMaps begin with their base name. -/
def Reconciler.Hashed (r : Reconciler) : Prop :=
  ∀ base content, ∃ hash, r.buildConfigMapName base content = base ++ "-" ++ hash

/-- The components a pass applies before it reads the request header CA. -/
def earlyComponents (r : Reconciler) (ctx : Schedule) (shard : APIShard) (cluster : Cluster) :
    List Component :=
  storageComponents shard ++ kineComponents shard ++ collected r ctx shard cluster ++
    buildCertResources shard ++ [.authConfig, .secondaryServiceAccount, .authDelegator] ++
    sccComponents r

/-- The components a pass applies, in their order, when its first part returns. -/
def appliedComponents (r : Reconciler) (ctx : Schedule) (shard : APIShard) (cluster : Cluster) :
    List Component :=
  earlyComponents r ctx shard cluster ++ [.requestHeaderCA] ++
    kubeconfigComponents ctx shard cluster ++ secondaryComponents shard ++
    monitoringComponents r ctx cluster

/-- What the first part of a pass needs to find in the cluster. -/
structure Feasible (r : Reconciler) (shard : APIShard) (cluster : Cluster) : Prop where
  connection : shard.spec.storage.type = .postgreSQL → ConnectionValid shard cluster
  header : HeaderReady r cluster

section belongs

variable {r : Reconciler} {ctx : Schedule} {shard : APIShard} {cluster : Cluster}

theorem name_of_collectorComponents {params : OTelConnectionParams} {name : String}
    (membership : .oTelCollectorConfigMap name ∈ collectorComponents r shard params) :
    name = r.buildConfigMapName (oTelCollectorConfigMapBaseName shard)
      (buildOTelCollectorConfig shard params) := by
  simpa [collectorComponents, collectorBasics] using membership

theorem collectorComponents_belong (hashed : r.Hashed) (params : OTelConnectionParams) :
    ∀ component ∈ collectorComponents r shard params, component.belongs shard := by
  intro component membership
  rcases component.plain_or_hashed with plain | ⟨name, rfl⟩
  · exact Component.belongs_of_plain shard plain
  · rw [name_of_collectorComponents membership]
    exact hashed _ _

/-- The collector has its own components, and for an external database a Secret. -/
theorem mem_collectorChain {component : Component}
    (membership : component ∈ collectorChain r shard cluster) :
    component = .oTelCredentialSecret ∨
      ∃ params, component ∈ collectorComponents r shard params := by
  unfold collectorChain at membership
  split at membership
  · split at membership
    · cases membership
    · exact .inr ⟨_, membership⟩
    · split at membership
      · exact (List.mem_cons.mp membership).imp id fun inRest => ⟨_, inRest⟩
      · cases membership
  · cases membership

theorem collectorChain_belong (hashed : r.Hashed) :
    ∀ component ∈ collectorChain r shard cluster, component.belongs shard := by
  intro component membership
  rcases mem_collectorChain membership with rfl | ⟨params, inComponents⟩
  · trivial
  · exact collectorComponents_belong hashed params component inComponents

theorem collected_belong (hashed : r.Hashed) :
    ∀ component ∈ collected r ctx shard cluster, component.belongs shard := by
  intro component membership
  unfold collected at membership
  split at membership
  · cases membership
  · exact collectorChain_belong hashed component (List.takeWhile_subset _ membership)

theorem step_of_storage : ∀ component ∈ storageComponents shard, step component = .storage := by
  unfold storageComponents
  split <;> decide

theorem step_of_kine : ∀ component ∈ kineComponents shard, step component = .kine := by
  unfold kineComponents
  split <;> decide

theorem step_of_collectorComponents (params : OTelConnectionParams) :
    ∀ component ∈ collectorComponents r shard params, step component = .collector := by
  unfold collectorComponents collectorBasics
  split <;> simp [step]

theorem step_of_collectorChain :
    ∀ component ∈ collectorChain r shard cluster, step component = .collector := by
  intro component membership
  rcases mem_collectorChain membership with rfl | ⟨params, inComponents⟩
  · rfl
  · exact step_of_collectorComponents params component inComponents

theorem step_of_collected :
    ∀ component ∈ collected r ctx shard cluster, step component = .collector := by
  intro component membership
  unfold collected at membership
  split at membership
  · cases membership
  · exact step_of_collectorChain component (List.takeWhile_subset _ membership)

theorem step_of_scc : ∀ component ∈ sccComponents r, step component = .scc := by
  unfold sccComponents
  split <;> decide

theorem step_of_kubeconfig :
    ∀ component ∈ kubeconfigComponents ctx shard cluster, step component = .kubeconfig := by
  unfold kubeconfigComponents
  split <;> decide

theorem step_of_secondary :
    ∀ component ∈ secondaryComponents shard, step component = .secondary := by
  unfold secondaryComponents
  split <;> decide

theorem step_of_monitoring :
    ∀ component ∈ monitoringComponents r ctx cluster, step component = .monitoring := by
  unfold monitoringComponents
  split
  · split <;> decide
  · decide

/-- The components of each step. -/
def stepComponents (r : Reconciler) (ctx : Schedule) (shard : APIShard) (cluster : Cluster) :
    ApplyStep → List Component
  | .storage => storageComponents shard
  | .kine => kineComponents shard
  | .collector => collected r ctx shard cluster
  | .certificates => buildCertResources shard
  | .access => [.authConfig, .secondaryServiceAccount, .authDelegator]
  | .scc => sccComponents r
  | .requestHeader => [.requestHeaderCA]
  | .kubeconfig => kubeconfigComponents ctx shard cluster
  | .secondary => secondaryComponents shard
  | .monitoring => monitoringComponents r ctx cluster

theorem step_of_stepComponents (applyStep : ApplyStep) :
    ∀ component ∈ stepComponents r ctx shard cluster applyStep, step component = applyStep := by
  cases applyStep with
  | storage => exact step_of_storage
  | kine => exact step_of_kine
  | collector => exact step_of_collected
  | certificates => exact step_of_certificates shard
  | access => simp [stepComponents, step]
  | scc => exact step_of_scc
  | requestHeader => simp [stepComponents, step]
  | kubeconfig => exact step_of_kubeconfig
  | secondary => exact step_of_secondary
  | monitoring => exact step_of_monitoring

/-- A component is applied if it is on the list of its step. -/
theorem mem_appliedComponents {component : Component} :
    component ∈ appliedComponents r ctx shard cluster ↔
      component ∈ stepComponents r ctx shard cluster (step component) := by
  have split : component ∈ appliedComponents r ctx shard cluster ↔
      ∃ applyStep, component ∈ stepComponents r ctx shard cluster applyStep := by
    simp only [appliedComponents, earlyComponents, List.mem_append]
    constructor
    · rintro (((((((((own | own) | own) | own) | own) | own) | own) | own) | own) | own)
      exacts [⟨.storage, own⟩, ⟨.kine, own⟩, ⟨.collector, own⟩, ⟨.certificates, own⟩,
        ⟨.access, own⟩, ⟨.scc, own⟩, ⟨.requestHeader, own⟩, ⟨.kubeconfig, own⟩,
        ⟨.secondary, own⟩, ⟨.monitoring, own⟩]
    · rintro ⟨applyStep, membership⟩
      cases applyStep <;> simp only [stepComponents] at membership <;> simp [membership]
  rw [split]
  constructor
  · rintro ⟨applyStep, membership⟩
    rwa [step_of_stepComponents applyStep component membership]
  · exact fun membership => ⟨_, membership⟩

theorem appliedComponents_belong (hashed : r.Hashed) :
    ∀ component ∈ appliedComponents r ctx shard cluster, component.belongs shard := by
  intro component membership
  rcases component.plain_or_hashed with plain | ⟨name, rfl⟩
  · exact Component.belongs_of_plain shard plain
  · exact collected_belong hashed _ (mem_appliedComponents.mp membership)

theorem earlyComponents_belong (hashed : r.Hashed) {cluster : Cluster} :
    ∀ component ∈ earlyComponents r ctx shard cluster, component.belongs shard := by
  intro component membership
  have applied : component ∈ appliedComponents r ctx shard cluster :=
    List.mem_append_left _ (List.mem_append_left _ (List.mem_append_left _
      (List.mem_append_left _ membership)))
  exact appliedComponents_belong hashed component applied

end belongs

/-! ## Inputs -/

/-- The StatefulSet a pass applies where this one is live. -/
def aligned (shard : APIShard) : Option Object → StatefulSet
  | some object => alignPostgreSQLVolumeClaims (buildPostgreSQLStatefulSet shard) object.statefulSet
  | none => buildPostgreSQLStatefulSet shard

/-- The data of the admin kubeconfig. -/
def connectionData (shard : APIShard) (given : Credentials) : List (String × String) :=
  [("kubeconfig", adminKubeconfig shard given.caData given.clientCert given.clientKey),
    ("tls.crt", given.clientCert), ("tls.key", given.clientKey)]

/-- What a pass takes from the cluster into the objects it applies. -/
structure Inputs where
  /-- The password of the in-cluster database. -/
  password : String
  /-- The StatefulSet of the in-cluster database, aligned with the live one. -/
  statefulSet : StatefulSet
  /-- What the metrics collector connects with, and the Secret it has its credentials from. -/
  collector : Option (OTelConnectionParams × String)
  /-- The CA of the primary's front proxy. -/
  requestHeaderCA : String
  /-- What the admin kubeconfig is made from. -/
  credentials : Option Credentials

/-- The password in the credentials Secret, or a new one. -/
def storedPassword (random : Fin 16 → Fin 256) (shard : APIShard) (cluster : Cluster) : String :=
  match cluster.objects.find? (Component.postgreSQLSecret.key shard) with
  | some secret =>
      if secret.entry "POSTGRES_PASSWORD" ≠ "" then secret.entry "POSTGRES_PASSWORD"
      else generatePassword random
  | none => generatePassword random

/-- The connection of the metrics collector, where there is one. -/
def collectorConnection (r : Reconciler) (shard : APIShard) (cluster : Cluster) :
    Option (OTelConnectionParams × String) :=
  match shard.spec.storage.type with
  | .sqlite => none
  | .inClusterPostgreSQL =>
      some ({ inClusterPostgreSQLConnectionParams shard with
          caCertSecretName := postgreSQLCASecretName shard
          caCertSecretKey := caCertKey }, postgreSQLSecretName shard)
  | .postgreSQL =>
      (externalParams r shard cluster).map fun params =>
        (params, named shard "-postgresql-metrics-credentials")

/-- The CA of the primary's front proxy. -/
def headerCA (cluster : Cluster) : String :=
  match cluster.objects.find? authenticationKey with
  | some source => source.entry "requestheader-client-ca-file"
  | none => ""

/-- The inputs of a pass over a cluster. -/
def inputs (r : Reconciler) (random : Fin 16 → Fin 256) (shard : APIShard) (cluster : Cluster) :
    Inputs where
  password := storedPassword random shard cluster
  statefulSet :=
    aligned shard (cluster.objects.find? (Component.postgreSQLStatefulSet.key shard))
  collector := collectorConnection r shard cluster
  requestHeaderCA := headerCA cluster
  credentials := credentials shard cluster

namespace Inputs

variable (inputs : Inputs) (r : Reconciler) (shard : APIShard)

/-- The data of a component. -/
def data : Component → List (String × String)
  | .postgreSQLSecret => buildPostgreSQLSecret shard inputs.password
  | .oTelCredentialSecret =>
      match inputs.collector with
      | some (params, _) =>
          [("POSTGRES_USER", params.user), ("POSTGRES_PASSWORD", params.password)]
      | none => []
  | .oTelCollectorConfigMap _ =>
      match inputs.collector with
      | some (params, _) => [("config.yaml", buildOTelCollectorConfig shard params)]
      | none => []
  | .requestHeaderCA => [("requestheader-client-ca-file", inputs.requestHeaderCA)]
  | .adminKubeconfig =>
      match inputs.credentials with
      | some given => connectionData shard given
      | none => []
  | _ => []

/-- The specification of a component. -/
def spec : Component → ObjectSpec
  | .postgreSQLStatefulSet => .statefulSet inputs.statefulSet
  | .oTelCollectorDeployment =>
      match inputs.collector with
      | some (params, secretName) =>
          .deployment (buildOTelCollectorDeployment secretName
            (r.buildConfigMapName (oTelCollectorConfigMapBaseName shard)
              (buildOTelCollectorConfig shard params)) params)
      | none => .other
  | component => component.spec shard

/-- A component as it is applied. -/
def object (component : Component) : Object where
  key := component.key shard
  owner := some shard.name
  data := inputs.data shard component
  spec := inputs.spec r shard component

end Inputs

/-- The target namespace, as it is applied. -/
def namespaceObject (shard : APIShard) : Object where
  key := ⟨.namespace, "", shard.spec.targetNamespace⟩

/-- The ClusterRole that the metrics readers of all shards share. -/
def metricsClusterRole : Object where
  key := ⟨.clusterRole, "", "kube-shard-metrics-reader"⟩

/-- The objects for metrics scraping that a pass applies. -/
def monitoringObjects (r : Reconciler) (ctx : Schedule) (shard : APIShard) (given : Inputs)
    (cluster : Cluster) : List Object :=
  if r.serviceMonitorAvailable then
    [given.object r shard .metricsReaderServiceAccount,
      given.object r shard .metricsReaderTokenSecret, metricsClusterRole,
      given.object r shard .metricsReaderClusterRoleBinding] ++
    if clear ctx cluster .kineServiceMonitor then
      (.kineServiceMonitor :: discoveryComponents).map (given.object r shard)
    else
      []
  else
    []

/-- The objects of a shard other than its namespace that a pass with these inputs applies, in
their order, when its first part returns. -/
def appliedObjects (r : Reconciler) (ctx : Schedule) (shard : APIShard) (given : Inputs)
    (cluster : Cluster) : List Object :=
  (earlyComponents r ctx shard cluster ++ [Component.requestHeaderCA] ++
      kubeconfigComponents ctx shard cluster ++ secondaryComponents shard).map
    (given.object r shard) ++ monitoringObjects r ctx shard given cluster

/-- The objects of a shard, in the order a pass applies them. -/
def desired (r : Reconciler) (random : Fin 16 → Fin 256) (shard : APIShard) (cluster : Cluster) :
    List Object :=
  namespaceObject shard :: appliedObjects r {} shard (inputs r random shard cluster) cluster

/-! ## What the lists depend on -/

section congruences

variable {r : Reconciler} {shard : APIShard} {before after : Cluster}

theorem externalParams_congr (connection : ∀ ref,
      shard.spec.storage.connectionSecretRef = some ref →
        after.objects.find? (targetKey shard .secret ref.name) =
          before.objects.find? (targetKey shard .secret ref.name)) :
    externalParams r shard after = externalParams r shard before := by
  unfold externalParams
  cases isRef : shard.spec.storage.connectionSecretRef with
  | none => rfl
  | some ref =>
      simp only [Option.bind_eq_bind, Option.bind_some]
      rw [connection ref isRef]

/-- What the collector needs depends on the connection Secret alone. -/
theorem collected_congr (r : Reconciler) (ctx : Schedule)
    (unserved : after.unserved = before.unserved)
    (connection : shard.spec.storage.type = .postgreSQL →
      ∀ ref, shard.spec.storage.connectionSecretRef = some ref →
        after.objects.find? (targetKey shard .secret ref.name) =
          before.objects.find? (targetKey shard .secret ref.name)) :
    collected r ctx shard after = collected r ctx shard before := by
  have chain : collectorChain r shard after = collectorChain r shard before := by
    cases type : shard.spec.storage.type with
    | postgreSQL => simp only [collectorChain, type, externalParams_congr (connection type)]
    | _ => simp only [collectorChain, type]
  rw [collected, collected, chain, clear_congr ctx unserved]

/-- So does its connection. -/
theorem collectorConnection_congr
    (connection : shard.spec.storage.type = .postgreSQL →
      ∀ ref, shard.spec.storage.connectionSecretRef = some ref →
        after.objects.find? (targetKey shard .secret ref.name) =
          before.objects.find? (targetKey shard .secret ref.name)) :
    collectorConnection r shard after = collectorConnection r shard before := by
  cases type : shard.spec.storage.type with
  | postgreSQL => simp only [collectorConnection, type, externalParams_congr (connection type)]
  | _ => simp only [collectorConnection, type]

/-- The keys of applied components. -/
theorem map_key_object (given : Inputs) (components : List Component) :
    (components.map (given.object r shard)).map Object.key =
      components.map (Component.key shard) := by
  rw [List.map_map]
  rfl

theorem kind_of_kineComponents {key : ObjectKey}
    (membership : key ∈ (kineComponents shard).map (Component.key shard)) : key.kind ≠ .secret := by
  have kinds : ∀ component ∈ kineComponents shard, component.kind ≠ .secret := by
    unfold kineComponents
    split <;> decide
  obtain ⟨component, inKine, rfl⟩ := List.mem_map.mp membership
  exact kinds component inKine

end congruences

/-! ## Schedules without failures -/

/-- No call of the pass is made to fail. -/
def Schedule.Clean (ctx : Schedule) : Prop := ∀ request, ctx.faults request = none

/-- Where no call fails, the objects are those of the empty schedule. -/
theorem Schedule.Clean.appliedObjects {ctx : Schedule} (clean : ctx.Clean) (r : Reconciler)
    (shard : APIShard) (given : Inputs) (cluster : Cluster) :
    appliedObjects r ctx shard given cluster =
      Apishard.appliedObjects r {} shard given cluster := by
  have isClear : clear ctx cluster = clear {} cluster := by
    funext component
    rw [clear, clear, clean]
  have isUnread : metricsUnread ctx shard = metricsUnread {} shard := by
    rw [metricsUnread, metricsUnread, clean]
  have isCredentials : credentialsUnread ctx = credentialsUnread {} := by
    rw [credentialsUnread, credentialsUnread, clean, clean]
  rw [Apishard.appliedObjects, Apishard.appliedObjects, earlyComponents, earlyComponents,
    collected, collected, kubeconfigComponents, kubeconfigComponents, monitoringObjects,
    monitoringObjects, isClear, isUnread, isCredentials]

end KubeShard.Apishard
