import KubeShard.Api.Condition
import KubeShard.Namespacesync.Model
import KubeShard.Webhooksync.Model

/-!
# APIShards and the cluster they live in

The API types of `operator/api/v1alpha1` that the APIShard reconciler reads and
writes, and the part of the primary cluster it works on.  Of the objects a pass
applies what some pass reads back is kept, and what ties them together: their
identity, the owner label, the data of Secrets and ConfigMaps, what workloads,
ServiceMonitors and cert-manager resources refer to, and replica counts.
-/

namespace KubeShard.Apishard

/-! ## Specification -/

/-- `StorageType`. -/
inductive StorageType where
  | sqlite
  | inClusterPostgreSQL
  | postgreSQL
  deriving DecidableEq, Repr

/-- `APIGroupSpec`. -/
structure APIGroupSpec where
  group : String
  versions : List String
  deriving DecidableEq, Repr

/-- `SecretKeyReference`. -/
structure SecretKeyReference where
  name : String
  key : String
  deriving DecidableEq, Repr

/-- `resource.Quantity`: the value it compares by and its canonical text. -/
structure Quantity where
  value : Nat
  text : String
  deriving DecidableEq, Repr

/-- `PersistenceSpec`. -/
structure PersistenceSpec where
  storageClassName : Option String
  size : Quantity
  deriving DecidableEq, Repr

/-- `StorageMonitoringSpec`, with `postgresql.bloatInterval` flattened. -/
structure StorageMonitoringSpec where
  enabled : Bool
  collectionInterval : String := ""
  caCertSecret : Option SecretKeyReference := none
  bloatInterval : String := ""
  deriving DecidableEq, Repr

/-- `StorageSpec`, with `inCluster.persistence` flattened. -/
structure StorageSpec where
  type : StorageType
  connectionSecretRef : Option SecretKeyReference := none
  persistence : Option PersistenceSpec := none
  monitoring : Option StorageMonitoringSpec := none
  deriving DecidableEq, Repr

/-- `APIShardSpec`. -/
structure APIShardSpec where
  targetNamespace : String
  apiGroups : List APIGroupSpec
  storage : StorageSpec
  labelSelector : Namespacesync.LabelSelector := ⟨[], []⟩
  secondaryReplicas : Int := 1
  kineReplicas : Int := 1
  colocateComponents : Option Bool := none
  deriving DecidableEq, Repr

/-! ## Status -/

/-- The phases of an APIShard; `empty` is the phase of a status never written. -/
inductive Phase where
  | empty
  | provisioning
  | ready
  | degraded
  | error
  | waiting
  deriving DecidableEq, Repr

/-- The condition types of an APIShard. -/
inductive ShardCondition where
  | secondaryHealthy
  | crdsInstalled
  | apiServicesRegistered
  | crdConflict
  | namespaceSyncReady
  | webhookSyncReady
  | storageReady
  | reconciled
  | monitoringDegraded
  deriving DecidableEq, Repr

/-- `ConnectionSecretReference`. -/
structure ConnectionSecretReference where
  name : String
  namespace_ : String
  deriving DecidableEq, Repr

/-- `APIShardStatus`. -/
structure APIShardStatus where
  phase : Phase := .empty
  message : String := ""
  connectionSecret : Option ConnectionSecretReference := none
  secondaryEndpoint : String := ""
  registeredAPIServices : List String := []
  conditions : List (Condition ShardCondition) := []
  observedGeneration : Nat := 0
  deriving DecidableEq, Repr

/-- A UID, given out by the API server and never twice. -/
abbrev UID := Nat

/-- An `APIShard` object. -/
structure APIShard where
  name : String
  uid : UID
  generation : Nat
  resourceVersion : Nat
  finalizers : List String := []
  deleting : Bool := false
  spec : APIShardSpec
  status : APIShardStatus := {}
  deriving DecidableEq, Repr

/-! ## Objects of the cluster -/

/-- The kinds of object a pass applies or reads. -/
inductive ObjectKind where
  | deployment
  | statefulSet
  | service
  | secret
  | configMap
  | serviceAccount
  | clusterRole
  | clusterRoleBinding
  | role
  | roleBinding
  | issuer
  | certificate
  | podDisruptionBudget
  | serviceMonitor
  | securityContextConstraints
  | namespace
  deriving DecidableEq, Repr

/-- The kind and the API group of an object, as the errors of cached reads name them. -/
def ObjectKind.resource : ObjectKind → String
  | .deployment => "Deployment.apps"
  | .statefulSet => "StatefulSet.apps"
  | .service => "Service"
  | .secret => "Secret"
  | .configMap => "ConfigMap"
  | .serviceAccount => "ServiceAccount"
  | .clusterRole => "ClusterRole.rbac.authorization.k8s.io"
  | .clusterRoleBinding => "ClusterRoleBinding.rbac.authorization.k8s.io"
  | .role => "Role.rbac.authorization.k8s.io"
  | .roleBinding => "RoleBinding.rbac.authorization.k8s.io"
  | .issuer => "Issuer.cert-manager.io"
  | .certificate => "Certificate.cert-manager.io"
  | .podDisruptionBudget => "PodDisruptionBudget.policy"
  | .serviceMonitor => "ServiceMonitor.monitoring.coreos.com"
  | .securityContextConstraints => "SecurityContextConstraints.security.openshift.io"
  | .namespace => "Namespace"

/-- The identity of an object; cluster-scoped objects have the empty namespace. -/
structure ObjectKey where
  kind : ObjectKind
  namespace_ : String
  name : String
  deriving DecidableEq, Repr

/-- A `PersistentVolumeClaim` template. -/
structure VolumeClaimTemplate where
  name : String
  storageClassName : Option String
  size : Quantity
  deriving DecidableEq, Repr

/-- An item of a Secret volume. -/
structure KeyToPath where
  key : String
  path : String
  deriving DecidableEq, Repr

/-- Where a pod volume comes from; a Secret without items shows all its keys. -/
inductive VolumeSource where
  | emptyDir
  | secret (secretName : String) (items : List KeyToPath)
  | configMap (name : String)
  deriving DecidableEq, Repr

/-- A volume of a pod. -/
structure Volume where
  name : String
  source : VolumeSource
  deriving DecidableEq, Repr

/-- A volume mount of a container. -/
structure VolumeMount where
  name : String
  mountPath : String
  deriving DecidableEq, Repr

/-- An environment variable that is read from a Secret. -/
structure EnvVar where
  name : String
  secretKeyRef : SecretKeyReference
  deriving DecidableEq, Repr

/-- A pod template with one container; `envFrom` are the Secrets all of whose keys
become variables. -/
structure PodTemplate where
  serviceAccountName : Option String := none
  args : List String := []
  envFrom : List String := []
  env : List EnvVar := []
  volumes : List Volume := []
  volumeMounts : List VolumeMount := []
  deriving DecidableEq, Repr

/-- The specification of a StatefulSet. -/
structure StatefulSet where
  template : PodTemplate := {}
  volumeClaimTemplates : List VolumeClaimTemplate := []
  deriving DecidableEq, Repr

/-- The TLS configuration of a ServiceMonitor's endpoint. -/
structure TLSConfig where
  ca : SecretKeyReference
  serverName : String
  deriving DecidableEq, Repr

/-- The endpoint of a ServiceMonitor. -/
structure Endpoint where
  tlsConfig : Option TLSConfig := none
  authorization : Option SecretKeyReference := none
  deriving DecidableEq, Repr

/-- The specification of an `Issuer`. -/
inductive IssuerSpec where
  | selfSigned
  | ca (secretName : String)
  deriving DecidableEq, Repr

/-- The specification of a `Certificate`. -/
structure CertificateSpec where
  secretName : String
  isCA : Bool := false
  dnsNames : List String := []
  issuerRef : String
  deriving DecidableEq, Repr

/-- The specification of an object, for the kinds that refer to others. -/
inductive ObjectSpec where
  | other
  | deployment (template : PodTemplate)
  | statefulSet (spec : StatefulSet)
  | serviceMonitor (endpoint : Endpoint)
  | issuer (spec : IssuerSpec)
  | certificate (spec : CertificateSpec)
  deriving DecidableEq, Repr

/-- An object of the cluster.  `owner` is the value of the owner label, and `others` is what
field managers other than the operator's have set: entries of the data by their key, fields of
the spec by their path. -/
structure Object where
  key : ObjectKey
  owner : Option String := none
  data : List (String × String) := []
  spec : ObjectSpec := .other
  replicas : Int := 0
  readyReplicas : Int := 0
  others : List (String × String) := []
  deriving DecidableEq, Repr

/-- The object read as a StatefulSet. -/
def Object.statefulSet (object : Object) : StatefulSet :=
  match object.spec with
  | .statefulSet spec => spec
  | _ => {}

/-- The entry of a Secret or ConfigMap, if it is there.  What the operator sends replaces what
others have set. -/
def Object.lookup (object : Object) (field : String) : Option String :=
  (object.data ++ object.others).lookup field

/-- The entry of a Secret or ConfigMap, empty when it is missing. -/
def Object.entry (object : Object) (field : String) : String :=
  (object.lookup field).getD ""

/-- An `APIService`.  `controller` is its controller owner reference, `foreign` says that
a field manager other than the operator's has set this reference, `former` are the
controllers it was taken over from, and `available` is its Available condition with the
message. -/
structure APIService where
  name : String
  group : String
  version : String
  serviceName : String
  serviceNamespace : String
  caBundle : String
  insecureSkipTLSVerify : Bool
  automanaged : Option String
  controller : Option UID
  foreign : Bool := false
  former : List UID := []
  available : Option (ConditionStatus × String)
  deriving DecidableEq, Repr

/-- The controllers an APIService has had. -/
def APIService.controllers (service : APIService) : List UID :=
  service.controller.toList ++ service.former

theorem APIService.mem_controllers {service : APIService} {uid : UID}
    (controller : service.controller = some uid) : uid ∈ service.controllers :=
  List.mem_append_left _ (Option.mem_toList.mpr controller)

/-- `ConversionStrategyType`. -/
inductive ConversionStrategy where
  | none
  | webhook
  deriving DecidableEq, Repr

/-- `WebhookConversion`. -/
structure WebhookConversion where
  clientConfig : Option Webhooksync.WebhookClientConfig
  conversionReviewVersions : List String := []
  deriving DecidableEq, Repr

/-- `CustomResourceConversion`. -/
structure Conversion where
  strategy : ConversionStrategy
  webhook : Option WebhookConversion
  deriving DecidableEq, Repr

/-- A `CustomResourceDefinition`; `rest` stands for the fields of its spec that are
passed on unchanged. -/
structure CRD where
  name : String
  uid : UID
  labels : List (String × String) := []
  annotations : List (String × String) := []
  group : String
  conversion : Option Conversion
  rest : String
  deriving DecidableEq, Repr

/-- A `CustomResourceDefinition` as it is sent to a secondary. -/
structure SecondaryCRD where
  name : String
  labels : List (String × String)
  annotations : List (String × String)
  group : String
  conversion : Option Conversion
  rest : String
  deriving DecidableEq, Repr

/-- What a sync object says about the connection to the secondary. -/
structure SecondaryConnection where
  serviceName : String
  serviceNamespace : String
  servicePort : Int
  authSecret : String
  caSecret : String
  deriving DecidableEq, Repr

/-- A `NamespaceSync` or `WebhookSync` as the APIShard reconciler sees it; `σ` is
what the kind has beside the connection. -/
structure SyncObject (σ : Type) where
  namespace_ : String
  name : String
  generation : Nat
  resourceVersion : Nat := 0
  /-- The owner label. -/
  owner : Option String := none
  connection : SecondaryConnection
  spec : σ
  conditions : List (Condition SyncCondition) := []
  lastSyncTime : Option Nat := none
  deriving DecidableEq, Repr

/-- The identity of a sync object. -/
def SyncObject.key {σ : Type} (object : SyncObject σ) : String × String :=
  (object.namespace_, object.name)

/-- The kinds of sync object. -/
inductive SyncKind where
  | namespaceSync
  | webhookSync
  deriving DecidableEq, Repr

/-- What a sync object of a kind has beside its connection: selector and exclusions, or
the API groups. -/
@[reducible] def SyncKind.Spec : SyncKind → Type
  | .namespaceSync => Namespacesync.NamespaceSyncSpec
  | .webhookSync => List String

instance : ∀ kind : SyncKind, DecidableEq kind.Spec
  | .namespaceSync => inferInstanceAs (DecidableEq Namespacesync.NamespaceSyncSpec)
  | .webhookSync => inferInstanceAs (DecidableEq (List String))

instance : ∀ kind : SyncKind, Repr kind.Spec
  | .namespaceSync => inferInstanceAs (Repr Namespacesync.NamespaceSyncSpec)
  | .webhookSync => inferInstanceAs (Repr (List String))

/-- The stored APIShards, and the UID and resource version the API server gives
out next. -/
structure Registry where
  shards : Store APIShard.name
  nextUID : UID
  nextRevision : Nat

/-- The primary cluster, and per shard the CRDs on its secondary. -/
structure Cluster where
  registry : Registry
  apiServices : Store APIService.name
  objects : Store Object.key
  crds : Store CRD.name
  secondaryCRDs : UID → Store SecondaryCRD.name
  namespaceSyncs : Store (SyncObject.key (σ := Namespacesync.NamespaceSyncSpec))
  webhookSyncs : Store (SyncObject.key (σ := List String))
  /-- The cluster serves `monitoring.coreos.com/v1` ServiceMonitors. -/
  servesServiceMonitor : Bool
  /-- The cluster serves `security.openshift.io/v1`. -/
  servesSCC : Bool
  /-- Services may set `trafficDistribution`. -/
  servesTrafficDistribution : Bool
  clock : Nat

/-- The sync objects of a kind. -/
def Cluster.syncs (cluster : Cluster) : (kind : SyncKind) → Store (SyncObject.key (σ := kind.Spec))
  | .namespaceSync => cluster.namespaceSyncs
  | .webhookSync => cluster.webhookSyncs

/-- Replace the sync objects of a kind. -/
def Cluster.setSyncs (cluster : Cluster) :
    (kind : SyncKind) → Store (SyncObject.key (σ := kind.Spec)) → Cluster
  | .namespaceSync, syncs => { cluster with namespaceSyncs := syncs }
  | .webhookSync, syncs => { cluster with webhookSyncs := syncs }

namespace Cluster

variable (cluster : Cluster) (kind : SyncKind) (syncs : Store (SyncObject.key (σ := kind.Spec)))

@[simp] theorem setSyncs_registry : (cluster.setSyncs kind syncs).registry = cluster.registry := by
  cases kind <;> rfl

@[simp] theorem setSyncs_apiServices :
    (cluster.setSyncs kind syncs).apiServices = cluster.apiServices := by
  cases kind <;> rfl

@[simp] theorem setSyncs_crds : (cluster.setSyncs kind syncs).crds = cluster.crds := by
  cases kind <;> rfl

@[simp] theorem setSyncs_objects : (cluster.setSyncs kind syncs).objects = cluster.objects := by
  cases kind <;> rfl

@[simp] theorem setSyncs_syncs_self : (cluster.setSyncs kind syncs).syncs kind = syncs := by
  cases kind <;> rfl

theorem setSyncs_syncs_of_ne {other : SyncKind} (different : other ≠ kind) :
    (cluster.setSyncs kind syncs).syncs other = cluster.syncs other := by
  cases kind <;> cases other <;> first | rfl | contradiction

end Cluster

end KubeShard.Apishard
