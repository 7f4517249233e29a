import KubeShard.Apishard.Volumes
import KubeShard.Resources.References

/-!
# What a pass has applied, and how

When a pass has applied its objects, every object it has tracked is stored with the
specification its component is built with.  The collector comes after its ConfigMap
and its credentials.  The StatefulSet of the database keeps the volume with its
certificate, unless a claim template of the live one has taken its place.
-/

namespace KubeShard.Apishard

open Resources Prog

/-! ## Prescriptions -/

/-- The Secrets that are supplied by the user. -/
def userSecrets (shard : APIShard) : List String :=
  (shard.spec.storage.connectionSecretRef.map SecretKeyReference.name).toList ++
    ((shard.spec.storage.monitoring.bind StorageMonitoringSpec.caCertSecret).map
      SecretKeyReference.name).toList

/-- The metrics collector is built after its ConfigMap and its credentials. -/
def Collects (shard : APIShard) (tracked : List ObjectKey) (spec : ObjectSpec) : Prop :=
  ∃ credentialSecretName configMapName params,
    spec = .deployment
      (buildOTelCollectorDeployment credentialSecretName configMapName params) ∧
    targetKey shard .configMap configMapName ∈ tracked ∧
    targetKey shard .secret credentialSecretName ∈ tracked ∧
    (shard.spec.storage.type = .inClusterPostgreSQL ∧
        params.caCertSecretName = postgreSQLCASecretName shard ∨
      params.caCertSecretName ∈ userSecrets shard)

/-- The specification a component is applied with. -/
def Prescribed (shard : APIShard) (tracked : List ObjectKey) : Component → ObjectSpec → Prop
  | .postgreSQLStatefulSet, spec => ∃ live, spec = .statefulSet (aligned shard live)
  | .oTelCollectorDeployment, spec => Collects shard tracked spec
  | component, spec => spec = component.spec shard

/-- The shard alone decides the specification of the component. -/
def fixed : Component → Bool
  | .postgreSQLStatefulSet | .oTelCollectorDeployment => false
  | _ => true

theorem mem_userSecrets_of_externalParams {r : Reconciler} {shard : APIShard} {cluster : Cluster}
    {params : OTelConnectionParams} (isParams : externalParams r shard cluster = some params) :
    params.caCertSecretName ∈ userSecrets shard := by
  simp only [externalParams, Option.bind_eq_bind, Option.bind_eq_some_iff] at isParams
  obtain ⟨_, _, _, _, _, _, caCert, ⟨monitoring, isMonitoring, isCert⟩, isParams⟩ := isParams
  cases isParams
  simp [userSecrets, isMonitoring, isCert]

/-- No claim template of the live StatefulSet takes the place of the volume with the
certificate of the database. -/
def CertificateShown (shard : APIShard) (cluster : Cluster) : Prop :=
  ∀ object, cluster.objects.find? (Component.postgreSQLStatefulSet.key shard) = some object →
    ShowsCertificate object.statefulSet

/-- Every tracked object is stored as it is prescribed.  `shown` says that the
certificate of the database was shown when the pass began. -/
structure Laid (shard : APIShard) (shown : Prop) (state : State) : Prop where
  built : ∀ key ∈ state.tracked, key.kind.shared = false →
    ∃ object component, state.cluster.objects.find? key = some object ∧
      key = component.key shard ∧ Prescribed shard state.tracked component object.spec
  shown : shown → CertificateShown shard state.cluster

/-! ## What a pass has applied -/

section objects

variable {r : Reconciler} {ctx : Schedule} {shard : APIShard} {cluster : Cluster} {given : Inputs}

/-- Alignment keeps the claim templates of the live StatefulSet. -/
theorem showsCertificate_aligned {live : Option Object}
    (certified : ∀ object, live = some object → ShowsCertificate object.statefulSet) :
    ShowsCertificate (aligned shard live) := by
  cases live with
  | none => exact showsCertificate_build shard
  | some object => exact certified object rfl

/-- Where a component of a chain is applied, so are the ones before it. -/
theorem mem_takeWhile_of_earlier {α : Type} {clear : α → Bool} {early late : List α} {last : α}
    (membership : last ∈ (early ++ late).takeWhile clear) (later : last ∉ early) :
    early ⊆ (early ++ late).takeWhile clear := by
  by_cases all : ∀ element ∈ early, clear element = true
  · rw [List.takeWhile_append_of_pos all]
    exact List.subset_append_left _ _
  · rw [Chained.takeWhile_append_of_neg late all] at membership
    exact absurd ((List.takeWhile_prefix clear).subset membership) later

theorem key_mem_of_step (component : Component) {applyStep : ApplyStep}
    (isStep : step component = applyStep)
    (membership : component ∈ stepComponents r ctx shard cluster applyStep) :
    component.key shard ∈ (appliedComponents r ctx shard cluster).map (Component.key shard) :=
  List.mem_map_of_mem (mem_appliedComponents.mpr (isStep ▸ membership))

/-- The collector comes after its ConfigMap and its credentials. -/
theorem collects_of_collected (isCollector : given.collector = collectorConnection r shard cluster)
    (membership : .oTelCollectorDeployment ∈ collected r ctx shard cluster) :
    Collects shard ((appliedComponents r ctx shard cluster).map (Component.key shard))
      (given.spec r shard .oTelCollectorDeployment) := by
  have applied (early : List Component) {late : List Component}
      (isChain : collectorChain r shard cluster = early ++ late)
      (later : .oTelCollectorDeployment ∉ early) :
      early ⊆ stepComponents r ctx shard cluster .collector := by
    simp only [stepComponents, collected] at membership ⊢
    split at membership
    · cases membership
    · next readable =>
        rw [if_neg readable]
        rw [isChain] at membership ⊢
        exact mem_takeWhile_of_earlier membership later
  have inChain : .oTelCollectorDeployment ∈ collectorChain r shard cluster := by
    unfold collected at membership
    split at membership
    · cases membership
    · exact (List.takeWhile_prefix _).subset membership
  by_cases enabled : storageMonitoringEnabled shard = true
  · cases type : shard.spec.storage.type with
    | sqlite => simp [collectorChain, enabled, type] at inChain
    | inClusterPostgreSQL =>
        simp only [collectorConnection, type] at isCollector
        have configMap := applied [.oTelCollectorConfigMap _]
          (by simp only [collectorChain, enabled, type, if_true]; rfl) (by simp)
        rw [Inputs.spec, isCollector]
        refine ⟨_, _, _, rfl, ?_, ?_, .inl ⟨type, rfl⟩⟩
        · exact key_mem_of_step _ rfl (configMap List.mem_cons_self)
        · have isStep : step .postgreSQLSecret = .storage := rfl
          apply key_mem_of_step .postgreSQLSecret isStep
          simp [stepComponents, storageComponents, type]
    | postgreSQL =>
        cases isParams : externalParams r shard cluster with
        | none => simp [collectorChain, enabled, type, isParams] at inChain
        | some params =>
            simp only [collectorConnection, type, isParams, Option.map_some] at isCollector
            have early := applied [.oTelCredentialSecret, .oTelCollectorConfigMap _]
              (by simp only [collectorChain, enabled, type, isParams, if_true]; rfl) (by simp)
            rw [Inputs.spec, isCollector]
            refine ⟨_, _, _, rfl, ?_, ?_, .inr (mem_userSecrets_of_externalParams isParams)⟩
            · exact key_mem_of_step _ rfl (early (List.mem_cons_of_mem _ List.mem_cons_self))
            · exact key_mem_of_step .oTelCredentialSecret rfl (early List.mem_cons_self)
  · simp [collectorChain, enabled] at inChain

/-- What a pass applies is prescribed. -/
theorem Inputs.ReadFrom.prescribed (read : given.ReadFrom r ctx shard cluster)
    {component : Component} (membership : component ∈ appliedComponents r ctx shard cluster) :
    Prescribed shard ((appliedComponents r ctx shard cluster).map (Component.key shard)) component
      (given.spec r shard component) := by
  cases component with
  | postgreSQLStatefulSet =>
      obtain ⟨live, isSet, _⟩ := read.aligned
      exact ⟨live, congrArg _ isSet⟩
  | oTelCollectorDeployment =>
      exact collects_of_collected read.collector (mem_appliedComponents.mp membership)
  | _ => rfl

/-- All objects of a pass are stored as they are prescribed. -/
theorem reconcileObjects_laid {state after : State} (fresh : state.tracked = [])
    (ran : exec (reconcileObjects r ctx shard) state = (.ok (), after)) :
    Laid shard (CertificateShown shard state.cluster) after := by
  obtain ⟨given, read, lays, _⟩ := reconcileObjects_lays ran
  have isTracked := lays.tracked
  rw [fresh, List.nil_append, owned_appliedObjects, map_key_object] at isTracked
  -- under the key of a component stands what was applied last
  have stands {key : ObjectKey} (unshared : key.kind.shared = false)
      (membership : key ∈ (appliedObjects r ctx shard given state.cluster).map Object.key) :
      ∃ live, after.cluster.objects.find? key = some live ∧
        ∃ component ∈ appliedComponents r ctx shard state.cluster,
          key = component.key shard ∧ live.spec = given.spec r shard component := by
    obtain ⟨object, inObjects, rfl, live, found, isSpec⟩ := lays.stored membership
    rcases mem_appliedObjects inObjects with rfl | ⟨component, inComponents, rfl⟩
    · cases unshared
    · exact ⟨live, found, component, inComponents, rfl, isSpec⟩
  refine ⟨?_, ?_⟩
  · intro key membership unshared
    rw [isTracked] at membership ⊢
    rw [← map_key_object given, ← owned_appliedObjects] at membership
    obtain ⟨object, inOwned, isKey⟩ := List.mem_map.mp membership
    obtain ⟨live, found, component, inComponents, rfl, isSpec⟩ := stands unshared
      (isKey ▸ List.mem_map_of_mem (List.mem_filter.mp inOwned).1)
    exact ⟨live, component, found, rfl, isSpec ▸ read.prescribed inComponents⟩
  · intro isShown live found
    by_cases applied : Component.postgreSQLStatefulSet.key shard ∈
        (appliedObjects r ctx shard given state.cluster).map Object.key
    · obtain ⟨stored, isStored, component, _, isKey, isSpec⟩ := stands rfl applied
      cases found.symm.trans isStored
      have isStatefulSet : component = .postgreSQLStatefulSet := by
        have kind := congrArg ObjectKey.kind isKey
        cases component <;> first | rfl | cases kind
      subst isStatefulSet
      obtain ⟨before, isSet, isBefore⟩ := read.aligned
      rw [Object.statefulSet, isSpec, Inputs.spec, isSet]
      apply showsCertificate_aligned
      rintro object rfl
      exact isShown object (isBefore.resolve_left (Option.some_ne_none object)).symm
    · rw [lays.read applied] at found
      exact isShown live found

end objects

end KubeShard.Apishard
