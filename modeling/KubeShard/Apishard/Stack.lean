import KubeShard.Apishard.Layout
import KubeShard.Secondary.Client

/-!
# The applied objects fit together

Names of Secrets, ConfigMaps, hosts and files are spelled in many places.  When a pass
has applied its objects, everything their pod templates and ServiceMonitors refer to
is there, and every host that is dialled with TLS is on the certificate the server
shows, which the client checks against the authority that signed it.
-/

namespace KubeShard.Apishard

open Resources Prog Certs

/-! ## Closed references -/

/-- The object was applied in this pass and has this specification. -/
def Holds (state : State) (key : ObjectKey) (spec : ObjectSpec) : Prop :=
  key ∈ state.tracked ∧
    ∃ object, state.cluster.objects.find? key = some object ∧ object.spec = spec

/-- What an object of the namespace refers to is applied in the pass, or written by
cert-manager for a Certificate that is, or supplied by the user. -/
def Supplied (shard : APIShard) (state : State) (namespace_ : String) (reference : Reference) :
    Prop :=
  ⟨reference.kind, namespace_, reference.name⟩ ∈ state.tracked ∨
    reference.kind = .secret ∧
      ((∃ certificate spec, Holds state ⟨.certificate, namespace_, certificate⟩
        (.certificate spec) ∧
          spec.secretName = reference.name) ∨
        reference.name ∈ userSecrets shard)

namespace Laid

variable {shard : APIShard} {shown : Prop} {state : State}

/-- A tracked component is stored as it is prescribed. -/
theorem holds (laid : Laid shard shown state) (component : Component)
    (plain : component.plain = true) (kind : component.kind ≠ .configMap)
    (unshared : component.kind.shared = false) (tracked : component.key shard ∈ state.tracked) :
    ∃ spec, Holds state (component.key shard) spec ∧
      Prescribed shard state.tracked component spec := by
  obtain ⟨object, owner, found, same, prescribed⟩ := laid.built _ tracked unshared
  have isOwner : owner = component := by
    rcases owner.plain_or_hashed with ownerPlain | ⟨name, rfl⟩
    · exact (Component.eq_of_key_eq plain ownerPlain same).symm
    · exact absurd (congrArg ObjectKey.kind same) kind
  subst isOwner
  exact ⟨object.spec, ⟨tracked, object, found, rfl⟩, prescribed⟩

/-- A tracked component that the shard alone decides about. -/
theorem holds_fixed (laid : Laid shard shown state) (component : Component)
    (plain : component.plain = true) (kind : component.kind ≠ .configMap)
    (unshared : component.kind.shared = false) (isFixed : fixed component = true)
    (tracked : component.key shard ∈ state.tracked) :
    Holds state (component.key shard) (component.spec shard) := by
  obtain ⟨spec, holds, prescribed⟩ := laid.holds component plain kind unshared tracked
  have isSpec : spec = component.spec shard := by
    cases component <;> first | exact prescribed | cases isFixed
  exact isSpec ▸ holds

end Laid

/-- The pass has applied what its workloads and ServiceMonitors rely on. -/
structure Complete (shard : APIShard) (tracked : List ObjectKey) : Prop where
  certificates : ∀ component ∈ buildCertResources shard, component.key shard ∈ tracked
  database : shard.spec.storage.type = .inClusterPostgreSQL →
    Component.postgreSQLSecret.key shard ∈ tracked ∧
      Component.postgreSQLInitConfigMap.key shard ∈ tracked
  secondary : Component.secondaryDeployment.key shard ∈ tracked →
    Component.authConfig.key shard ∈ tracked ∧
      Component.secondaryServiceAccount.key shard ∈ tracked ∧
      Component.requestHeaderCA.key shard ∈ tracked
  monitoring : Component.secondaryServiceMonitor.key shard ∈ tracked →
    Component.metricsReaderTokenSecret.key shard ∈ tracked

section closed

variable {shard : APIShard} {shown : Prop} {state : State}

/-- The Certificates beside those of the database. -/
theorem mem_buildCertResources {component : Component}
    (membership : component ∈ [Component.selfSignedIssuer, .caCertificate, .caIssuer,
      .servingCertificate, .adminClientCertificate, .kineSelfSignedIssuer, .kineCACertificate,
      .kineCAIssuer, .kineServingCertificate, .etcdClientCertificate]) :
    component ∈ buildCertResources shard :=
  List.mem_append_left _ membership

/-- The Certificates of the database. -/
theorem mem_buildCertResources_inCluster
    (inCluster : shard.spec.storage.type = .inClusterPostgreSQL) {component : Component}
    (membership : component ∈ [Component.postgreSQLSelfSignedIssuer, .postgreSQLCACertificate,
      .postgreSQLCAIssuer, .postgreSQLServingCertificate]) :
    component ∈ buildCertResources shard := by
  unfold buildCertResources
  rw [if_pos inCluster]
  exact List.mem_append_right _ membership

/-- The cert-manager resources are stored as they are built. -/
theorem Complete.held (complete : Complete shard state.tracked) (laid : Laid shard shown state)
    (component : Component) (membership : component ∈ buildCertResources shard) :
    Holds state (component.key shard) (component.spec shard) := by
  have known : ∀ component ∈ buildCertResources shard, component.plain = true ∧
      component.kind ≠ .configMap ∧ component.kind.shared = false ∧ fixed component = true := by
    unfold buildCertResources
    split <;> decide
  obtain ⟨plain, kind, unshared, isFixed⟩ := known component membership
  exact laid.holds_fixed component plain kind unshared isFixed
    (complete.certificates component membership)

/-- The Secret of a Certificate that the pass has applied. -/
theorem supplied_of_certificate {certificate : String} {spec : CertificateSpec}
    (holds : Holds state ⟨.certificate, shard.spec.targetNamespace, certificate⟩
      (.certificate spec)) :
    Supplied shard state shard.spec.targetNamespace ⟨.secret, spec.secretName⟩ :=
  .inr ⟨rfl, .inl ⟨certificate, spec, holds, rfl⟩⟩

theorem supplied_kine (laid : Laid shard shown state) (complete : Complete shard state.tracked) :
    ∀ reference ∈ (buildKineDeployment shard).references,
      Supplied shard state shard.spec.targetNamespace reference := by
  have serving : Supplied shard state shard.spec.targetNamespace
      ⟨.secret, named shard "-kine-serving-cert"⟩ :=
    supplied_of_certificate (complete.held laid .kineServingCertificate
      (mem_buildCertResources (by decide)))
  cases type : shard.spec.storage.type with
  | sqlite =>
      simp only [PodTemplate.references, buildKineDeployment, kineStorageVolumes, type]
      simpa [VolumeSource.references] using serving
  | inClusterPostgreSQL =>
      have authority : Supplied shard state shard.spec.targetNamespace
          ⟨.secret, named shard "-postgresql-ca-keypair"⟩ :=
        supplied_of_certificate (complete.held laid .postgreSQLCACertificate
          (mem_buildCertResources_inCluster type (by decide)))
      have credentials : Supplied shard state shard.spec.targetNamespace
          ⟨.secret, postgreSQLSecretName shard⟩ := .inl (complete.database type).1
      simp only [PodTemplate.references, buildKineDeployment, kineStorageVolumes, type]
      simpa [VolumeSource.references] using ⟨credentials, serving, authority⟩
  | postgreSQL =>
      simp only [PodTemplate.references, buildKineDeployment, kineStorageVolumes, type]
      cases isRef : shard.spec.storage.connectionSecretRef with
      | none => simpa [VolumeSource.references] using serving
      | some ref =>
          have connection : Supplied shard state shard.spec.targetNamespace
              ⟨.secret, ref.name⟩ := by
            refine .inr ⟨rfl, .inr ?_⟩
            simp [userSecrets, isRef]
          simpa [VolumeSource.references] using ⟨connection, serving⟩

theorem supplied_secondary (laid : Laid shard shown state)
    (complete : Complete shard state.tracked)
    (tracked : Component.secondaryDeployment.key shard ∈ state.tracked) :
    ∀ reference ∈ (buildSecondaryDeployment shard).references,
      Supplied shard state shard.spec.targetNamespace reference := by
  obtain ⟨config, account, header⟩ := complete.secondary tracked
  have isConfig : Supplied shard state shard.spec.targetNamespace
      ⟨.configMap, named shard "-authz-config"⟩ := .inl config
  have isAccount : Supplied shard state shard.spec.targetNamespace
      ⟨.serviceAccount, secondaryServiceAccountName shard⟩ := .inl account
  have isHeader : Supplied shard state shard.spec.targetNamespace
      ⟨.configMap, named shard "-requestheader-ca"⟩ := .inl header
  have pki : Supplied shard state shard.spec.targetNamespace ⟨.secret, named shard "-pki"⟩ :=
    supplied_of_certificate (complete.held laid .servingCertificate
      (mem_buildCertResources (by decide)))
  have client : Supplied shard state shard.spec.targetNamespace
      ⟨.secret, named shard "-etcd-client-cert"⟩ :=
    supplied_of_certificate (complete.held laid .etcdClientCertificate
      (mem_buildCertResources (by decide)))
  simpa [PodTemplate.references, buildSecondaryDeployment, VolumeSource.references] using
    ⟨isAccount, pki, isConfig, isHeader, client⟩

theorem supplied_postgreSQL (laid : Laid shard shown state)
    (complete : Complete shard state.tracked)
    (inCluster : shard.spec.storage.type = .inClusterPostgreSQL) (live : Option Object) :
    ∀ reference ∈ (aligned shard live).template.references,
      Supplied shard state shard.spec.targetNamespace reference := by
  have credentials : Supplied shard state shard.spec.targetNamespace
      ⟨.secret, postgreSQLSecretName shard⟩ := .inl (complete.database inCluster).1
  have scripts : Supplied shard state shard.spec.targetNamespace
      ⟨.configMap, postgreSQLInitConfigMapName shard⟩ := .inl (complete.database inCluster).2
  have serving : Supplied shard state shard.spec.targetNamespace
      ⟨.secret, named shard "-postgresql-serving-cert"⟩ :=
    supplied_of_certificate (complete.held laid .postgreSQLServingCertificate
          (mem_buildCertResources_inCluster inCluster (by decide)))
  have built : ∀ reference ∈ (buildPostgreSQLStatefulSet shard).template.references,
      Supplied shard state shard.spec.targetNamespace reference := by
    simp only [PodTemplate.references, buildPostgreSQLStatefulSet]
    cases shard.spec.storage.persistence with
    | none => simpa [VolumeSource.references] using ⟨credentials, serving, scripts⟩
    | some persistence => simpa [VolumeSource.references] using ⟨credentials, serving, scripts⟩
  cases live with
  | none => exact built
  | some object => exact fun reference membership => built reference (references_align membership)

theorem supplied_collector (laid : Laid shard shown state)
    (complete : Complete shard state.tracked) {spec : ObjectSpec}
    (collects : Collects shard state.tracked spec) :
    ∀ reference ∈ spec.references, Supplied shard state shard.spec.targetNamespace reference := by
  obtain ⟨credentialName, configMapName, params, rfl, configMap, credential, trusted⟩ := collects
  have isCredential : Supplied shard state shard.spec.targetNamespace
      ⟨.secret, credentialName⟩ := .inl credential
  have isConfigMap : Supplied shard state shard.spec.targetNamespace
      ⟨.configMap, configMapName⟩ := .inl configMap
  have authority : Supplied shard state shard.spec.targetNamespace
      ⟨.secret, params.caCertSecretName⟩ := by
    rcases trusted with ⟨inCluster, isOwn⟩ | isUsers
    · rw [isOwn]
      exact supplied_of_certificate (complete.held laid .postgreSQLCACertificate
          (mem_buildCertResources_inCluster inCluster (by decide)))
    · exact .inr ⟨rfl, .inr isUsers⟩
  simpa [ObjectSpec.references, PodTemplate.references, buildOTelCollectorDeployment,
    VolumeSource.references] using ⟨isCredential, isConfigMap, authority⟩

theorem supplied_kineServiceMonitor (laid : Laid shard shown state)
    (complete : Complete shard state.tracked) :
    ∀ reference ∈ (buildKineServiceMonitor shard).references,
      Supplied shard state shard.spec.targetNamespace reference := by
  have serving : Supplied shard state shard.spec.targetNamespace
      ⟨.secret, named shard "-kine-serving-cert"⟩ :=
    supplied_of_certificate (complete.held laid .kineServingCertificate
      (mem_buildCertResources (by decide)))
  simpa [Endpoint.references, buildKineServiceMonitor] using serving

theorem supplied_secondaryServiceMonitor (laid : Laid shard shown state)
    (complete : Complete shard state.tracked)
    (tracked : Component.secondaryServiceMonitor.key shard ∈ state.tracked) :
    ∀ reference ∈ (buildSecondaryServiceMonitor shard).references,
      Supplied shard state shard.spec.targetNamespace reference := by
  have pki : Supplied shard state shard.spec.targetNamespace ⟨.secret, named shard "-pki"⟩ :=
    supplied_of_certificate (complete.held laid .servingCertificate
      (mem_buildCertResources (by decide)))
  have token : Supplied shard state shard.spec.targetNamespace
      ⟨.secret, metricsReaderTokenSecretName shard⟩ := .inl (complete.monitoring tracked)
  simpa [Endpoint.references, buildSecondaryServiceMonitor] using ⟨pki, token⟩

/-- What an applied workload or ServiceMonitor refers to is supplied. -/
theorem supplied_of_holds (laid : Laid shard shown state) (complete : Complete shard state.tracked)
    (inCluster : Component.postgreSQLStatefulSet.key shard ∈ state.tracked →
      shard.spec.storage.type = .inClusterPostgreSQL)
    {key : ObjectKey} (unshared : key.kind.shared = false) {spec : ObjectSpec}
    (holds : Holds state key spec) :
    ∀ reference ∈ spec.references, Supplied shard state key.namespace_ reference := by
  obtain ⟨tracked, object, found, rfl⟩ := holds
  obtain ⟨other, component, isOther, rfl, prescribed⟩ := laid.built key tracked unshared
  obtain rfl := Option.some.inj (found.symm.trans isOther)
  generalize object.spec = spec at prescribed
  cases component with
  | kineDeployment => exact prescribed ▸ supplied_kine laid complete
  | secondaryDeployment => exact prescribed ▸ supplied_secondary laid complete tracked
  | postgreSQLStatefulSet =>
      obtain ⟨live, rfl⟩ := prescribed
      exact supplied_postgreSQL laid complete (inCluster tracked) live
  | oTelCollectorDeployment => exact supplied_collector laid complete prescribed
  | kineServiceMonitor => exact prescribed ▸ supplied_kineServiceMonitor laid complete
  | secondaryServiceMonitor =>
      exact prescribed ▸ supplied_secondaryServiceMonitor laid complete tracked
  | _ =>
      -- no other component refers to anything
      cases prescribed
      exact nofun

end closed

end KubeShard.Apishard
