import KubeShard.Apishard.Settings

/-!
# Hosts and certificates

Which hosts are dialled with TLS, and by whom: the secondary dials Kine, Kine and the
metrics collector dial the in-cluster database, the operator, its sync controllers and
Prometheus dial the secondary, and Prometheus dials Kine.  Each client reads a host out of
its settings and has a CA from somewhere; each server shows the certificate in the file
that its own flag names.
-/

namespace KubeShard.Apishard

open Resources Prog Certs

/-! ## Dials -/

/-- Where a client has its CA from: a file of its container that its settings name, or a
Secret it reads. -/
inductive Trust where
  | mounted (template : PodTemplate) (path : Option String)
  | read (secret : SecretKeyReference)

/-- The entry of a Secret the CA comes from. -/
def Trust.source : Trust → Option SecretKeyReference
  | .mounted template path => (path.bind File.ofPath).bind template.secretFile
  | .read secret => some secret

/-- A connection with TLS, with the host the client finds in its settings. -/
structure Dial where
  host : Option String
  trust : Trust
  server : Component

/-- The connections of a shard. -/
inductive Dials (library : Url.Library) (shard : APIShard) : Dial → Prop where
  /-- `--etcd-servers` and `--etcd-cafile` of the secondary. -/
  | etcd : Dials library shard {
      host := (flagValue "--etcd-servers=" (buildSecondaryDeployment shard).args).bind
        (urlHost library)
      trust := .mounted (buildSecondaryDeployment shard)
        (flagValue "--etcd-cafile=" (buildSecondaryDeployment shard).args)
      server := .kineDeployment }
  /-- `KINE_ENDPOINT` of the in-cluster database, for a password that needs no escapes. -/
  | endpoint (inCluster : shard.spec.storage.type = .inClusterPostgreSQL) {password : String}
      (unescaped : Unescaped password) : Dials library shard {
        host := dsnHost library (kineEndpoint shard password)
        trust := .mounted (buildKineDeployment shard)
          (dsnParameter "sslrootcert" (kineEndpoint shard password))
        server := .postgreSQLStatefulSet }
  /-- The PostgreSQL receiver of the collector of the in-cluster database. -/
  | receiver (inCluster : shard.spec.storage.type = .inClusterPostgreSQL)
      (interval : '\n' ∉ (collectionInterval shard).toList)
      (credentialSecretName configMapName : String) : Dials library shard {
        host := receiverHost (buildOTelCollectorConfig shard (inClusterParams shard))
        trust := .mounted (buildOTelCollectorDeployment credentialSecretName configMapName
            (inClusterParams shard))
          (receiverCAFile (buildOTelCollectorConfig shard (inClusterParams shard)))
        server := .postgreSQLStatefulSet }
  /-- The data source of its SQL queries. -/
  | datasource (inCluster : shard.spec.storage.type = .inClusterPostgreSQL)
      (interval : '\n' ∉ (collectionInterval shard).toList)
      (credentialSecretName configMapName : String) : Dials library shard {
        host := datasourceValue "host" (buildOTelCollectorConfig shard (inClusterParams shard))
        trust := .mounted (buildOTelCollectorDeployment credentialSecretName configMapName
            (inClusterParams shard))
          (datasourceValue "sslrootcert" (buildOTelCollectorConfig shard (inClusterParams shard)))
        server := .postgreSQLStatefulSet }
  /-- `SecondaryEndpoint`, which the operator dials with the CA of the PKI Secret. -/
  | operator : Dials library shard {
      host := urlHost library (secondaryEndpoint shard)
      trust := .read ⟨pkiSecretName shard, caCertKey⟩
      server := .secondaryDeployment }
  /-- The connection of the sync objects. -/
  | sync : Dials library shard {
      host := urlHost library (Secondary.connectionHost (syncConnection shard))
      trust := .read ⟨(syncConnection shard).caSecret, caCertKey⟩
      server := .secondaryDeployment }
  | kineServiceMonitor {config : TLSConfig}
      (isConfig : (buildKineServiceMonitor shard).tlsConfig = some config) : Dials library shard {
        host := some config.serverName
        trust := .read config.ca
        server := .kineDeployment }
  | secondaryServiceMonitor {config : TLSConfig}
      (isConfig : (buildSecondaryServiceMonitor shard).tlsConfig = some config) :
      Dials library shard {
        host := some config.serverName
        trust := .read config.ca
        server := .secondaryDeployment }

/-- The file with the certificate, by the flag of the server. -/
def certificatePath (args : List String) : Component → Option String
  | .kineDeployment => nextArgument "--server-cert-file" args
  | .secondaryDeployment => flagValue "--tls-cert-file=" args
  | .postgreSQLStatefulSet => flagValue "ssl_cert_file=" args
  | _ => none

/-! ## Certificates -/

/-- The template of a workload. -/
def ObjectSpec.template : ObjectSpec → Option PodTemplate
  | .deployment template => some template
  | .statefulSet spec => some spec.template
  | .other | .serviceMonitor _ | .issuer _ | .certificate _ => none

/-- The Secret with the key that signs what the issuer issues into this Secret. -/
def IssuerSpec.authority (secretName : String) : IssuerSpec → String
  | .selfSigned => secretName
  | .ca signer => signer

/-- The Secret is written for a Certificate of the pass, whose issuer signs with the key
in the Secret `authority`; the `ca.crt` of the former is the certificate of the latter. -/
def SignedBy (state : State) (namespace_ secretName authority : String) : Prop :=
  ∃ certificate spec issuer,
    Holds state ⟨.certificate, namespace_, certificate⟩ (.certificate spec) ∧
    spec.secretName = secretName ∧
    Holds state ⟨.issuer, namespace_, spec.issuerRef⟩ (.issuer issuer) ∧
    issuer.authority secretName = authority

/-- The workload shows this Certificate: its flag names a file that has it. -/
def Shows (shard : APIShard) (state : State) (server : Component) (spec : CertificateSpec) :
    Prop :=
  ∃ workload template, Holds state (server.key shard) workload ∧
    workload.template = some template ∧
    ((certificatePath template.args server).bind File.ofPath).bind template.secretFile =
      some ⟨spec.secretName, "tls.crt"⟩

/-- The server shows a Certificate with the host on it, and the CA of the client is the
authority that signed it. -/
def Verified (shard : APIShard) (state : State) (dial : Dial) : Prop :=
  ∃ certificate spec host caSecret authority,
    Holds state ⟨.certificate, shard.spec.targetNamespace, certificate⟩ (.certificate spec) ∧
    Shows shard state dial.server spec ∧
    dial.host = some host ∧ host ∈ spec.dnsNames ∧
    dial.trust.source = some ⟨caSecret, caCertKey⟩ ∧
    SignedBy state shard.spec.targetNamespace caSecret authority ∧
    SignedBy state shard.spec.targetNamespace spec.secretName authority

section verified

variable {shard : APIShard} {shown : Prop} {state : State}

/-! ### Who signs what -/

theorem signedBy_serving (laid : Laid shard shown state) (complete : Complete shard state.tracked) :
    SignedBy state shard.spec.targetNamespace (pkiSecretName shard) (caSecretName shard) :=
  ⟨_, _, _, complete.held laid .servingCertificate (mem_buildCertResources (by decide)), rfl,
    complete.held laid .caIssuer (mem_buildCertResources (by decide)), rfl⟩

theorem signedBy_kineServing (laid : Laid shard shown state)
    (complete : Complete shard state.tracked) :
    SignedBy state shard.spec.targetNamespace (kineServingSecretName shard)
      (kineCASecretName shard) :=
  ⟨_, _, _, complete.held laid .kineServingCertificate (mem_buildCertResources (by decide)), rfl,
    complete.held laid .kineCAIssuer (mem_buildCertResources (by decide)), rfl⟩

theorem signedBy_etcdClient (laid : Laid shard shown state)
    (complete : Complete shard state.tracked) :
    SignedBy state shard.spec.targetNamespace (etcdClientSecretName shard)
      (kineCASecretName shard) :=
  ⟨_, _, _, complete.held laid .etcdClientCertificate (mem_buildCertResources (by decide)), rfl,
    complete.held laid .kineCAIssuer (mem_buildCertResources (by decide)), rfl⟩

theorem signedBy_postgreSQLServing (laid : Laid shard shown state)
    (complete : Complete shard state.tracked)
    (inCluster : shard.spec.storage.type = .inClusterPostgreSQL) :
    SignedBy state shard.spec.targetNamespace (postgreSQLServingSecretName shard)
      (postgreSQLCASecretName shard) :=
  ⟨_, _, _, complete.held laid .postgreSQLServingCertificate
      (mem_buildCertResources_inCluster inCluster (by decide)), rfl,
    complete.held laid .postgreSQLCAIssuer
      (mem_buildCertResources_inCluster inCluster (by decide)), rfl⟩

theorem signedBy_postgreSQLCA (laid : Laid shard shown state)
    (complete : Complete shard state.tracked)
    (inCluster : shard.spec.storage.type = .inClusterPostgreSQL) :
    SignedBy state shard.spec.targetNamespace (postgreSQLCASecretName shard)
      (postgreSQLCASecretName shard) :=
  ⟨_, _, _, complete.held laid .postgreSQLCACertificate
      (mem_buildCertResources_inCluster inCluster (by decide)), rfl,
    complete.held laid .postgreSQLSelfSignedIssuer
      (mem_buildCertResources_inCluster inCluster (by decide)), rfl⟩

/-! ### What the servers show -/

theorem shows_kine (laid : Laid shard shown state)
    (tracked : Component.kineDeployment.key shard ∈ state.tracked) :
    Shows shard state .kineDeployment (buildKineServingCertificate shard) := by
  have isFile : File.ofPath "/etc/kine/tls/tls.crt" = some ⟨"/etc/kine/tls", "tls.crt"⟩ := by decide
  refine ⟨_, _, laid.holds_fixed .kineDeployment rfl (by decide) rfl rfl tracked, rfl, ?_⟩
  rw [certificatePath, path_kineCertificate, Option.bind_some, isFile, Option.bind_some]
  simp [PodTemplate.secretFile, buildKineDeployment, VolumeSource.entry]
  rfl

theorem shows_secondary (laid : Laid shard shown state)
    (tracked : Component.secondaryDeployment.key shard ∈ state.tracked) :
    Shows shard state .secondaryDeployment (buildServingCertificate shard) := by
  have isFile : File.ofPath "/etc/kubernetes/pki/tls.crt" =
      some ⟨"/etc/kubernetes/pki", "tls.crt"⟩ := by decide
  refine ⟨_, _, laid.holds_fixed .secondaryDeployment rfl (by decide) rfl rfl tracked, rfl, ?_⟩
  rw [certificatePath, path_secondaryCertificate, Option.bind_some, isFile]
  rfl

theorem secretFile_aligned {live : Option Object}
    (certified : ShowsCertificate (aligned shard live)) :
    (aligned shard live).template.secretFile postgreSQLCertificateFile =
      some ⟨postgreSQLServingSecretName shard, "tls.crt"⟩ := by
  cases live with
  | none => exact secretFile_postgreSQL rfl (find?_volumes_build shard)
  | some object => exact secretFile_postgreSQL rfl (find?_volumes_align shard certified)

theorem shows_postgreSQL (laid : Laid shard shown state) (isShown : shown)
    (tracked : Component.postgreSQLStatefulSet.key shard ∈ state.tracked) :
    Shows shard state .postgreSQLStatefulSet (buildPostgreSQLServingCertificate shard) := by
  obtain ⟨spec, holds, live, rfl⟩ :=
    laid.holds .postgreSQLStatefulSet rfl (by decide) rfl tracked
  have certified : ShowsCertificate (aligned shard live) := by
    obtain ⟨_, object, found, isSpec⟩ := holds
    have isSet : object.statefulSet = aligned shard live := by
      rw [Object.statefulSet, isSpec]
    exact isSet ▸ laid.shown isShown object found
  have isPath : flagValue "ssl_cert_file=" (aligned shard live).template.args =
      some "/etc/postgresql/tls/tls.crt" := by
    cases live <;> rfl
  have isFile : File.ofPath "/etc/postgresql/tls/tls.crt" = some postgreSQLCertificateFile := by
    decide
  refine ⟨_, _, holds, rfl, ?_⟩
  rw [certificatePath, isPath, Option.bind_some, isFile]
  exact secretFile_aligned certified

/-! ### Every connection -/

/-- The workloads that are dialled have been applied. -/
structure Attended (shard : APIShard) (tracked : List ObjectKey) : Prop where
  kine : Component.kineDeployment.key shard ∈ tracked
  secondary : Component.secondaryDeployment.key shard ∈ tracked
  database : shard.spec.storage.type = .inClusterPostgreSQL →
    Component.postgreSQLStatefulSet.key shard ∈ tracked

/-- The names on a serving certificate. -/
theorem mem_dnsNames (shard : APIShard) (secretName svcName issuerName : String) :
    serviceHost svcName shard.spec.targetNamespace ∈
      (buildServingCert shard secretName svcName issuerName).dnsNames := by
  simp [buildServingCert, serviceHost]

/-- The CA of Kine's clients, from the file of their flag. -/
theorem source_etcd : (Trust.mounted (buildSecondaryDeployment shard) (flagValue "--etcd-cafile="
    (buildSecondaryDeployment shard).args)).source =
      some ⟨etcdClientSecretName shard, caCertKey⟩ := by
  have isFile : File.ofPath "/etc/kubernetes/etcd-client/ca.crt" =
      some ⟨"/etc/kubernetes/etcd-client", "ca.crt"⟩ := by decide
  rw [path_etcdCAFile, Trust.source, Option.bind_some, isFile]
  rfl

/-- The CA Kine has for the in-cluster database. -/
theorem source_kine (inCluster : shard.spec.storage.type = .inClusterPostgreSQL) :
    (Trust.mounted (buildKineDeployment shard) (some "/etc/kine/pg-ca/ca.crt")).source =
      some ⟨postgreSQLCASecretName shard, caCertKey⟩ := by
  have isFile : File.ofPath "/etc/kine/pg-ca/ca.crt" = some ⟨"/etc/kine/pg-ca", "ca.crt"⟩ := by
    decide
  rw [Trust.source, Option.bind_some, isFile, Option.bind_some]
  simp only [PodTemplate.secretFile, buildKineDeployment, kineStorageVolumes, inCluster]
  rfl

/-- The CA the collector has for it. -/
theorem source_collector (credentialSecretName configMapName : String) :
    (Trust.mounted (buildOTelCollectorDeployment credentialSecretName configMapName
      (inClusterParams shard)) (some otelCACertFile)).source =
        some ⟨postgreSQLCASecretName shard, caCertKey⟩ := by
  have isFile : File.ofPath otelCACertFile = some ⟨"/etc/otel/tls", "ca.crt"⟩ := by decide
  rw [Trust.source, Option.bind_some, isFile]
  rfl

/-- A client of the in-cluster database that reads its host and has its CA. -/
theorem verified_database (laid : Laid shard shown state) (complete : Complete shard state.tracked)
    (serving : Attended shard state.tracked) (isShown : shown)
    (inCluster : shard.spec.storage.type = .inClusterPostgreSQL) {host : Option String}
    {trust : Trust}
    (isHost : host = some (serviceHost (postgreSQLServiceName shard) shard.spec.targetNamespace))
    (isSource : trust.source = some ⟨postgreSQLCASecretName shard, caCertKey⟩) :
    Verified shard state ⟨host, trust, .postgreSQLStatefulSet⟩ :=
  ⟨_, _, _, _, _, complete.held laid .postgreSQLServingCertificate
      (mem_buildCertResources_inCluster inCluster (by decide)),
    shows_postgreSQL laid isShown (serving.database inCluster), isHost, mem_dnsNames shard _ _ _,
    isSource, signedBy_postgreSQLCA laid complete inCluster,
    signedBy_postgreSQLServing laid complete inCluster⟩

/-- A client of the secondary that reads its host and has the CA of its own Secret. -/
theorem verified_secondary (laid : Laid shard shown state)
    (complete : Complete shard state.tracked) (serving : Attended shard state.tracked)
    {host : Option String}
    (isHost : host = some (serviceHost (secondaryServiceName shard) shard.spec.targetNamespace)) :
    Verified shard state ⟨host, .read ⟨pkiSecretName shard, caCertKey⟩, .secondaryDeployment⟩ :=
  ⟨_, _, _, _, _, complete.held laid .servingCertificate (mem_buildCertResources (by decide)),
    shows_secondary laid serving.secondary, isHost, mem_dnsNames shard _ _ _, rfl,
    signedBy_serving laid complete, signedBy_serving laid complete⟩

theorem verified_of_dials (laid : Laid shard shown state) (complete : Complete shard state.tracked)
    (serving : Attended shard state.tracked) (labelled : Labelled shard) {library : Url.Library}
    {dial : Dial} (dials : Dials library shard dial)
    (certified : dial.server = .postgreSQLStatefulSet → shown) : Verified shard state dial := by
  have kine := complete.held laid .kineServingCertificate (mem_buildCertResources (by decide))
  cases dials with
  | etcd =>
      refine ⟨_, _, _, _, _, kine, shows_kine laid serving.kine, host_etcd labelled, ?_,
        source_etcd, signedBy_etcdClient laid complete, signedBy_kineServing laid complete⟩
      simp [buildKineServingCertificate, buildServingCert, etcdHost]
  | endpoint inCluster unescaped =>
      apply verified_database laid complete serving (certified rfl) inCluster
      · exact host_kineEndpoint labelled unescaped
      · rw [file_kineEndpoint labelled unescaped]
        exact source_kine inCluster
  | receiver inCluster interval credentialSecretName configMapName =>
      apply verified_database laid complete serving (certified rfl) inCluster
      · exact host_receiver labelled interval
      · rw [file_receiver labelled interval]
        exact source_collector _ _
  | datasource inCluster interval credentialSecretName configMapName =>
      apply verified_database laid complete serving (certified rfl) inCluster
      · exact host_datasource labelled interval
      · rw [file_datasource labelled interval]
        exact source_collector _ _
  | operator =>
      exact verified_secondary laid complete serving (host_secondaryEndpoint labelled)
  | sync =>
      exact verified_secondary laid complete serving (host_syncConnection labelled)
  | kineServiceMonitor isConfig =>
      cases isConfig
      exact ⟨_, _, _, kineServingSecretName shard, _, kine, shows_kine laid serving.kine, rfl,
        mem_dnsNames shard _ _ _, rfl, signedBy_kineServing laid complete,
        signedBy_kineServing laid complete⟩
  | secondaryServiceMonitor isConfig =>
      cases isConfig
      exact verified_secondary laid complete serving rfl

end verified

/-! ## The whole stack -/

section applied

variable {r : Reconciler} {ctx : Schedule} {shard : APIShard} {cluster : Cluster}

/-- The keys a pass has tracked when its objects are applied. -/
def appliedKeys (r : Reconciler) (ctx : Schedule) (shard : APIShard) (cluster : Cluster) :
    List ObjectKey :=
  (appliedComponents r ctx shard cluster).map (Component.key shard)

theorem mem_appliedKeys {component : Component}
    (membership : component ∈ stepComponents r ctx shard cluster (step component)) :
    component.key shard ∈ appliedKeys r ctx shard cluster :=
  List.mem_map_of_mem (mem_appliedComponents.mpr membership)

/-- A component that is no ConfigMap is tracked if it is applied. -/
theorem mem_stepComponents {component : Component} (plain : component.plain = true)
    (kind : component.kind ≠ .configMap)
    (tracked : component.key shard ∈ appliedKeys r ctx shard cluster) :
    component ∈ stepComponents r ctx shard cluster (step component) := by
  obtain ⟨other, isApplied, same⟩ := List.mem_map.mp tracked
  rcases other.plain_or_hashed with otherPlain | ⟨name, rfl⟩
  · rw [Component.eq_of_key_eq otherPlain plain same] at isApplied
    exact mem_appliedComponents.mp isApplied
  · exact absurd (congrArg ObjectKey.kind same.symm) kind

theorem complete_appliedKeys : Complete shard (appliedKeys r ctx shard cluster) where
  certificates component membership := by
    apply mem_appliedKeys
    rw [step_of_certificates shard component membership]
    exact membership
  database inCluster := by
    constructor <;> apply mem_appliedKeys <;>
      simp [stepComponents, step, storageComponents, inCluster]
  secondary _ := by
    refine ⟨?_, ?_, ?_⟩ <;> apply mem_appliedKeys <;> simp [stepComponents, step]
  monitoring tracked := by
    have monitored := mem_stepComponents rfl (by decide) tracked
    apply mem_appliedKeys
    simp only [stepComponents, step, monitoringComponents] at monitored ⊢
    split at monitored
    · next available => simp [available]
    · cases monitored

theorem serving_appliedKeys : Attended shard (appliedKeys r ctx shard cluster) where
  kine := mem_appliedKeys (by simp [stepComponents, step, kineComponents])
  secondary := mem_appliedKeys (by simp [stepComponents, step, secondaryComponents])
  database inCluster := mem_appliedKeys (by
    simp [stepComponents, step, storageComponents, inCluster])

theorem inCluster_of_statefulSet
    (tracked : Component.postgreSQLStatefulSet.key shard ∈ appliedKeys r ctx shard cluster) :
    shard.spec.storage.type = .inClusterPostgreSQL := by
  have stored := mem_stepComponents rfl (by decide) tracked
  simp only [stepComponents, step, storageComponents] at stored
  split at stored
  · next isType => exact isType
  · cases stored

end applied

theorem certificate_of_prescribed {shard : APIShard} {tracked : List ObjectKey}
    {component : Component} {spec : CertificateSpec}
    (prescribed : Prescribed shard tracked component (.certificate spec)) :
    certificate shard component = some spec := by
  cases component with
  | postgreSQLStatefulSet =>
      obtain ⟨live, impossible⟩ := prescribed
      cases impossible
  | oTelCollectorDeployment =>
      obtain ⟨_, _, _, impossible, _⟩ := prescribed
      cases impossible
  | _ =>
      cases prescribed
      try rfl

/-- No two Certificates of a pass are written to the same Secret. -/
theorem Laid.certificate_distinct {shard : APIShard} {shown : Prop} {state : State}
    (laid : Laid shard shown state) {namespace_ left right : String}
    {leftSpec rightSpec : CertificateSpec}
    (leftHolds : Holds state ⟨.certificate, namespace_, left⟩ (.certificate leftSpec))
    (rightHolds : Holds state ⟨.certificate, namespace_, right⟩ (.certificate rightSpec))
    (same : leftSpec.secretName = rightSpec.secretName) : left = right := by
  have known {name : String} {spec : CertificateSpec}
      (holds : Holds state ⟨.certificate, namespace_, name⟩ (.certificate spec)) :
      ∃ component : Component, component.name shard = name ∧
        certificate shard component = some spec := by
    obtain ⟨tracked, object, found, isSpec⟩ := holds
    obtain ⟨other, component, isOther, isKey, prescribed⟩ := laid.built _ tracked rfl
    obtain rfl := Option.some.inj (found.symm.trans isOther)
    rw [isSpec] at prescribed
    exact ⟨component, (congrArg ObjectKey.name isKey).symm, certificate_of_prescribed prescribed⟩
  obtain ⟨first, rfl, isFirst⟩ := known leftHolds
  obtain ⟨second, rfl, isSecond⟩ := known rightHolds
  rw [eq_of_secretName_eq isFirst isSecond same]

/-- The objects of a pass fit together. -/
structure Sealed (shard : APIShard) (before : Cluster) (after : State) : Prop where
  built : ∀ component : Component, component.kind ∈
      [ObjectKind.deployment, .statefulSet, .serviceMonitor, .certificate, .issuer] →
    component.key shard ∈ after.tracked → ∃ spec,
      Holds after (component.key shard) spec ∧ Prescribed shard after.tracked component spec
  closed : ∀ key spec, key.kind ∈ [ObjectKind.deployment, .statefulSet, .serviceMonitor] →
    Holds after key spec → ∀ reference ∈ spec.references,
      Supplied shard after key.namespace_ reference
  distinct : ∀ left right leftSpec rightSpec,
    Holds after ⟨.certificate, shard.spec.targetNamespace, left⟩ (.certificate leftSpec) →
    Holds after ⟨.certificate, shard.spec.targetNamespace, right⟩ (.certificate rightSpec) →
    leftSpec.secretName = rightSpec.secretName → left = right
  serving : Attended shard after.tracked
  verified : Labelled shard → ∀ library dial, Dials library shard dial →
    (dial.server = .postgreSQLStatefulSet → CertificateShown shard before) →
    Verified shard after dial

/-- A shard with everything: its own database with a volume, and monitoring. -/
def monitoredShard : APIShard where
  name := "shard"
  uid := 0
  generation := 1
  resourceVersion := 0
  spec := {
    targetNamespace := "target"
    apiGroups := []
    storage := {
      type := .inClusterPostgreSQL
      persistence := some ⟨none, 1, "1Gi"⟩
      monitoring := some { enabled := true } } }

/-- A cluster with the request header CA of the primary that serves ServiceMonitors. -/
def monitoredState : State where
  cluster := { Cluster.bare with
    objects := (Surroundings.serving "other").objects
    servesServiceMonitor := true }

end KubeShard.Apishard
