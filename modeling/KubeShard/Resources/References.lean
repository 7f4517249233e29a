import KubeShard.Resources.Identity
import KubeShard.Resources.Volumes
import KubeShard.Resources.Workloads

/-!
# What the applied objects refer to

A pod template names Secrets, ConfigMaps and a ServiceAccount, and shows some of the
Secrets as files to its container.  A ServiceMonitor names the Secrets Prometheus
scrapes with.  A Certificate names the Secret cert-manager writes, and no two of them
name the same.
-/

namespace KubeShard.Apishard

/-! ## References -/

/-- A Secret, a ConfigMap or a ServiceAccount that an object of its namespace names. -/
structure Reference where
  kind : ObjectKind
  name : String
  deriving DecidableEq, Repr

def VolumeSource.references : VolumeSource → List Reference
  | .emptyDir => []
  | .secret secretName _ => [⟨.secret, secretName⟩]
  | .configMap name => [⟨.configMap, name⟩]

def PodTemplate.references (template : PodTemplate) : List Reference :=
  (template.serviceAccountName.map (⟨.serviceAccount, ·⟩)).toList ++
    template.envFrom.map (⟨.secret, ·⟩) ++
    template.env.map (fun variable_ => ⟨.secret, variable_.secretKeyRef.name⟩) ++
    template.volumes.flatMap (fun volume => volume.source.references)

def Endpoint.references (endpoint : Endpoint) : List Reference :=
  (endpoint.tlsConfig.map (fun config => ⟨.secret, config.ca.name⟩)).toList ++
    (endpoint.authorization.map (fun token => ⟨.secret, token.name⟩)).toList

def ObjectSpec.references : ObjectSpec → List Reference
  | .deployment template => template.references
  | .statefulSet spec => spec.template.references
  | .serviceMonitor endpoint => endpoint.references
  | .other | .issuer _ | .certificate _ => []

/-! ## Files -/

/-- A file of a container. -/
structure File where
  directory : String
  name : String
  deriving DecidableEq, Repr

/-- The entry of a Secret that a volume shows under a name. -/
def VolumeSource.entry (name : String) : VolumeSource → Option SecretKeyReference
  | .secret secretName [] => some ⟨secretName, name⟩
  | .secret secretName items => (items.find? (·.path = name)).map (⟨secretName, ·.key⟩)
  | .emptyDir | .configMap _ => none

/-- The entry of a Secret that the container finds in a file. -/
def PodTemplate.secretFile (template : PodTemplate) (file : File) :
    Option SecretKeyReference := do
  let mount ← template.volumeMounts.find? (·.mountPath = file.directory)
  let volume ← template.volumes.find? (·.name = mount.name)
  volume.source.entry file.name

end KubeShard.Apishard

namespace KubeShard.Resources

open Apishard

/-! ## The in-cluster database -/

/-- Alignment with the live StatefulSet adds no references. -/
theorem references_align {desired existing : StatefulSet} {reference : Reference}
    (membership : reference ∈
      (alignPostgreSQLVolumeClaims desired existing).template.references) :
    reference ∈ desired.template.references := by
  simp only [PodTemplate.references, List.mem_append, List.mem_flatMap] at membership ⊢
  apply membership.imp_right
  rintro ⟨volume, inVolumes, inSource⟩
  simp only [alignPostgreSQLVolumeClaims] at inVolumes
  split at inVolumes
  · exact ⟨volume, (List.mem_filter.mp inVolumes).1, inSource⟩
  · rcases List.mem_append.mp inVolumes with own | live
    · exact ⟨volume, own, inSource⟩
    · have isEmptyDir := (List.mem_filter.mp live).2
      simp only [decide_eq_true_eq] at isEmptyDir
      rw [isEmptyDir.1] at inSource
      cases inSource

/-- The file with the certificate of the database. -/
def postgreSQLCertificateFile : File := ⟨"/etc/postgresql/tls", "tls.crt"⟩

/-- No claim template takes the place of the volume with the certificate. -/
def ShowsCertificate (set : StatefulSet) : Prop :=
  "postgresql-tls" ∉ set.volumeClaimTemplates.map VolumeClaimTemplate.name

theorem showsCertificate_build (shard : APIShard) :
    ShowsCertificate (buildPostgreSQLStatefulSet shard) := by
  unfold ShowsCertificate buildPostgreSQLStatefulSet postgreSQLVolumeClaimTemplates
  cases shard.spec.storage.persistence with
  | none => exact List.not_mem_nil
  | some persistence => simp

/-- The volume with the certificate of the database. -/
def certificateVolume (shard : APIShard) : Volume :=
  ⟨"postgresql-tls", .secret (named shard "-postgresql-serving-cert")
    [⟨"tls.crt", "tls.crt"⟩, ⟨"tls.key", "tls.key"⟩, ⟨caCertKey, caCertKey⟩]⟩

theorem find?_volumes_build (shard : APIShard) :
    (buildPostgreSQLStatefulSet shard).template.volumes.find? (·.name = "postgresql-tls") =
      some (certificateVolume shard) := by
  unfold buildPostgreSQLStatefulSet
  cases shard.spec.storage.persistence <;> rfl

/-- The volume with the certificate stays where no claim template has its name. -/
theorem find?_volumes_align (shard : APIShard) {existing : StatefulSet}
    (shown : ShowsCertificate existing) :
    (alignPostgreSQLVolumeClaims (buildPostgreSQLStatefulSet shard) existing).template.volumes.find?
        (·.name = "postgresql-tls") = some (certificateVolume shard) := by
  rw [← find?_volumes_build shard]
  simp only [alignPostgreSQLVolumeClaims]
  split
  · rw [List.find?_filter]
    congr 1
    funext volume
    by_cases named : volume.name = "postgresql-tls"
    · simpa [named, ShowsCertificate] using shown
    · simp [named]
  · rw [List.find?_append, find?_volumes_build, Option.some_or]

/-- Where the certificate is shown, it is the one of the database. -/
theorem secretFile_postgreSQL {shard : APIShard} {template : PodTemplate}
    (mounts : template.volumeMounts = postgreSQLVolumeMounts)
    (volume : template.volumes.find? (·.name = "postgresql-tls") =
      some (certificateVolume shard)) :
    template.secretFile postgreSQLCertificateFile =
      some ⟨Certs.postgreSQLServingSecretName shard, "tls.crt"⟩ := by
  have mount : template.volumeMounts.find?
      (·.mountPath = postgreSQLCertificateFile.directory) =
        some ⟨"postgresql-tls", "/etc/postgresql/tls"⟩ := by
    rw [mounts]
    rfl
  simp only [PodTemplate.secretFile, mount, Option.bind_eq_bind, Option.bind_some, volume]
  rfl

end KubeShard.Resources

namespace KubeShard.Certs

open Apishard Resources

/-! ## Certificates -/

/-- The components that are Certificates. -/
def certificateComponents : List Component :=
  [.caCertificate, .servingCertificate, .adminClientCertificate, .kineCACertificate,
    .kineServingCertificate, .etcdClientCertificate, .postgreSQLCACertificate,
    .postgreSQLServingCertificate]

/-- What a Certificate adds to the name of its shard to name its Secret. -/
def secretSuffix (component : Component) : Option String :=
  (certificate Component.unnamed component).map CertificateSpec.secretName

theorem nodup_secretSuffix : (certificateComponents.map secretSuffix).Nodup := by
  decide +kernel

theorem secretName_of_certificate {shard : APIShard} {component : Component}
    {spec : CertificateSpec} (isSpec : certificate shard component = some spec) :
    component ∈ certificateComponents ∧
      ∃ suffix, secretSuffix component = some suffix ∧ spec.secretName = shard.name ++ suffix := by
  cases component <;>
    first
      | cases isSpec; exact ⟨by decide, _, rfl, Component.named_eq shard _⟩
      | cases isSpec

/-- No two Certificates of a shard name the same Secret. -/
theorem eq_of_secretName_eq {shard : APIShard} {left right : Component}
    {leftSpec rightSpec : CertificateSpec} (isLeft : certificate shard left = some leftSpec)
    (isRight : certificate shard right = some rightSpec)
    (same : leftSpec.secretName = rightSpec.secretName) : left = right := by
  obtain ⟨leftMem, leftSuffix, isLeftSuffix, leftName⟩ := secretName_of_certificate isLeft
  obtain ⟨rightMem, rightSuffix, isRightSuffix, rightName⟩ := secretName_of_certificate isRight
  apply List.inj_on_of_nodup_map nodup_secretSuffix leftMem rightMem
  rw [leftName, rightName, String.append_right_inj] at same
  rw [isLeftSuffix, isRightSuffix, same]

end KubeShard.Certs
