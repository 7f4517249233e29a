import KubeShard.Resources.Names

/-!
# In-cluster PostgreSQL

The parts of `operator/internal/resources/postgresql.go`,
`postgresql_volumes.go`, `pdb.go` and `otel_collector.go` that decide what a pass
applies and what it reports: the credentials, the volume claim templates and the
connection of the metrics collector.
-/

namespace KubeShard.Resources

open Apishard

/-- `PostgreSQLPort`. -/
def postgreSQLPort : Nat := 5432

/-- `NameKine`. -/
def nameKine : String := "kine"

/-- `CACertKey`. -/
def caCertKey : String := "ca.crt"

/-- `PostgreSQLDSN`. -/
def postgreSQLDSN (shard : APIShard) (user password : String) : String :=
  s!"postgres://{user}:{password}@{postgreSQLServiceName shard}.{shard.spec.targetNamespace}.svc:{postgreSQLPort}/kine?sslmode=verify-full&sslrootcert=/etc/kine/pg-ca/ca.crt"

/-- One digit of `hex.EncodeToString`. -/
def hexDigit (value : Nat) : Char :=
  if value < 10 then Char.ofNat ('0'.toNat + value) else Char.ofNat ('a'.toNat + (value - 10))

/-- `GeneratePassword` on the sixteen bytes that were drawn. -/
def generatePassword (bytes : Fin 16 → Fin 256) : String :=
  String.ofList ((List.ofFn bytes).flatMap fun byte =>
    [hexDigit (byte.val / 16), hexDigit (byte.val % 16)])

/-- The data of `BuildPostgreSQLSecret`. -/
def buildPostgreSQLSecret (shard : APIShard) (password : String) : List (String × String) :=
  [("POSTGRES_USER", nameKine),
    ("POSTGRES_PASSWORD", password),
    ("POSTGRES_DB", nameKine),
    ("KINE_ENDPOINT", postgreSQLDSN shard nameKine password)]

/-- The volume claim templates of `BuildPostgreSQLStatefulSet`. -/
def postgreSQLVolumeClaimTemplates (shard : APIShard) : List VolumeClaimTemplate :=
  match shard.spec.storage.persistence with
  | some persistence => [⟨"data", persistence.storageClassName, persistence.size⟩]
  | none => []

/-- `BuildPostgreSQLStatefulSet`. -/
def buildPostgreSQLStatefulSet (shard : APIShard) : StatefulSet where
  template := {
    args := [
      "-c", "ssl=on",
      "-c", "ssl_cert_file=/etc/postgresql/tls/tls.crt",
      "-c", "ssl_key_file=/etc/postgresql/tls/tls.key",
      "-c", "ssl_ca_file=/etc/postgresql/tls/ca.crt"]
    envFrom := [postgreSQLSecretName shard]
    volumes :=
      (match shard.spec.storage.persistence with
        | some _ => []
        | none => [⟨"data", .emptyDir⟩]) ++
      [⟨"tmp", .emptyDir⟩,
        ⟨"postgresql-tls", .secret (named shard "-postgresql-serving-cert")
          [⟨"tls.crt", "tls.crt"⟩, ⟨"tls.key", "tls.key"⟩, ⟨caCertKey, caCertKey⟩]⟩,
        ⟨"init-scripts", .configMap (postgreSQLInitConfigMapName shard)⟩]
    volumeMounts := [
      ⟨"data", "/var/lib/postgresql/data"⟩,
      ⟨"tmp", "/tmp"⟩,
      ⟨"postgresql-tls", "/etc/postgresql/tls"⟩,
      ⟨"init-scripts", "/docker-entrypoint-initdb.d"⟩] }
  volumeClaimTemplates := postgreSQLVolumeClaimTemplates shard

/-- `AlignPostgreSQLVolumeClaims`: the desired StatefulSet with the claims of the
existing one. -/
def alignPostgreSQLVolumeClaims (desired existing : StatefulSet) : StatefulSet :=
  let liveVCTNames := existing.volumeClaimTemplates.map VolumeClaimTemplate.name
  let volumes := desired.template.volumes
  let desiredNames := volumes.map Volume.name
  { template := { desired.template with
      volumes :=
        if liveVCTNames ≠ [] then
          volumes.filter fun volume => volume.name ∉ liveVCTNames
        else
          volumes ++ existing.template.volumes.filter fun volume =>
            volume.source = .emptyDir ∧ volume.name ∉ desiredNames }
    volumeClaimTemplates := existing.volumeClaimTemplates }

/-- `StorageMonitoringEnabled`. -/
def storageMonitoringEnabled (shard : APIShard) : Bool :=
  match shard.spec.storage.monitoring with
  | some monitoring => monitoring.enabled
  | none => false

/-- `isColocateEnabled`. -/
def isColocateEnabled (shard : APIShard) : Bool :=
  shard.spec.colocateComponents.getD true

/-- `storageClassNamesMatch`. -/
def storageClassNamesMatch (requested live : Option String) : Bool :=
  match requested with
  | none => live != some ""
  | some requested => live == some requested

/-- `VolumeClaimTemplatesMatch`. -/
def volumeClaimTemplatesMatch : List VolumeClaimTemplate → List VolumeClaimTemplate → Bool
  | [], [] => true
  | requested :: requestedRest, live :: liveRest =>
      requested.name == live.name && requested.size.value == live.size.value &&
        storageClassNamesMatch requested.storageClassName live.storageClassName &&
        volumeClaimTemplatesMatch requestedRest liveRest
  | _, _ => false

/-- `describeStorageClassName`. -/
def describeStorageClassName : Option String → String
  | none => "<default>"
  | some storageClass => if storageClass = "" then "<none>" else storageClass

/-- `DescribeVolumeClaimTemplates`. -/
def describeVolumeClaimTemplates : List VolumeClaimTemplate → String
  | [] => "emptyDir (no persistent volume)"
  | first :: _ =>
      s!"size {first.size.text}, storageClassName {describeStorageClassName first.storageClassName}"

/-- `OTelConnectionParams`. -/
structure OTelConnectionParams where
  host : String
  port : String
  user : String
  password : String := ""
  dbName : String
  caCertSecretName : String := ""
  caCertSecretKey : String := ""
  deriving DecidableEq, Repr

/-- `InClusterPostgreSQLConnectionParams`. -/
def inClusterPostgreSQLConnectionParams (shard : APIShard) : OTelConnectionParams where
  host := s!"{postgreSQLServiceName shard}.{shard.spec.targetNamespace}.svc"
  port := toString postgreSQLPort
  user := nameKine
  dbName := nameKine

/-- Whether `BuildPDB` returns an object for this many replicas. -/
def buildPDB (replicas : Int) : Bool := replicas ≥ 2

end KubeShard.Resources
