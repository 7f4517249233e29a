import KubeShard.Certs.Certmanager
import KubeShard.Resources.Postgresql

/-!
# Workloads and ServiceMonitors

The pod templates of the Deployments and the endpoints of the ServiceMonitors, from
`kine.go`, `secondary.go`, `otel_collector.go` and `metrics.go` of
`operator/internal/resources`.  Of the arguments of a container those are kept that
name a file or an address.  The names of Secrets and ConfigMaps are spelled where the
source spells them, and not taken from the name helpers of another package.
-/

namespace KubeShard.Resources

open Apishard

variable (shard : APIShard)

/-! ## Kine -/

/-- `KinePort`. -/
def kinePort : Nat := 2379

/-- `KineEndpoint`. -/
def kineEndpoint : String :=
  match shard.spec.storage.type with
  | .sqlite => "sqlite:///data/kine.db"
  | .inClusterPostgreSQL | .postgreSQL => "$(KINE_ENDPOINT)"

/-- The volumes of Kine that depend on the storage type, with their mounts. -/
def kineStorageVolumes : List (Volume × VolumeMount) :=
  match shard.spec.storage.type with
  | .sqlite => [(⟨"data", .emptyDir⟩, ⟨"data", "/data"⟩)]
  | .inClusterPostgreSQL =>
      [(⟨"postgresql-ca", .secret (named shard "-postgresql-ca-keypair") [⟨caCertKey, caCertKey⟩]⟩,
        ⟨"postgresql-ca", "/etc/kine/pg-ca"⟩)]
  | .postgreSQL => []

/-- The template of `BuildKineDeployment`. -/
def buildKineDeployment : PodTemplate where
  args := [
    "--endpoint", kineEndpoint shard,
    "--listen-address", s!"tcp://0.0.0.0:{kinePort}",
    "--server-cert-file", "/etc/kine/tls/tls.crt",
    "--server-key-file", "/etc/kine/tls/tls.key",
    "--trusted-ca-file", "/etc/kine/tls/ca.crt"]
  envFrom :=
    match shard.spec.storage.type with
    | .inClusterPostgreSQL => [postgreSQLSecretName shard]
    | .sqlite | .postgreSQL => []
  env :=
    match shard.spec.storage.type with
    | .postgreSQL => (shard.spec.storage.connectionSecretRef.map (⟨"KINE_ENDPOINT", ·⟩)).toList
    | .sqlite | .inClusterPostgreSQL => []
  volumes :=
    [⟨"tmp", .emptyDir⟩, ⟨"kine-serving-cert", .secret (named shard "-kine-serving-cert") []⟩] ++
      (kineStorageVolumes shard).map Prod.fst
  volumeMounts :=
    [⟨"tmp", "/tmp"⟩, ⟨"kine-serving-cert", "/etc/kine/tls"⟩] ++
      (kineStorageVolumes shard).map Prod.snd

/-! ## The secondary API server -/

/-- The host of `etcdServers` in `BuildSecondaryDeployment`. -/
def etcdHost : String :=
  s!"{kineServiceName shard}.{shard.spec.targetNamespace}.svc.cluster.local"

/-- The template of `BuildSecondaryDeployment`. -/
def buildSecondaryDeployment : PodTemplate where
  serviceAccountName := some (secondaryServiceAccountName shard)
  args := [
    s!"--etcd-servers=https://{etcdHost shard}:{kinePort}",
    "--etcd-certfile=/etc/kubernetes/etcd-client/tls.crt",
    "--etcd-keyfile=/etc/kubernetes/etcd-client/tls.key",
    "--etcd-cafile=/etc/kubernetes/etcd-client/ca.crt",
    "--tls-cert-file=/etc/kubernetes/pki/tls.crt",
    "--tls-private-key-file=/etc/kubernetes/pki/tls.key",
    "--client-ca-file=/etc/kubernetes/pki/ca.crt",
    "--service-account-key-file=/etc/kubernetes/pki/tls.key",
    "--service-account-signing-key-file=/etc/kubernetes/pki/tls.key",
    "--requestheader-client-ca-file=/etc/kubernetes/requestheader/requestheader-client-ca-file",
    "--authorization-webhook-config-file=/etc/kubernetes/auth/webhook-config.yaml",
    "--authentication-token-webhook-config-file=/etc/kubernetes/auth/authn-webhook-config.yaml"]
  volumes := [
    ⟨"pki", .secret (named shard "-pki") []⟩,
    ⟨"auth-config", .configMap (named shard "-authz-config")⟩,
    ⟨"requestheader-ca", .configMap (named shard "-requestheader-ca")⟩,
    ⟨"etcd-client-cert", .secret (named shard "-etcd-client-cert") []⟩,
    ⟨"tmp", .emptyDir⟩,
    ⟨"var-run-kubernetes", .emptyDir⟩]
  volumeMounts := [
    ⟨"pki", "/etc/kubernetes/pki"⟩,
    ⟨"auth-config", "/etc/kubernetes/auth"⟩,
    ⟨"requestheader-ca", "/etc/kubernetes/requestheader"⟩,
    ⟨"etcd-client-cert", "/etc/kubernetes/etcd-client"⟩,
    ⟨"tmp", "/tmp"⟩,
    ⟨"var-run-kubernetes", "/var/run/kubernetes"⟩]

/-! ## The metrics collector -/

/-- `OTelMetricsPort`. -/
def oTelMetricsPort : Nat := 9187

/-- `OTelHealthPort`. -/
def oTelHealthPort : Nat := 13133

/-- `otelCACertFile`. -/
def otelCACertFile : String := "/etc/otel/tls/ca.crt"

/-- `net.JoinHostPort`. -/
def joinHostPort (host port : String) : String :=
  if ':' ∈ host.toList then s!"[{host}]:{port}" else s!"{host}:{port}"

/-- An interval of the collector, or what is used when the spec has none. -/
def intervalOr (interval : String) (default : String) : String :=
  if interval = "" then default else interval

/-- `BuildOTelCollectorConfig`. -/
def buildOTelCollectorConfig (params : OTelConnectionParams) : String :=
  let monitoring := shard.spec.storage.monitoring.getD { enabled := false }
  let collectionInterval := intervalOr monitoring.collectionInterval "30s"
  let bloatInterval := intervalOr monitoring.bloatInterval "5m"
  let endpoint := joinHostPort params.host params.port
  s!"extensions:
  health_check:
    endpoint: \"0.0.0.0:{oTelHealthPort}\"

receivers:
  postgresql:
    endpoint: {endpoint}
    username: $\x7benv:PG_USERNAME\x7d
    password: $\x7benv:PG_PASSWORD\x7d
    databases: [{params.dbName}]
    collection_interval: {collectionInterval}
    tls:
      insecure: false
      ca_file: {otelCACertFile}

  sqlquery:
    driver: postgres
    datasource: \"host='{params.host}' port='{params.port}' user='$\x7benv:PG_USERNAME\x7d' password='$\x7benv:PG_PASSWORD\x7d' dbname='{params.dbName}' sslmode=verify-full sslrootcert={otelCACertFile}\"
    collection_interval: {bloatInterval}
    queries:
      - sql: |
          CREATE EXTENSION IF NOT EXISTS pgstattuple;
          SET statement_timeout = '60s';
          SELECT
            coalesce(sum(dead_tuple_len + approx_free_space), 0)::bigint AS reclaimable_bytes,
            coalesce(sum(approx_tuple_len), 0)::bigint AS live_bytes,
            coalesce(sum(table_len), 0)::bigint AS total_table_bytes
          FROM (
            SELECT (pgstattuple_approx(oid)).*
            FROM pg_class
            WHERE relkind IN ('r', 't')
              AND relnamespace NOT IN (
                SELECT oid FROM pg_namespace
                WHERE nspname IN ('pg_catalog', 'information_schema')
              )
          ) t
        metrics:
          - metric_name: postgresql.tables_reclaimable_bytes
            value_column: reclaimable_bytes
            data_type: gauge
            value_type: int
            description: \"Approximate bytes reclaimable by VACUUM FULL across all user tables (dead tuples + free space)\"
          - metric_name: postgresql.tables_live_bytes
            value_column: live_bytes
            data_type: gauge
            value_type: int
            description: \"Approximate bytes used by live tuples across all user tables\"
          - metric_name: postgresql.tables_size_bytes
            value_column: total_table_bytes
            data_type: gauge
            value_type: int
            description: \"Total bytes on disk across all user tables (live + dead + free)\"

exporters:
  prometheus:
    endpoint: \"0.0.0.0:{oTelMetricsPort}\"

service:
  extensions: [health_check]
  pipelines:
    metrics:
      receivers: [postgresql, sqlquery]
      exporters: [prometheus]
"

/-- The template of `BuildOTelCollectorDeployment`. -/
def buildOTelCollectorDeployment (credentialSecretName configMapName : String)
    (params : OTelConnectionParams) : PodTemplate where
  args := ["--config=/etc/otel/config.yaml"]
  env := [
    ⟨"PG_USERNAME", ⟨credentialSecretName, "POSTGRES_USER"⟩⟩,
    ⟨"PG_PASSWORD", ⟨credentialSecretName, "POSTGRES_PASSWORD"⟩⟩]
  volumes := [
    ⟨"otel-config", .configMap configMapName⟩,
    ⟨"tls-ca", .secret params.caCertSecretName
      [⟨if params.caCertSecretKey = "" then "ca.crt" else params.caCertSecretKey, "ca.crt"⟩]⟩]
  volumeMounts := [⟨"otel-config", "/etc/otel"⟩, ⟨"tls-ca", "/etc/otel/tls"⟩]

/-! ## ServiceMonitors -/

/-- The endpoint of `BuildKineServiceMonitor`. -/
def buildKineServiceMonitor : Endpoint where
  tlsConfig := some
    { ca := ⟨named shard "-kine-serving-cert", caCertKey⟩
      serverName := s!"{kineServiceName shard}.{shard.spec.targetNamespace}.svc" }

/-- The endpoint of `BuildSecondaryServiceMonitor`. -/
def buildSecondaryServiceMonitor : Endpoint where
  tlsConfig := some
    { ca := ⟨named shard "-pki", caCertKey⟩
      serverName := s!"{secondaryServiceName shard}.{shard.spec.targetNamespace}.svc" }
  authorization := some ⟨metricsReaderTokenSecretName shard, "token"⟩

/-- The endpoint of `BuildPostgreSQLMetricsServiceMonitor`. -/
def buildPostgreSQLMetricsServiceMonitor : Endpoint := {}

/-! ## Components -/

/-- The specification of a component that only the shard decides.  The StatefulSet
also depends on the live one, and the collector on the connection to its database. -/
def Component.spec : Component → ObjectSpec
  | .kineDeployment => .deployment (buildKineDeployment shard)
  | .secondaryDeployment => .deployment (buildSecondaryDeployment shard)
  | .kineServiceMonitor => .serviceMonitor (buildKineServiceMonitor shard)
  | .secondaryServiceMonitor => .serviceMonitor (buildSecondaryServiceMonitor shard)
  | .postgreSQLServiceMonitor => .serviceMonitor buildPostgreSQLMetricsServiceMonitor
  | component =>
      match Certs.certificate shard component, Certs.issuer shard component with
      | some spec, _ => .certificate spec
      | none, some spec => .issuer spec
      | none, none => .other

end KubeShard.Resources
