import KubeShard.Apishard.Storage
import KubeShard.Program.Base64

/-!
# Certificates, access and workloads

The steps of a pass between the storage backend and the APIServices: the target
namespace, cert-manager resources, the configuration and accounts of the
secondary API server, its Deployment, and the resources for metrics scraping.
-/

namespace KubeShard.Apishard

open Resources

variable (r : Reconciler) (ctx : Schedule) (shard : APIShard)

/-- `ensureNamespace`: applied without ownership. -/
def ensureNamespace : Pass Unit :=
  callAPI ctx .ensureNamespace (applyObject { key := ⟨.namespace, "", shard.spec.targetNamespace⟩ })

/-! ## cert-manager -/

/-- `buildCertResources`. -/
def buildCertResources : List Component :=
  [.selfSignedIssuer, .caCertificate, .caIssuer, .servingCertificate, .adminClientCertificate,
    .kineSelfSignedIssuer, .kineCACertificate, .kineCAIssuer, .kineServingCertificate,
    .etcdClientCertificate] ++
  if shard.spec.storage.type = .inClusterPostgreSQL then
    [.postgreSQLSelfSignedIssuer, .postgreSQLCACertificate, .postgreSQLCAIssuer,
      .postgreSQLServingCertificate]
  else
    []

/-- The kind of a cert-manager resource as an error names it. -/
def certKindName (component : Component) : String :=
  if component.kind = .issuer then "Issuer" else "Certificate"

/-- The loop of `reconcileCertManager`. -/
def applyCertResources : List Component → Pass Unit
  | [] => pure ()
  | resource :: rest => do
      (applyOwned ctx shard resource).mapError
        (·.wrap s!"applying {certKindName resource} {resource.name shard}")
      applyCertResources rest

/-- `reconcileCertManager`. -/
def reconcileCertManager : Pass Unit :=
  applyCertResources ctx shard (buildCertResources shard)

/-! ## Access -/

/-- `reconcileAuthConfig`. -/
def reconcileAuthConfig : Pass Unit :=
  (applyOwned ctx shard .authConfig).mapError (·.wrap "auth config configmap")

/-- `reconcileSecondaryServiceAccount`. -/
def reconcileSecondaryServiceAccount : Pass Unit :=
  (applyOwned ctx shard .secondaryServiceAccount).mapError (·.wrap "secondary service account")

/-- `reconcileAuthDelegator`. -/
def reconcileAuthDelegator : Pass Unit :=
  (applyOwned ctx shard .authDelegator).mapError (·.wrap "auth-delegator ClusterRoleBinding")

/-- `reconcileAPIServerSCC`. -/
def reconcileAPIServerSCC : Pass Unit := do
  if !r.sccAvailable then
    pure ()
  else
    (applyOwned ctx shard .apiServerSCC).mapError (·.wrap "apiserver SCC")
    (applyOwned ctx shard .apiServerSCCClusterRole).mapError (·.wrap "apiserver SCC cluster role")
    (applyOwned ctx shard .apiServerSCCRoleBinding).mapError (·.wrap "apiserver SCC role binding")

/-- `reconcileRequestHeaderCA`: the names the secondary accepts. -/
def reconcileRequestHeaderCA : Pass (List String) := do
  let sourceCM ← (getObject ctx .getAuthenticationConfigMap
    ⟨.configMap, "kube-system", "extension-apiserver-authentication"⟩).mapError
    (·.wrap "reading extension-apiserver-authentication from kube-system")
  let caData := sourceCM.entry "requestheader-client-ca-file"
  if caData = "" then
    throw (.errorf
      "requestheader-client-ca-file not found in extension-apiserver-authentication ConfigMap")
  else
    let raw := sourceCM.entry "requestheader-allowed-names"
    match if raw = "" then .ok [] else r.unmarshalStrings raw with
    | .error failure => throw (failure.wrap "parsing requestheader-allowed-names")
    | .ok allowedNames =>
        (applyOwned ctx shard .requestHeaderCA
          [("requestheader-client-ca-file", caData)]).mapError
          (·.wrap "requestheader CA configmap")
        pure (if allowedNames = [] then ["front-proxy-client"] else allowedNames)

/-! ## The admin kubeconfig -/

/-- `base64.StdEncoding.EncodeToString` of the bytes of a Secret's entry. -/
def encodeToString (text : String) : String :=
  String.ofList (Base64.encode text.toUTF8.toList)

/-- The kubeconfig of the secondary's administrator. -/
def adminKubeconfig (caData clientCert clientKey : String) : String :=
  let serverURL := s!"https://{shard.name}-apiserver.{shard.spec.targetNamespace}.svc"
  let caBase64 := encodeToString caData
  let certBase64 := encodeToString clientCert
  let keyBase64 := encodeToString clientKey
  s!"apiVersion: v1\nkind: Config\nclusters:\n- name: secondary\n  cluster:\n    server: {serverURL}\n    certificate-authority-data: {caBase64}\nusers:\n- name: admin\n  user:\n    client-certificate-data: {certBase64}\n    client-key-data: {keyBase64}\ncontexts:\n- name: default\n  context:\n    cluster: secondary\n    user: admin\ncurrent-context: default\n"

/-- The end of `reconcileAdminKubeconfig`, once all credentials are there. -/
def applyAdminKubeconfig (caData clientCert clientKey : String) : Pass Unit := do
  (applyOwned ctx shard .adminKubeconfig
    [("kubeconfig", adminKubeconfig shard caData clientCert clientKey),
      ("tls.crt", clientCert), ("tls.key", clientKey)]).mapError
    (·.wrap "admin kubeconfig secret")
  modify fun state => { state with
    status.connectionSecret := some
      ⟨Component.adminKubeconfig.name shard, shard.spec.targetNamespace⟩ }

/-- `reconcileAdminKubeconfig`: nothing happens until the Secrets it needs exist
and are filled. -/
def reconcileAdminKubeconfig : Pass Unit := do
  match ← (getObject ctx .getPKI (targetKey shard .secret (pkiSecretName shard))).attempt with
  | .error failure =>
      if failure.isNotFound then pure () else throw (failure.wrap "reading PKI secret")
  | .ok pkiSecret =>
      let caData := pkiSecret.entry caCertKey
      if caData = "" then
        pure ()
      else
        match ← (getObject ctx .getAdminClient
          (targetKey shard .secret (adminClientSecretName shard))).attempt with
        | .error failure =>
            if failure.isNotFound then pure ()
            else throw (failure.wrap "reading admin client cert secret")
        | .ok adminSecret =>
            let clientCert := adminSecret.entry "tls.crt"
            let clientKey := adminSecret.entry "tls.key"
            if clientCert = "" ∨ clientKey = "" then
              pure ()
            else
              applyAdminKubeconfig ctx shard caData clientCert clientKey

/-! ## The secondary and its metrics -/

/-- `reconcileSecondary`. -/
def reconcileSecondary : Pass Unit := do
  (applyOwned ctx shard .secondaryDeployment).mapError (·.wrap "secondary deployment")
  if buildPDB shard.spec.secondaryReplicas then
    (applyOwned ctx shard .secondaryPDB).mapError (·.wrap "secondary pdb")
  (applyOwned ctx shard .secondaryService).mapError (·.wrap "secondary service")

/-- The end of `reconcileMetrics`, after the ServiceMonitor of Kine. -/
def reconcileDiscovery : Pass Unit := do
  (applyOwned ctx shard .secondaryServiceMonitor).mapError (·.wrap "apiserver service monitor")
  (applyOwned ctx shard .prometheusDiscoveryRole).mapError (·.wrap "prometheus discovery role")
  (applyOwned ctx shard .prometheusDiscoveryRoleBinding).mapError
    (·.wrap "prometheus discovery role binding")

/-- `reconcileMetrics`.  A cluster that no longer serves ServiceMonitors ends it
without an error. -/
def reconcileMetrics : Pass Unit := do
  if !r.serviceMonitorAvailable then
    pure ()
  else
    (applyOwned ctx shard .metricsReaderServiceAccount).mapError
      (·.wrap "metrics-reader service account")
    (applyOwned ctx shard .metricsReaderTokenSecret).mapError
      (·.wrap "metrics-reader token secret")
    (callAPI ctx .applyMetricsClusterRole
      (applyObject { key := ⟨.clusterRole, "", "kube-shard-metrics-reader"⟩ })).mapError
      (·.wrap "metrics-reader cluster role")
    (applyOwned ctx shard .metricsReaderClusterRoleBinding).mapError
      (·.wrap "metrics-reader cluster role binding")
    match ← (applyOwned ctx shard .kineServiceMonitor).attempt with
    | .error failure =>
        if failure.isNoMatch || failure.isNotFound then pure ()
        else throw (failure.wrap "kine service monitor")
    | .ok () => reconcileDiscovery ctx shard

end KubeShard.Apishard
