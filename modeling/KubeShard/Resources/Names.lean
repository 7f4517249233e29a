import KubeShard.Apishard.Types

/-!
# Names and identities of the applied objects

The name helpers of `operator/internal/resources` and `operator/internal/certs`,
and the objects a pass applies through the tracking client.  Each of them is a
`Component` of the shard; its kind, scope and name are those its builder gives
it.  The name of the collector ConfigMap carries a hash of its content, so that
component is identified together with the name.
-/

namespace KubeShard.Resources

open Apishard

/-- `fmt.Sprintf("%s<suffix>", shard.Name)`. -/
def named (shard : APIShard) (suffix : String) : String := shard.name ++ suffix

/-! ## `operator/internal/resources` -/

def kineDeploymentName (shard : APIShard) : String := named shard "-kine"
def kineServiceName (shard : APIShard) : String := named shard "-kine"
def secondaryServiceAccountName (shard : APIShard) : String := named shard "-apiserver"
def secondaryDeploymentName (shard : APIShard) : String := named shard "-apiserver"
def secondaryServiceName (shard : APIShard) : String := named shard "-apiserver"
def postgreSQLStatefulSetName (shard : APIShard) : String := named shard "-postgresql"
def postgreSQLServiceName (shard : APIShard) : String := named shard "-postgresql"
def postgreSQLSecretName (shard : APIShard) : String := named shard "-postgresql-credentials"
def postgreSQLInitConfigMapName (shard : APIShard) : String := named shard "-postgresql-init"
def oTelCollectorDeploymentName (shard : APIShard) : String := named shard "-postgresql-metrics"
def oTelCollectorServiceName (shard : APIShard) : String := named shard "-postgresql-metrics"
def oTelCollectorConfigMapBaseName (shard : APIShard) : String :=
  named shard "-postgresql-metrics-config"
def metricsReaderServiceAccountName (shard : APIShard) : String := named shard "-metrics-reader"
def metricsReaderTokenSecretName (shard : APIShard) : String :=
  named shard "-metrics-reader-token"
def prometheusDiscoveryRoleName (shard : APIShard) : String :=
  named shard "-prometheus-discovery"
def apiServerSCCName (shard : APIShard) : String := named shard "-apiserver"
def apiServerSCCClusterRoleName (shard : APIShard) : String := named shard "-apiserver-scc"

/-- `SecondaryEndpoint`. -/
def secondaryEndpoint (shard : APIShard) : String :=
  s!"https://{secondaryServiceName shard}.{shard.spec.targetNamespace}.svc"

/-! ## `operator/internal/certs` -/

def issuerName (shard : APIShard) : String := named shard "-ca-issuer"
def caCertificateName (shard : APIShard) : String := named shard "-front-proxy-ca"
def servingCertificateName (shard : APIShard) : String := named shard "-serving-cert"
def pkiSecretName (shard : APIShard) : String := named shard "-pki"
def kineCAIssuerName (shard : APIShard) : String := named shard "-kine-ca-issuer"
def kineCACertificateName (shard : APIShard) : String := named shard "-kine-ca"
def kineServingCertificateName (shard : APIShard) : String := named shard "-kine-serving"
def postgreSQLCAIssuerName (shard : APIShard) : String := named shard "-postgresql-ca-issuer"
def postgreSQLCACertificateName (shard : APIShard) : String := named shard "-postgresql-ca"
def postgreSQLCASecretName (shard : APIShard) : String := named shard "-postgresql-ca-keypair"
def postgreSQLServingCertificateName (shard : APIShard) : String :=
  named shard "-postgresql-serving"
def etcdClientCertificateName (shard : APIShard) : String := named shard "-etcd-client"
def adminClientCertificateName (shard : APIShard) : String := named shard "-admin-client"
def adminClientSecretName (shard : APIShard) : String := named shard "-admin-client-cert"

/-! ## Components -/

/-- The objects a pass applies through the tracking client.  The collector
ConfigMap comes with the name its content hashes to. -/
inductive Component where
  | kineDeployment
  | kinePDB
  | kineService
  | postgreSQLSecret
  | postgreSQLInitConfigMap
  | postgreSQLStatefulSet
  | postgreSQLService
  | oTelCredentialSecret
  | oTelCollectorConfigMap (name : String)
  | oTelCollectorDeployment
  | oTelCollectorService
  | postgreSQLServiceMonitor
  | selfSignedIssuer
  | caCertificate
  | caIssuer
  | servingCertificate
  | adminClientCertificate
  | kineSelfSignedIssuer
  | kineCACertificate
  | kineCAIssuer
  | kineServingCertificate
  | etcdClientCertificate
  | postgreSQLSelfSignedIssuer
  | postgreSQLCACertificate
  | postgreSQLCAIssuer
  | postgreSQLServingCertificate
  | authConfig
  | secondaryServiceAccount
  | authDelegator
  | apiServerSCC
  | apiServerSCCClusterRole
  | apiServerSCCRoleBinding
  | requestHeaderCA
  | adminKubeconfig
  | secondaryDeployment
  | secondaryPDB
  | secondaryService
  | metricsReaderServiceAccount
  | metricsReaderTokenSecret
  | metricsReaderClusterRoleBinding
  | kineServiceMonitor
  | secondaryServiceMonitor
  | prometheusDiscoveryRole
  | prometheusDiscoveryRoleBinding
  deriving DecidableEq, Repr

namespace Component

/-- The kind of a component. -/
def kind : Component → ObjectKind
  | kineDeployment | secondaryDeployment | oTelCollectorDeployment => .deployment
  | postgreSQLStatefulSet => .statefulSet
  | kineService | secondaryService | postgreSQLService | oTelCollectorService => .service
  | postgreSQLSecret | oTelCredentialSecret | adminKubeconfig | metricsReaderTokenSecret => .secret
  | postgreSQLInitConfigMap | oTelCollectorConfigMap _ | authConfig | requestHeaderCA => .configMap
  | secondaryServiceAccount | metricsReaderServiceAccount => .serviceAccount
  | apiServerSCCClusterRole => .clusterRole
  | authDelegator | metricsReaderClusterRoleBinding => .clusterRoleBinding
  | prometheusDiscoveryRole => .role
  | prometheusDiscoveryRoleBinding | apiServerSCCRoleBinding => .roleBinding
  | selfSignedIssuer | caIssuer | kineSelfSignedIssuer | kineCAIssuer
  | postgreSQLSelfSignedIssuer | postgreSQLCAIssuer => .issuer
  | caCertificate | servingCertificate | adminClientCertificate | kineCACertificate
  | kineServingCertificate | etcdClientCertificate | postgreSQLCACertificate
  | postgreSQLServingCertificate => .certificate
  | kinePDB | secondaryPDB => .podDisruptionBudget
  | postgreSQLServiceMonitor | kineServiceMonitor | secondaryServiceMonitor => .serviceMonitor
  | apiServerSCC => .securityContextConstraints

/-- The name of a component. -/
def name (shard : APIShard) : Component → String
  | kineDeployment | kinePDB => kineDeploymentName shard
  | kineService => kineServiceName shard
  | postgreSQLSecret => postgreSQLSecretName shard
  | postgreSQLInitConfigMap => postgreSQLInitConfigMapName shard
  | postgreSQLStatefulSet => postgreSQLStatefulSetName shard
  | postgreSQLService => postgreSQLServiceName shard
  | oTelCredentialSecret => named shard "-postgresql-metrics-credentials"
  | oTelCollectorConfigMap name => name
  | oTelCollectorDeployment => oTelCollectorDeploymentName shard
  | oTelCollectorService => oTelCollectorServiceName shard
  | postgreSQLServiceMonitor => named shard "-postgresql-metrics"
  | selfSignedIssuer => named shard "-selfsigned"
  | caCertificate => caCertificateName shard
  | caIssuer => issuerName shard
  | servingCertificate => servingCertificateName shard
  | adminClientCertificate => adminClientCertificateName shard
  | kineSelfSignedIssuer => named shard "-kine-selfsigned"
  | kineCACertificate => kineCACertificateName shard
  | kineCAIssuer => kineCAIssuerName shard
  | kineServingCertificate => kineServingCertificateName shard
  | etcdClientCertificate => etcdClientCertificateName shard
  | postgreSQLSelfSignedIssuer => named shard "-postgresql-selfsigned"
  | postgreSQLCACertificate => postgreSQLCACertificateName shard
  | postgreSQLCAIssuer => postgreSQLCAIssuerName shard
  | postgreSQLServingCertificate => postgreSQLServingCertificateName shard
  | authConfig => named shard "-authz-config"
  | secondaryServiceAccount => secondaryServiceAccountName shard
  | authDelegator => named shard "-auth-delegator"
  | apiServerSCC => apiServerSCCName shard
  | apiServerSCCClusterRole | apiServerSCCRoleBinding => apiServerSCCClusterRoleName shard
  | requestHeaderCA => named shard "-requestheader-ca"
  | adminKubeconfig => named shard "-admin-kubeconfig"
  | secondaryDeployment | secondaryPDB => secondaryDeploymentName shard
  | secondaryService => secondaryServiceName shard
  | metricsReaderServiceAccount => metricsReaderServiceAccountName shard
  | metricsReaderTokenSecret => metricsReaderTokenSecretName shard
  | metricsReaderClusterRoleBinding => named shard "-metrics-reader"
  | kineServiceMonitor => named shard "-kine-metrics"
  | secondaryServiceMonitor => named shard "-apiserver-metrics"
  | prometheusDiscoveryRole | prometheusDiscoveryRoleBinding => prometheusDiscoveryRoleName shard

/-- The identity of a component. -/
def key (shard : APIShard) (component : Component) : ObjectKey where
  kind := component.kind
  namespace_ :=
    match component.kind with
    | .clusterRole | .clusterRoleBinding | .securityContextConstraints => ""
    | _ => shard.spec.targetNamespace
  name := component.name shard

end Component

end KubeShard.Resources
