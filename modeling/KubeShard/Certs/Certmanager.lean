import KubeShard.Resources.Names

/-!
# Issuers and Certificates

The specifications that `operator/internal/certs/certmanager.go` gives its Issuers and
Certificates.  Of a Certificate what decides about names and trust is kept: the
Secret cert-manager writes, the DNS names and the Issuer.
-/

namespace KubeShard.Certs

open Apishard Resources

/-! ## Names -/

def caSecretName (shard : APIShard) : String := named shard "-ca-keypair"
def selfSignedIssuerName (shard : APIShard) : String := named shard "-selfsigned"
def kineCASecretName (shard : APIShard) : String := named shard "-kine-ca-keypair"
def kineSelfSignedIssuerName (shard : APIShard) : String := named shard "-kine-selfsigned"
def kineServingSecretName (shard : APIShard) : String := named shard "-kine-serving-cert"
def postgreSQLSelfSignedIssuerName (shard : APIShard) : String :=
  named shard "-postgresql-selfsigned"
def postgreSQLServingSecretName (shard : APIShard) : String :=
  named shard "-postgresql-serving-cert"
def etcdClientSecretName (shard : APIShard) : String := named shard "-etcd-client-cert"

/-! ## Specifications -/

section builders

variable (shard : APIShard)

/-- `BuildCACertificate`. -/
def buildCACertificate : CertificateSpec where
  secretName := caSecretName shard
  isCA := true
  issuerRef := selfSignedIssuerName shard

/-- `BuildKineCACertificate`. -/
def buildKineCACertificate : CertificateSpec where
  secretName := kineCASecretName shard
  isCA := true
  issuerRef := kineSelfSignedIssuerName shard

/-- `BuildPostgreSQLCACertificate`. -/
def buildPostgreSQLCACertificate : CertificateSpec where
  secretName := postgreSQLCASecretName shard
  isCA := true
  issuerRef := postgreSQLSelfSignedIssuerName shard

/-- `buildServingCert`. -/
def buildServingCert (secretName svcName issuerName : String) : CertificateSpec where
  secretName := secretName
  dnsNames := [
    svcName,
    s!"{svcName}.{shard.spec.targetNamespace}",
    s!"{svcName}.{shard.spec.targetNamespace}.svc",
    s!"{svcName}.{shard.spec.targetNamespace}.svc.cluster.local"]
  issuerRef := issuerName

/-- `BuildServingCertificate`. -/
def buildServingCertificate : CertificateSpec :=
  buildServingCert shard (pkiSecretName shard) (secondaryServiceName shard) (issuerName shard)

/-- `BuildKineServingCertificate`. -/
def buildKineServingCertificate : CertificateSpec :=
  buildServingCert shard (kineServingSecretName shard) (kineServiceName shard)
    (kineCAIssuerName shard)

/-- `BuildPostgreSQLServingCertificate`. -/
def buildPostgreSQLServingCertificate : CertificateSpec :=
  buildServingCert shard (postgreSQLServingSecretName shard) (postgreSQLServiceName shard)
    (postgreSQLCAIssuerName shard)

/-- `BuildEtcdClientCertificate`. -/
def buildEtcdClientCertificate : CertificateSpec where
  secretName := etcdClientSecretName shard
  issuerRef := kineCAIssuerName shard

/-- `BuildAdminClientCertificate`. -/
def buildAdminClientCertificate : CertificateSpec where
  secretName := adminClientSecretName shard
  issuerRef := issuerName shard

end builders

/-- The specification of a component that is a Certificate. -/
def certificate (shard : APIShard) : Component → Option CertificateSpec
  | .caCertificate => some (buildCACertificate shard)
  | .servingCertificate => some (buildServingCertificate shard)
  | .adminClientCertificate => some (buildAdminClientCertificate shard)
  | .kineCACertificate => some (buildKineCACertificate shard)
  | .kineServingCertificate => some (buildKineServingCertificate shard)
  | .etcdClientCertificate => some (buildEtcdClientCertificate shard)
  | .postgreSQLCACertificate => some (buildPostgreSQLCACertificate shard)
  | .postgreSQLServingCertificate => some (buildPostgreSQLServingCertificate shard)
  | _ => none

/-- The specification of a component that is an Issuer. -/
def issuer (shard : APIShard) : Component → Option IssuerSpec
  | .selfSignedIssuer | .kineSelfSignedIssuer | .postgreSQLSelfSignedIssuer => some .selfSigned
  | .caIssuer => some (.ca (caSecretName shard))
  | .kineCAIssuer => some (.ca (kineCASecretName shard))
  | .postgreSQLCAIssuer => some (.ca (postgreSQLCASecretName shard))
  | _ => none

/-- The Secret that cert-manager writes for a Certificate. -/
def certificateSecret (shard : APIShard) (component : Component) : Option ObjectKey :=
  (certificate shard component).map fun spec =>
    ⟨.secret, shard.spec.targetNamespace, spec.secretName⟩

end KubeShard.Certs
