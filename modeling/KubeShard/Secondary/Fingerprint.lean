import KubeShard.Program.Framing
import KubeShard.Secondary.Cache

/-!
# What a fingerprint tells about credentials

`fingerprint` writes four byte strings to one hash, with a zero byte between each two.
Secrets hold arbitrary bytes, zero bytes among them, so the model of this part is over byte
strings.  The cache compares fingerprints: what they do not tell apart, it does not notice.
-/

namespace KubeShard.Secondary

open Framing Apishard

/-- The credential material of a `ClientConfig`, byte for byte as the Secrets hold it. -/
structure Credentials where
  caCert : List UInt8 := []
  clientCert : List UInt8 := []
  clientKey : List UInt8 := []
  token : List UInt8 := []
  deriving DecidableEq, Repr

namespace Credentials

/-- The bytes `fingerprint` feeds to SHA-256, in the order of its writes. -/
def written (credentials : Credentials) : List UInt8 :=
  credentials.caCert ++ [0] ++ credentials.clientCert ++ [0] ++ credentials.clientKey ++ [0] ++
    credentials.token

/-- The four byte strings of the credentials. -/
def fields (credentials : Credentials) : List (List UInt8) :=
  [credentials.caCert, credentials.clientCert, credentials.clientKey, credentials.token]

theorem written_eq_framed (credentials : Credentials) :
    credentials.written = framed 0 credentials.fields := by
  simp [written, fields, framed, List.intercalate_cons_cons]

theorem fields_injective : Function.Injective fields := by
  intro first second same
  cases first
  cases second
  simpa [fields] using same

/-- Four byte strings are the fields of some credentials. -/
theorem exists_fields {strings : List (List UInt8)} (four : strings.length = 4) :
    ∃ credentials : Credentials, credentials.fields = strings := by
  rcases strings with _ | ⟨caCert, _ | ⟨clientCert, _ | ⟨clientKey, _ | ⟨token, _ | _⟩⟩⟩⟩ <;>
    simp only [List.length_nil, List.length_cons] at four <;> try omega
  exact ⟨⟨caCert, clientCert, clientKey, token⟩, rfl⟩

/-- No byte string has a zero byte in it. -/
def ZeroFree (credentials : Credentials) : Prop :=
  ∀ field ∈ credentials.fields, 0 ∉ field

instance (credentials : Credentials) : Decidable credentials.ZeroFree :=
  inferInstanceAs (Decidable (∀ field ∈ credentials.fields, 0 ∉ field))

/-- Credentials without a zero byte are the only ones that are written like them. -/
theorem eq_of_written_eq {credentials other : Credentials} (zeroFree : credentials.ZeroFree)
    (same : other.written = credentials.written) : other = credentials := by
  rw [written_eq_framed, written_eq_framed] at same
  exact fields_injective (eq_of_framed_eq zeroFree rfl same)

/-- Credentials with a zero byte are not. -/
theorem exists_written_eq {credentials : Credentials} {field : List UInt8}
    (isField : field ∈ credentials.fields) (inside : 0 ∈ field) :
    ∃ other : Credentials, other.written = credentials.written ∧ other ≠ credentials := by
  have several : 2 ≤ credentials.fields.length := Nat.le_add_left 2 2
  obtain ⟨strings, four, same, different⟩ := exists_reframed several isField inside
  obtain ⟨other, rfl⟩ := exists_fields four
  refine ⟨other, ?_, fun equal => different (congrArg fields equal)⟩
  rw [written_eq_framed, written_eq_framed, same]

/-- No other credentials are written like these if and only if these have no zero byte. -/
theorem written_determines_iff (credentials : Credentials) :
    (∀ other : Credentials, other.written = credentials.written →
      other.caCert = credentials.caCert ∧ other.clientCert = credentials.clientCert ∧
        other.clientKey = credentials.clientKey ∧ other.token = credentials.token) ↔
      credentials.ZeroFree := by
  constructor
  · intro determined field isField inside
    obtain ⟨other, same, different⟩ := exists_written_eq isField inside
    obtain ⟨sameCA, sameCert, sameKey, sameToken⟩ := determined other same
    apply different
    cases other
    simp_all
  · intro zeroFree other same
    obtain rfl := eq_of_written_eq zeroFree same
    exact ⟨rfl, rfl, rfl, rfl⟩

end Credentials

/-! ## Configurations as byte strings -/

/-- The bytes of a text. -/
def bytesOf (text : String) : List UInt8 := text.toByteArray.data.toList

@[simp] theorem bytesOf_append (first second : String) :
    bytesOf (first ++ second) = bytesOf first ++ bytesOf second := by
  simp [bytesOf, String.toByteArray_append]

theorem bytesOf_zero : bytesOf "\x00" = [0] := by decide

namespace ClientConfig

/-- The credential material of a configuration. -/
def credentials (cfg : ClientConfig) : Credentials where
  caCert := bytesOf cfg.caCert
  clientCert := bytesOf cfg.clientCert
  clientKey := bytesOf cfg.clientKey
  token := bytesOf cfg.token

/-- What a configuration is hashed from are the bytes its credentials are written as. -/
theorem written_credentials (cfg : ClientConfig) :
    cfg.credentials.written = bytesOf cfg.material := by
  simp [Credentials.written, credentials, material, bytesOf_zero]

/-- With a hash that has no collisions, configurations of one fingerprint have the same
credentials as soon as those of one of them have no zero byte. -/
theorem credentials_eq_of_fingerprint {sha256 : String → String}
    (collisionFree : Function.Injective sha256) {cfg other : ClientConfig}
    (zeroFree : cfg.credentials.ZeroFree)
    (same : other.fingerprint sha256 = cfg.fingerprint sha256) :
    other.credentials = cfg.credentials := by
  apply Credentials.eq_of_written_eq zeroFree
  rw [written_credentials, written_credentials, collisionFree same]

end ClientConfig

/-- In every interleaving of calls and invalidations, under a hash without collisions: a
call with credentials that have no zero byte gets a client that was built for its host and
with its credentials. -/
theorem run_serves_own_credentials {sha256 : String → String}
    (collisionFree : Function.Injective sha256) (steps : List Step) {id : Nat} {key : String}
    {cfg : ClientConfig} {client : Client} (zeroFree : cfg.credentials.ZeroFree)
    (returned : .returned id key cfg (.ok client) ∈
      (run (System.step sha256) {} steps).history) :
    client.config.host = cfg.host ∧ client.config.credentials = cfg.credentials := by
  have sound : Sound sha256 (run (System.step sha256) {} steps) :=
    run_invariant (P := Sound sha256) (fun _ step sound => sound.step step) .initial steps
  obtain ⟨sameHost, sameFingerprint⟩ := (sound.returned id key cfg client returned).1
  exact ⟨sameHost, cfg.credentials_eq_of_fingerprint collisionFree zeroFree sameFingerprint⟩

/-! ## A rotation that is not seen -/

/-- The cache answers with the client it has built for a configuration of the same host and
the same bytes. -/
theorem getOrCreate_reuses (sha256 : String → String) (key : String) {old new : ClientConfig}
    (sameHost : new.host = old.host) (same : new.material = old.material) :
    ((({} : ClientProvider).getOrCreate sha256 key old none).2.getOrCreate sha256 key new
      none).1 = .ok ⟨0, old⟩ := by
  let entry : ClientEntry := ⟨key, ⟨0, old⟩, old.host, old.fingerprint sha256, false⟩
  have created : ({} : ClientProvider).getOrCreate sha256 key old none =
      (.ok ⟨0, old⟩, { clients := Store.empty.insert entry, built := [⟨0, old⟩] }) := rfl
  have stored : (Store.empty.insert entry : Store ClientEntry.key).find? key = some entry :=
    Store.find?_insert_self .empty entry
  have hit : cached sha256 (some entry) new = some ⟨0, old⟩ := by
    simp [cached, ClientEntry.serves, ClientConfig.fingerprint, entry, sameHost, same]
  rw [created, ClientProvider.getOrCreate, stored, hit]

/-- The connection of a WebhookSync to its secondary. -/
def rotatedConnection : SecondaryConnection where
  serviceName := "a-apiserver"
  serviceNamespace := "target"
  servicePort := 443
  authSecret := "auth"
  caSecret := "ca"

/-- A Secret of the target namespace. -/
def secretOf (name : String) (data : List (String × String)) : Object where
  key := ⟨.secret, "target", name⟩
  data := data

/-- A PEM block. -/
def pem (type : String) (lines : List String) : String :=
  s!"-----BEGIN {type}-----\n" ++ "\n".intercalate lines ++ s!"\n-----END {type}-----\n"

/-- A private key made for this example. -/
def exampleKey : String :=
  pem "PRIVATE KEY" [
    "MC4CAQAwBQYDK2VwBCIEIP38nAxlrdvuzrAaWu4cgGyv5PCXh/NgqYYzAtTcUxeI"]

/-- A self-signed certificate of that key for the name a. -/
def certificateOfA : String :=
  pem "CERTIFICATE" [
    "MIHAMHQCAQEwBQYDK2VwMAwxCjAIBgNVBAMMAWEwIBcNMjYxMTE2MTYyNTU1WhgP",
    "MjEyNjEwMjMxNjI1NTVaMAwxCjAIBgNVBAMMAWEwKjAFBgMrZXADIQDqGzxe7X3h",
    "8kH46ZpAZCuV9YERLcISnxliolpwEHb5AjAFBgMrZXADQQA8ASGNmWhCAbovNAuF",
    "cAsbi1vRODA84PJZdsDUEd6nNYxuN7KrCzUI4IVfD3B4bJvGbSwi8lVmjRCV8ZYA",
    "7loE"]

/-- A self-signed certificate of that key for the name b. -/
def certificateOfB : String :=
  pem "CERTIFICATE" [
    "MIHAMHQCAQEwBQYDK2VwMAwxCjAIBgNVBAMMAWIwIBcNMjYxMTE2MTYyNTU1WhgP",
    "MjEyNjEwMjMxNjI1NTVaMAwxCjAIBgNVBAMMAWIwKjAFBgMrZXADIQDqGzxe7X3h",
    "8kH46ZpAZCuV9YERLcISnxliolpwEHb5AjAFBgMrZXADQQDuerxIN1CrrNwRcSfR",
    "p7ppN2hwWqaBWBzYEsmNL3tyx6sq/Dn4qCnbYJXZRJMvgeU5Q2ccCIFaq3+9Rng6",
    "idEO"]

/-- The CA Secret loses what stands behind a zero byte, which a PEM parser does not see, and
the client certificate is replaced by another one of the same key: `BuildClient` reads other
credentials from the Secrets, and the cache answers with the client it built for the old
certificate, whatever the hash is. -/
theorem rotated_certificate_unseen :
    ∃ old new : ClientConfig,
      buildClientConfig rotatedConnection
          (.ok (secretOf "ca" [("ca.crt", certificateOfA ++ "\x00" ++ certificateOfB)]))
          (.ok (secretOf "auth" [("tls.crt", certificateOfA), ("tls.key", exampleKey)])) =
        .ok old ∧
      buildClientConfig rotatedConnection
          (.ok (secretOf "ca" [("ca.crt", certificateOfA)]))
          (.ok (secretOf "auth" [("tls.crt", certificateOfB ++ "\x00" ++ certificateOfA),
            ("tls.key", exampleKey)])) = .ok new ∧
      new.credentials.written = old.credentials.written ∧
      new.credentials.caCert ≠ old.credentials.caCert ∧
      new.credentials.clientCert ≠ old.credentials.clientCert ∧
      ∀ sha256 : String → String,
        ((({} : ClientProvider).getOrCreate sha256 "target/sync" old none).2.getOrCreate sha256
          "target/sync" new none).1 = .ok ⟨0, old⟩ := by
  let config (caCert clientCert : String) : ClientConfig :=
    { host := "https://a-apiserver.target.svc:443", caCert, clientCert, clientKey := exampleKey }
  have same : (config certificateOfA (certificateOfB ++ "\x00" ++ certificateOfA)).material =
      (config (certificateOfA ++ "\x00" ++ certificateOfB) certificateOfA).material := by
    simp [config, ClientConfig.material, String.append_assoc]
  refine ⟨_, _, rfl, rfl, ?_, ?_, ?_, fun sha256 => getOrCreate_reuses sha256 _ rfl same⟩
  · rw [ClientConfig.written_credentials, ClientConfig.written_credentials]
    exact congrArg bytesOf same
  · show bytesOf certificateOfA ≠ bytesOf (certificateOfA ++ "\x00" ++ certificateOfB)
    simp [bytesOf_zero]
  · show bytesOf (certificateOfB ++ "\x00" ++ certificateOfA) ≠ bytesOf certificateOfA
    rw [bytesOf_append, ne_eq, List.append_left_eq_self, bytesOf_append, bytesOf_zero]
    simp

end KubeShard.Secondary
