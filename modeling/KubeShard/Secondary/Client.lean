import KubeShard.Apishard.Health

/-!
# Clients for secondary API servers

`operator/internal/secondary/client.go`: the configuration of a client, the cache of
clients, and the three places that ask it for a client.  `client.New` is not part of
this code: it fails, or it builds a client from the REST configuration it is given.
A client is known by the order in which it was built and keeps the configuration it
was built from.
-/

namespace KubeShard.Secondary

open Apishard Resources Prog

/-! ## Configurations -/

/-- `ClientConfig`. -/
structure ClientConfig where
  host : String
  caCert : String := ""
  token : String := ""
  clientCert : String := ""
  clientKey : String := ""
  deriving DecidableEq, Repr

/-- What `rest.Config` is filled with. -/
structure RESTConfig where
  host : String
  caData : String := ""
  insecure : Bool := false
  bearerToken : String := ""
  certData : String := ""
  keyData : String := ""
  deriving DecidableEq, Repr

/-- The bytes `fingerprint` hashes. -/
def ClientConfig.material (cfg : ClientConfig) : String :=
  cfg.caCert ++ "\x00" ++ cfg.clientCert ++ "\x00" ++ cfg.clientKey ++ "\x00" ++ cfg.token

/-- `fingerprint`, over the hash `hex.EncodeToString(sha256.Sum(…))`. -/
def ClientConfig.fingerprint (sha256 : String → String) (cfg : ClientConfig) : String :=
  sha256 cfg.material

/-- `buildRESTConfig`. -/
def buildRESTConfig (cfg : ClientConfig) : RESTConfig :=
  let tls : RESTConfig :=
    if cfg.caCert ≠ "" then { host := cfg.host, caData := cfg.caCert }
    else { host := cfg.host, insecure := true }
  if cfg.token ≠ "" then { tls with bearerToken := cfg.token }
  else if cfg.clientCert ≠ "" ∧ cfg.clientKey ≠ "" then
    { tls with certData := cfg.clientCert, keyData := cfg.clientKey }
  else tls

/-! ## The cache -/

/-- A `client.Client`. -/
structure Client where
  id : Nat
  config : ClientConfig
  deriving DecidableEq, Repr

/-- `clientEntry`, with the key it is cached under. -/
structure ClientEntry where
  key : String
  client : Client
  host : String
  fingerprint : String
  pinned : Bool := false
  deriving DecidableEq, Repr

/-- `ClientProvider`, and the clients built so far. -/
structure ClientProvider where
  clients : Store ClientEntry.key := .empty
  built : List Client := []

section cache

variable (sha256 : String → String) (provider : ClientProvider)

/-- The condition under which `GetOrCreate` returns a cached client. -/
def ClientEntry.serves (entry : ClientEntry) (cfg : ClientConfig) : Bool :=
  entry.pinned || (entry.host = cfg.host && entry.fingerprint = cfg.fingerprint sha256)

/-- The client of the entry, if it serves the configuration. -/
def cached (entry : Option ClientEntry) (cfg : ClientConfig) : Option Client :=
  (entry.filter fun entry => entry.serves sha256 cfg).map ClientEntry.client

/-- `client.New` and the store of its client in the cache; `failure` is the error
`client.New` returns. -/
def ClientProvider.create (key : String) (cfg : ClientConfig) (failure : Option ApiError) :
    Except ApiError Client × ClientProvider :=
  match failure with
  | some failure => (.error (failure.wrap s!"creating client for shard {key}"), provider)
  | none =>
      let client : Client := ⟨provider.built.length, cfg⟩
      (.ok client,
        { clients := provider.clients.insert
            { key := key, client := client, host := cfg.host,
              fingerprint := cfg.fingerprint sha256 }
          built := provider.built ++ [client] })

/-- The section of `GetOrCreate` under the write lock. -/
def ClientProvider.lockedGetOrCreate (key : String) (cfg : ClientConfig)
    (failure : Option ApiError) : Except ApiError Client × ClientProvider :=
  match cached sha256 (provider.clients.find? key) cfg with
  | some client => (.ok client, provider)
  | none => provider.create sha256 key cfg failure

/-- `GetOrCreate` when nobody else takes the lock between its two sections. -/
def ClientProvider.getOrCreate (key : String) (cfg : ClientConfig)
    (failure : Option ApiError) : Except ApiError Client × ClientProvider :=
  match cached sha256 (provider.clients.find? key) cfg with
  | some client => (.ok client, provider)
  | none => provider.lockedGetOrCreate sha256 key cfg failure

/-- `Invalidate`. -/
def ClientProvider.invalidate (key : String) : ClientProvider :=
  { provider with clients := provider.clients.erase key }

end cache

/-! ## The entry points -/

/-- The CA certificate `BuildClient` finds in a Secret. -/
def caCertOf (caSecret : Object) : String :=
  if caSecret.entry "ca.crt" = "" then caSecret.entry "tls.crt" else caSecret.entry "ca.crt"

/-- The host of `BuildClient`. -/
def connectionHost (conn : SecondaryConnection) : String :=
  let port := if conn.servicePort = 0 then 443 else conn.servicePort
  s!"https://{conn.serviceName}.{conn.serviceNamespace}.svc:{port}"

/-- What `BuildClient` makes of the answers to its two reads. -/
def buildClientConfig (conn : SecondaryConnection) (ca auth : Except ApiError Object) :
    Except ApiError ClientConfig :=
  match ca with
  | .error failure => .error (failure.wrap s!"reading CA secret {conn.caSecret}")
  | .ok caSecret =>
      if caCertOf caSecret = "" then
        .error (.errorf s!"CA secret {conn.caSecret} has no ca.crt or tls.crt key")
      else
        match auth with
        | .error failure => .error (failure.wrap s!"reading auth secret {conn.authSecret}")
        | .ok authSecret =>
            if authSecret.entry "tls.crt" ≠ "" ∧ authSecret.entry "tls.key" ≠ "" then
              .ok { host := connectionHost conn, caCert := caCertOf caSecret
                    clientCert := authSecret.entry "tls.crt"
                    clientKey := authSecret.entry "tls.key" }
            else if authSecret.entry "token" ≠ "" then
              .ok { host := connectionHost conn, caCert := caCertOf caSecret
                    token := authSecret.entry "token" }
            else
              .error (.errorf (s!"auth secret {conn.authSecret} has no client cert " ++
                "(tls.crt/tls.key) or bearer token"))

/-- The configuration both entry points of the APIShard reconciler fill in. -/
def adminConfig (shard : APIShard) (pkiSecret adminSecret : Object) : ClientConfig where
  host := secondaryEndpoint shard
  caCert := pkiSecret.entry caCertKey
  clientCert := adminSecret.entry "tls.crt"
  clientKey := adminSecret.entry "tls.key"

/-- What `verifySecondaryAuth` makes of the Secrets it has read. -/
def verifyConfig (shard : APIShard) (pkiSecret adminSecret : Object) : Option ClientConfig :=
  let cfg := adminConfig shard pkiSecret adminSecret
  if cfg.caCert = "" ∨ cfg.clientCert = "" ∨ cfg.clientKey = "" then none else some cfg

/-- A pass that finds the credentials accepted has read a configuration for its client. -/
theorem verifyConfig_of_verified {ctx : Schedule} {shard : APIShard} {state after : State}
    (ran : exec (Apishard.verifySecondaryAuth ctx shard) state = (.ok true, after)) :
    ∃ pkiSecret adminSecret,
      state.cluster.objects.find? (targetKey shard .secret (pkiSecretName shard)) =
        some pkiSecret ∧
      state.cluster.objects.find? (targetKey shard .secret (adminClientSecretName shard)) =
        some adminSecret ∧
      verifyConfig shard pkiSecret adminSecret = some
        (adminConfig shard pkiSecret adminSecret) := by
  obtain ⟨pki, middle, read, ran⟩ := exec_bind_eq_ok.mp ran
  cases pki with
  | error failure => cases ran
  | ok pkiSecret =>
      obtain ⟨_, foundPKI, rfl⟩ := getObject_ok (exec_attempt_eq_ok.mp read)
      obtain ⟨admin, middle, read, ran⟩ := exec_bind_eq_ok.mp ran
      cases admin with
      | error failure => cases ran
      | ok adminSecret =>
          obtain ⟨_, foundAdmin, rfl⟩ := getObject_ok (exec_attempt_eq_ok.mp read)
          refine ⟨pkiSecret, adminSecret, foundPKI, foundAdmin, ?_⟩
          dsimp only at ran
          split at ran
          · cases ran
          · next filled => exact if_neg filled

/-- What `syncCRDsToSecondary` makes of the answers to its two reads. -/
def syncConfig (shard : APIShard) (pki admin : Except ApiError Object) :
    Except ApiError ClientConfig :=
  if secondaryEndpoint shard = "" then
    .error (.errorf "secondary endpoint not available yet")
  else
    match pki with
    | .error failure => .error (failure.wrap "reading PKI secret for CRD sync")
    | .ok pkiSecret =>
        match admin with
        | .error failure => .error (failure.wrap "reading admin client cert for CRD sync")
        | .ok adminSecret => .ok (adminConfig shard pkiSecret adminSecret)

/-- The places that ask the cache for a client. -/
inductive EntryPoint where
  | buildClient (conn : SecondaryConnection) (cacheKey : String)
  | verifySecondaryAuth (shard : APIShard)
  | syncCRDsToSecondary (shard : APIShard)

namespace EntryPoint

/-- The key an entry point uses in the cache. -/
def key : EntryPoint → String
  | .buildClient _ cacheKey => cacheKey
  | .verifySecondaryAuth shard => shard.name ++ "-verify"
  | .syncCRDsToSecondary shard => shard.name

/-- The configuration an entry point asks a client for, given the answers to its
reads of the CA (or PKI) Secret and of the auth (or admin) Secret. -/
def config (ca auth : Except ApiError Object) : EntryPoint → Option ClientConfig
  | .buildClient conn _ => (buildClientConfig conn ca auth).toOption
  | .verifySecondaryAuth shard => do verifyConfig shard (← ca.toOption) (← auth.toOption)
  | .syncCRDsToSecondary shard => (syncConfig shard ca auth).toOption

/-- How an entry point obtains its client; it fails where there is none. -/
def obtain (sha256 : String → String) (entry : EntryPoint) (ca auth : Except ApiError Object)
    (failure : Option ApiError) (provider : ClientProvider) : Option Client × ClientProvider :=
  match entry.config ca auth with
  | none => (none, provider)
  | some cfg =>
      let (answer, after) := provider.getOrCreate sha256 entry.key cfg failure
      (answer.toOption, after)

end EntryPoint

/-! ## Verified connections -/

/-- The server is verified, and the client can authenticate itself. -/
def RESTConfig.Verified (rest : RESTConfig) : Prop :=
  rest.caData ≠ "" ∧ rest.insecure = false ∧
    (rest.certData ≠ "" ∧ rest.keyData ≠ "" ∨ rest.bearerToken ≠ "")

/-- A configuration with a CA and with credentials. -/
def ClientConfig.Complete (cfg : ClientConfig) : Prop :=
  cfg.caCert ≠ "" ∧ (cfg.clientCert ≠ "" ∧ cfg.clientKey ≠ "" ∨ cfg.token ≠ "")

theorem verified_iff_complete (cfg : ClientConfig) :
    (buildRESTConfig cfg).Verified ↔ cfg.Complete := by
  unfold buildRESTConfig RESTConfig.Verified ClientConfig.Complete
  by_cases ca : cfg.caCert = ""
  · by_cases token : cfg.token = ""
    · by_cases pair : cfg.clientCert ≠ "" ∧ cfg.clientKey ≠ "" <;> simp [ca, token, pair]
    · simp [ca, token]
  · by_cases token : cfg.token = ""
    · by_cases pair : cfg.clientCert ≠ "" ∧ cfg.clientKey ≠ "" <;> simp [ca, token, pair]
    · simp [ca, token]

/-- `GetOrCreate` builds a client of the configuration it was given, or none. -/
theorem built_getOrCreate {sha256 : String → String} {provider : ClientProvider} {key : String}
    {cfg : ClientConfig} {failure : Option ApiError} {client : Client}
    (built : client ∈ (provider.getOrCreate sha256 key cfg failure).2.built)
    (fresh : client ∉ provider.built) : client.config = cfg := by
  unfold ClientProvider.getOrCreate at built
  split at built
  · exact absurd built fresh
  · unfold ClientProvider.lockedGetOrCreate at built
    split at built
    · exact absurd built fresh
    · unfold ClientProvider.create at built
      split at built
      · exact absurd built fresh
      · rcases List.mem_append.mp built with old | new
        · exact absurd old fresh
        · rw [List.mem_singleton.mp new]

theorem complete_of_buildClientConfig {conn : SecondaryConnection}
    {ca auth : Except ApiError Object} {cfg : ClientConfig}
    (isConfig : buildClientConfig conn ca auth = .ok cfg) : cfg.Complete := by
  unfold buildClientConfig at isConfig
  split at isConfig
  · cases isConfig
  · split at isConfig
    · cases isConfig
    · next hasCA =>
        split at isConfig
        · cases isConfig
        · split at isConfig
          · next pair =>
              cases isConfig
              exact ⟨hasCA, .inl pair⟩
          · split at isConfig
            · next token =>
                cases isConfig
                exact ⟨hasCA, .inr token⟩
            · cases isConfig

theorem complete_of_verifyConfig {shard : APIShard} {pkiSecret adminSecret : Object}
    {cfg : ClientConfig} (isConfig : verifyConfig shard pkiSecret adminSecret = some cfg) :
    cfg.Complete := by
  simp only [verifyConfig, not_or, Option.ite_none_left_eq_some] at isConfig
  obtain ⟨⟨hasCA, hasCert, hasKey⟩, same⟩ := isConfig
  cases same
  exact ⟨hasCA, .inl ⟨hasCert, hasKey⟩⟩

theorem secondaryEndpoint_ne_empty (shard : APIShard) : secondaryEndpoint shard ≠ "" := by
  intro empty
  simp only [secondaryEndpoint, String.append_eq_empty_iff] at empty
  exact absurd empty.1.1.1.1 (by decide)

namespace EntryPoint

/-- What an entry point leaves to others: the Secrets of the APIShard reconciler must
be filled when CRDs are copied. -/
def Filled (ca auth : Except ApiError Object) : EntryPoint → Prop
  | .syncCRDsToSecondary _ => ∀ pkiSecret adminSecret, ca = .ok pkiSecret →
      auth = .ok adminSecret → pkiSecret.entry caCertKey ≠ "" ∧
        adminSecret.entry "tls.crt" ≠ "" ∧ adminSecret.entry "tls.key" ≠ ""
  | _ => True

theorem config_sync (shard : APIShard) (pkiSecret adminSecret : Object) :
    (syncCRDsToSecondary shard).config (.ok pkiSecret) (.ok adminSecret) =
      some (adminConfig shard pkiSecret adminSecret) := by
  simp only [config, syncConfig, secondaryEndpoint_ne_empty, if_false]
  rfl

/-- Exactly then every configuration an entry point comes to is complete. -/
theorem complete_iff_filled (entry : EntryPoint) (ca auth : Except ApiError Object) :
    (∀ cfg, entry.config ca auth = some cfg → cfg.Complete) ↔ entry.Filled ca auth := by
  cases entry with
  | buildClient conn cacheKey =>
      refine ⟨fun _ => trivial, fun _ cfg isConfig => ?_⟩
      simp only [config] at isConfig
      cases built : buildClientConfig conn ca auth with
      | error failure =>
          rw [built] at isConfig
          cases isConfig
      | ok other =>
          rw [built] at isConfig
          cases isConfig
          exact complete_of_buildClientConfig built
  | verifySecondaryAuth shard =>
      refine ⟨fun _ => trivial, fun _ cfg isConfig => ?_⟩
      simp only [config, Option.bind_eq_bind, Option.bind_eq_some_iff] at isConfig
      obtain ⟨pkiSecret, _, adminSecret, _, isConfig⟩ := isConfig
      exact complete_of_verifyConfig isConfig
  | syncCRDsToSecondary shard =>
      constructor
      · rintro complete pkiSecret adminSecret rfl rfl
        obtain ⟨hasCA, pair | token⟩ := complete _ (config_sync shard pkiSecret adminSecret)
        · exact ⟨hasCA, pair⟩
        · exact absurd rfl token
      · intro filled cfg isConfig
        cases ca with
        | error failure =>
            simp [config, syncConfig, secondaryEndpoint_ne_empty, Except.toOption] at isConfig
        | ok pkiSecret =>
            cases auth with
            | error failure =>
                simp [config, syncConfig, secondaryEndpoint_ne_empty, Except.toOption] at isConfig
            | ok adminSecret =>
                rw [config_sync] at isConfig
                cases isConfig
                obtain ⟨hasCA, pair⟩ := filled pkiSecret adminSecret rfl rfl
                exact ⟨hasCA, .inl pair⟩

/-- An entry point builds no client but a verified one, and fails without building any
where it has no configuration for that, whatever is cached and whatever `client.New`
answers. -/
def BuildsVerified (sha256 : String → String) (entry : EntryPoint)
    (ca auth : Except ApiError Object) : Prop :=
  ∀ failure provider,
    (∀ client ∈ (entry.obtain sha256 ca auth failure provider).2.built,
      client ∉ provider.built → (buildRESTConfig client.config).Verified) ∧
    ((¬∃ cfg, entry.config ca auth = some cfg ∧ (buildRESTConfig cfg).Verified) →
      entry.obtain sha256 ca auth failure provider = (none, provider))

/-- The entry points of the sync controllers and the check of the credentials build
verified clients only, whatever is in the Secrets.  The copying of CRDs does so exactly
if the Secrets it has read are filled. -/
theorem buildsVerified_iff (sha256 : String → String) (entry : EntryPoint)
    (ca auth : Except ApiError Object) :
    entry.BuildsVerified sha256 ca auth ↔ entry.Filled ca auth := by
  rw [← complete_iff_filled]
  constructor
  · intro builds cfg isConfig
    rw [← verified_iff_complete]
    -- With nothing cached, a client is built of this very configuration.
    have fresh : entry.obtain sha256 ca auth none {} = (some ⟨0, cfg⟩,
        { clients := Store.empty.insert
            ⟨entry.key, ⟨0, cfg⟩, cfg.host, cfg.fingerprint sha256, false⟩
          built := [⟨0, cfg⟩] }) := by
      rw [obtain, isConfig]
      rfl
    have verified := (builds none {}).1 ⟨0, cfg⟩
    rw [fresh] at verified
    exact verified List.mem_cons_self List.not_mem_nil
  · intro complete failure provider
    unfold obtain
    cases isConfig : entry.config ca auth with
    | none => exact ⟨fun client built new => absurd built new, fun _ => rfl⟩
    | some cfg =>
        have verified := (verified_iff_complete cfg).mpr (complete cfg isConfig)
        refine ⟨?_, fun unverified => absurd ⟨cfg, rfl, verified⟩ unverified⟩
        intro client built new
        rw [built_getOrCreate built new]
        exact verified

/-- A PKI Secret without a CA certificate: the client that copies CRDs trusts any server
and presents the certificate of the administrator. -/
theorem sync_builds_insecure :
    let shard : APIShard :=
      { name := "a", uid := 0, generation := 1, resourceVersion := 0
        spec := { targetNamespace := "target", apiGroups := [], storage := { type := .sqlite } } }
    let pkiSecret : Object := { key := ⟨.secret, "target", "a-pki"⟩ }
    let adminSecret : Object :=
      { key := ⟨.secret, "target", "a-admin-client-cert"⟩
        data := [("tls.crt", "CERT"), ("tls.key", "KEY")] }
    ∃ client, ((syncCRDsToSecondary shard).obtain id (.ok pkiSecret) (.ok adminSecret) none {}).1 =
        some client ∧
      buildRESTConfig client.config =
        { host := "https://a-apiserver.target.svc", insecure := true
          certData := "CERT", keyData := "KEY" } := by
  refine ⟨⟨0, ?_⟩, ?_⟩
  · exact { host := "https://a-apiserver.target.svc", clientCert := "CERT", clientKey := "KEY" }
  · decide +kernel

end EntryPoint

end KubeShard.Secondary
