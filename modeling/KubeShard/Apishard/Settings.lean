import KubeShard.Apishard.Injection
import KubeShard.Apishard.Stack

/-!
# What clients read out of their settings

The host a client dials and the file of its CA stand in an argument, a URL, a connection
string or a configuration.  Here they are read from there, as the client reads them, for
shards whose name and namespace are labels.
-/

namespace KubeShard.Apishard

open Resources

/-! ## Readers -/

/-- The value of the first argument that starts with the flag. -/
def flagValue (flag : String) (args : List String) : Option String :=
  args.findSome? fun arg => (Text.after flag.toList arg.toList).map String.ofList

/-- The argument after the flag. -/
def nextArgument (flag : String) : List String → Option String
  | arg :: next :: rest => if arg = flag then some next else nextArgument flag (next :: rest)
  | _ => none

/-- The directory of a path and the name in it. -/
def File.ofPath (path : String) : Option File :=
  (Url.cutLast '/' path.toList).map fun parts => ⟨.ofList parts.1, .ofList parts.2⟩

/-- The host of a URL. -/
def urlHost (library : Url.Library) (url : String) : Option String :=
  (Url.hostOf library url.toList).map String.ofList

/-- The host of a connection string, read as `ParsePostgreSQLDSN` reads it. -/
def dsnHost (library : Url.Library) (dsn : String) : Option String :=
  (parsePostgreSQLDSN library dsn).toOption.map OTelConnectionParams.host

/-- The value of a parameter of a connection string. -/
def dsnParameter (key dsn : String) : Option String :=
  (Url.parameter key.toList dsn.toList).map String.ofList

/-- The host of the PostgreSQL receiver in the configuration of the collector. -/
def receiverHost (config : String) : Option String :=
  (Yaml.valueUnder "  postgresql:".toList "    endpoint: ".toList config.toList).map fun endpoint =>
    .ofList (Url.splitHostPort endpoint).1

/-- The CA file of the receiver. -/
def receiverCAFile (config : String) : Option String :=
  (Yaml.valueOf "      ca_file: ".toList config.toList).map String.ofList

/-- What the data source in the configuration assigns to a keyword, the last time it does. -/
def datasourceValue (keyword config : String) : Option String := do
  let parts ← (Yaml.valueOf "    datasource: ".toList config.toList).bind Yaml.scalar
  let assigned ← Conninfo.parse .blank parts.1
  let value ← assigned.reverse.lookup keyword.toList
  return .ofList value

/-! ## Hosts of Services -/

/-- The host of a Service. -/
def serviceHost (name namespace_ : String) : String := s!"{name}.{namespace_}.svc"

/-- The characters of a DNS name. -/
def domainChar (char : Char) : Bool := labelChar char || char == '.'

/-- Nothing that reads a host treats a character of a DNS name specially. -/
theorem of_domainChar {char : Char} (isDomain : domainChar char = true) :
    Url.hostChar char = true ∧ char ≠ '[' ∧ char ≠ ':' ∧ Nested.Untouched char ∧ char ≠ '\n' := by
  have cases : char.isAlphanum = true ∨ char = '-' ∨ char = '.' := by
    rw [domainChar, labelChar, Bool.or_eq_true, Bool.or_eq_true, Bool.or_eq_true, beq_iff_eq,
      beq_iff_eq] at isDomain
    rcases isDomain with ((lower | digit) | hyphen) | dot
    · exact .inl (Text.isAlphanum_of_isLower lower)
    · exact .inl (Text.isAlphanum_of_isDigit digit)
    · exact .inr (.inl hyphen)
    · exact .inr (.inr dot)
  rcases cases with alphanumeric | rfl | rfl
  · refine ⟨by rw [Url.hostChar, alphanumeric, Bool.true_or], ?_, ?_,
      untouched_of_isAlphanum alphanumeric, ?_⟩
    all_goals
      rintro rfl
      exact absurd alphanumeric (by decide)
  all_goals decide

section hosts

variable {library : Url.Library} {shard : APIShard}

/-- The text around a label and a namespace is one of a DNS name. -/
theorem domainChar_named (labelled : Labelled shard) {suffix domain : String}
    (plainSuffix : suffix.toList.all domainChar = true)
    (plainDomain : domain.toList.all domainChar = true) :
    ∀ char ∈ (named shard suffix ++ "." ++ shard.spec.targetNamespace ++ domain).toList,
      domainChar char = true := by
  have label {char : Char} (isLabel : labelChar char = true) : domainChar char = true := by
    rw [domainChar, isLabel, Bool.true_or]
  simp only [named, String.toList_append, List.forall_mem_append]
  exact ⟨⟨⟨⟨fun char membership => label (labelled.name char membership),
    List.all_eq_true.mp plainSuffix⟩, List.all_iff_forall_prop.mp (by decide)⟩,
    fun char membership => label (labelled.namespace_ char membership)⟩,
    List.all_eq_true.mp plainDomain⟩

theorem domainChar_serviceHost (labelled : Labelled shard) {suffix : String}
    (plain : suffix.toList.all domainChar = true) :
    ∀ char ∈ (serviceHost (named shard suffix) shard.spec.targetNamespace).toList,
      domainChar char = true :=
  domainChar_named labelled plain (by decide)

/-- The host of a URL with a DNS name. -/
theorem urlHost_https {host rest : String} (domain : ∀ char ∈ host.toList, domainChar char = true)
    (isPort : rest = "" ∨ ∃ port, rest = ":" ++ port ∧ port.toList.all Char.isDigit = true) :
    urlHost library ("https://" ++ (host ++ rest)) = some host := by
  have isHost : Url.hostOf library ("https://" ++ (host ++ rest)).toList = some host.toList := by
    rw [String.toList_append, String.toList_append]
    apply Url.hostOf_https
    · intro char membership
      obtain ⟨isHostChar, noBracket, noColon, -⟩ := of_domainChar (domain char membership)
      exact ⟨isHostChar, noBracket, noColon⟩
    · rcases isPort with rfl | ⟨port, rfl, digits⟩
      · exact .inl rfl
      · refine .inr ⟨port.toList, ?_, List.all_eq_true.mp digits⟩
        rw [String.toList_append]
        rfl
  rw [urlHost, isHost, Option.map_some, String.ofList_toList]

/-! ## Arguments -/

/-- The one argument of the secondary that depends on the shard. -/
theorem args_secondary : (buildSecondaryDeployment shard).args =
    ("--etcd-servers=" ++ ("https://" ++ (etcdHost shard ++ (":" ++ "2379")))) ::
      (buildSecondaryDeployment shard).args.tail := by
  have isArgument : s!"--etcd-servers=https://{etcdHost shard}:{kinePort}" =
      "--etcd-servers=" ++ ("https://" ++ (etcdHost shard ++ (":" ++ "2379"))) := by
    show "--etcd-servers=https://" ++ etcdHost shard ++ ":" ++ "2379" = _
    rw [show "--etcd-servers=https://" = "--etcd-servers=" ++ "https://" from rfl]
    simp only [String.append_assoc]
  rw [← isArgument]
  rfl

/-- The other flags of the secondary are found after it. -/
theorem flagValue_secondary {flag : String}
    (other : ∀ value, Text.after flag.toList ("--etcd-servers=".toList ++ value) = none) :
    flagValue flag (buildSecondaryDeployment shard).args =
      flagValue flag (buildSecondaryDeployment shard).args.tail := by
  rw [args_secondary, flagValue, List.findSome?_cons, String.toList_append, other]
  rfl

theorem path_etcdCAFile : flagValue "--etcd-cafile=" (buildSecondaryDeployment shard).args =
    some "/etc/kubernetes/etcd-client/ca.crt" := by
  rw [flagValue_secondary fun value => rfl]
  rfl

theorem path_secondaryCertificate :
    flagValue "--tls-cert-file=" (buildSecondaryDeployment shard).args =
      some "/etc/kubernetes/pki/tls.crt" := by
  rw [flagValue_secondary fun value => rfl]
  rfl

theorem path_kineCertificate :
    nextArgument "--server-cert-file" (buildKineDeployment shard).args =
      some "/etc/kine/tls/tls.crt" := by
  have other : Resources.kineEndpoint shard ≠ "--server-cert-file" := by
    unfold Resources.kineEndpoint
    split <;> decide
  rw [buildKineDeployment, nextArgument, if_neg (by decide), nextArgument, if_neg other,
    nextArgument, if_neg (by decide), nextArgument, if_neg (by decide), nextArgument, if_pos rfl]

/-! ## URLs -/

/-- `--etcd-servers` names the host of Kine. -/
theorem host_etcd (labelled : Labelled shard) :
    (flagValue "--etcd-servers=" (buildSecondaryDeployment shard).args).bind (urlHost library) =
      some (etcdHost shard) := by
  have isValue : flagValue "--etcd-servers=" (buildSecondaryDeployment shard).args =
      some ("https://" ++ (etcdHost shard ++ (":" ++ "2379"))) := by
    rw [args_secondary, flagValue, List.findSome?_cons, String.toList_append, Text.after_append,
      Option.map_some, String.ofList_toList]
  have domain : ∀ char ∈ (etcdHost shard).toList, domainChar char = true := by
    have isHost : etcdHost shard =
        named shard "-kine" ++ "." ++ shard.spec.targetNamespace ++ ".svc.cluster.local" := rfl
    rw [isHost]
    exact domainChar_named labelled (by decide) (by decide)
  rw [isValue, Option.bind_some]
  exact urlHost_https domain (.inr ⟨"2379", rfl, by decide⟩)

/-- `SecondaryEndpoint` names the host of the secondary. -/
theorem host_secondaryEndpoint (labelled : Labelled shard) :
    urlHost library (secondaryEndpoint shard) =
      some (serviceHost (secondaryServiceName shard) shard.spec.targetNamespace) := by
  have isEndpoint : secondaryEndpoint shard = "https://" ++
      (serviceHost (secondaryServiceName shard) shard.spec.targetNamespace ++ "") := by
    show "https://" ++ secondaryServiceName shard ++ "." ++ shard.spec.targetNamespace ++ ".svc" =
      "https://" ++ (secondaryServiceName shard ++ "." ++ shard.spec.targetNamespace ++ ".svc" ++ "")
    simp only [String.append_assoc, String.append_empty]
  rw [isEndpoint]
  exact urlHost_https (domainChar_serviceHost labelled (by decide)) (.inl rfl)

/-- The connection of the sync objects names the host of the secondary. -/
theorem host_syncConnection (labelled : Labelled shard) :
    urlHost library (Secondary.connectionHost (syncConnection shard)) =
      some (serviceHost (secondaryServiceName shard) shard.spec.targetNamespace) := by
  have isEndpoint : Secondary.connectionHost (syncConnection shard) = "https://" ++
      (serviceHost (secondaryServiceName shard) shard.spec.targetNamespace ++ (":" ++ "443")) := by
    show "https://" ++ (shard.name ++ "-apiserver") ++ "." ++ shard.spec.targetNamespace ++
      ".svc:" ++ "443" = "https://" ++ ((shard.name ++ "-apiserver") ++ "." ++
        shard.spec.targetNamespace ++ ".svc" ++ (":" ++ "443"))
    rw [show ".svc:" = ".svc" ++ ":" from rfl]
    simp only [String.append_assoc]
  rw [isEndpoint]
  exact urlHost_https (domainChar_serviceHost labelled (by decide)) (.inr ⟨"443", rfl, by decide⟩)

/-! ## The endpoint of Kine -/

theorem endpointHost_eq : endpointHost shard =
    serviceHost (postgreSQLServiceName shard) shard.spec.targetNamespace := by
  show shard.name ++ "-postgresql." ++ shard.spec.targetNamespace ++ ".svc" =
    shard.name ++ "-postgresql" ++ "." ++ shard.spec.targetNamespace ++ ".svc"
  rw [show "-postgresql." = "-postgresql" ++ "." from rfl, ← String.append_assoc]

theorem host_kineEndpoint (labelled : Labelled shard) {password : String}
    (unescaped : Unescaped password) :
    dsnHost library (kineEndpoint shard password) =
      some (serviceHost (postgreSQLServiceName shard) shard.spec.targetNamespace) := by
  have round : RoundTrips library shard password := roundTrips_of_unescaped labelled unescaped
  rw [dsnHost, round, ← endpointHost_eq]
  rfl

theorem file_kineEndpoint (labelled : Labelled shard) {password : String}
    (unescaped : Unescaped password) :
    dsnParameter "sslrootcert" (kineEndpoint shard password) = some "/etc/kine/pg-ca/ca.crt" := by
  have inner := inner_endpointAuthority labelled unescaped
  have plain : ∀ char ∈ "postgres://".toList ++ endpointAuthority shard password ++ "/kine".toList,
      char ≠ '#' ∧ char ≠ '?' := by
    rw [List.forall_mem_append, List.forall_mem_append]
    refine ⟨⟨?_, fun char membership =>
      ⟨(inner char membership).2.1, (inner char membership).2.2.1⟩⟩, ?_⟩
    all_goals exact List.all_iff_forall_prop.mp (by decide)
  have isEndpoint : (kineEndpoint shard password).toList =
      "postgres://".toList ++ endpointAuthority shard password ++ "/kine".toList ++
        '?' :: endpointQuery := by
    rw [toList_kineEndpoint, endpointRest_eq]
    simp only [List.append_assoc, List.cons_append]
    rfl
  rw [dsnParameter, isEndpoint, Url.parameter_eq plain (by decide)]
  decide

/-! ## The configuration of the collector -/

/-- The connection parameters of the collector for the in-cluster database. -/
def inClusterParams (shard : APIShard) : OTelConnectionParams :=
  { inClusterPostgreSQLConnectionParams shard with
    caCertSecretName := postgreSQLCASecretName shard
    caCertSecretKey := caCertKey }

section collector

variable (labelled : Labelled shard) (interval : '\n' ∉ (collectionInterval shard).toList)
include labelled interval

theorem unbroken_inCluster : Unbroken shard (inClusterParams shard) where
  host := fun membership =>
    (of_domainChar (domainChar_serviceHost labelled (by decide) '\n' membership)).2.2.2.2 rfl
  port := show '\n' ∉ (toString postgreSQLPort).toList by decide
  dbName := show '\n' ∉ nameKine.toList by decide
  interval

theorem host_receiver :
    receiverHost (buildOTelCollectorConfig shard (inClusterParams shard)) =
      some (serviceHost (postgreSQLServiceName shard) shard.spec.targetNamespace) := by
  have plain : ∀ char ∈ (inClusterParams shard).host.toList, char ≠ '[' ∧ char ≠ ':' := by
    intro char membership
    have isDomain := domainChar_serviceHost labelled (by decide) char membership
    exact ⟨(of_domainChar isDomain).2.1, (of_domainChar isDomain).2.2.1⟩
  have isEndpoint : (joinHostPort (inClusterParams shard).host (inClusterParams shard).port).toList =
      (inClusterParams shard).host.toList ++ ':' :: "5432".toList := by
    rw [joinHostPort, if_neg fun membership => (plain ':' membership).2 rfl]
    show (_ ++ ":" ++ "5432").toList = _
    rw [String.toList_append, String.toList_append, List.append_assoc]
    rfl
  rw [receiverHost, valueUnder_endpoint (unbroken_inCluster labelled interval), Option.map_some,
    isEndpoint, Url.splitHostPort_eq (fun membership => (plain '[' membership).1 rfl) digits_port,
    String.ofList_toList]
  rfl

theorem file_receiver :
    receiverCAFile (buildOTelCollectorConfig shard (inClusterParams shard)) =
      some otelCACertFile := by
  rw [receiverCAFile, valueOf_caFile (unbroken_inCluster labelled interval), Option.map_some,
    String.ofList_toList]

/-- The data source assigns what the template has. -/
theorem datasourceValue_eq (keyword : String) :
    datasourceValue keyword (buildOTelCollectorConfig shard (inClusterParams shard)) =
      ((assignments (inClusterParams shard).host.toList "5432".toList "kine".toList
        templateUser.toList templatePassword.toList otelCACertFile.toList).reverse.lookup
          keyword.toList).map String.ofList := by
  have plainHost : ∀ char ∈ (inClusterParams shard).host.toList, Nested.Untouched char :=
    fun char membership =>
      (of_domainChar (domainChar_serviceHost labelled (by decide) char membership)).2.2.2.1
  have plainName : ∀ char ∈ "kine".toList, Nested.Untouched char :=
    List.all_iff_forall_prop.mp (by decide)
  obtain ⟨content, read, parsed⟩ :=
    Nested.connection_eq_some.mp (connection_datasource plainHost digits_port plainName)
  have isScalar : (Yaml.valueOf "    datasource: ".toList (buildOTelCollectorConfig shard
      (inClusterParams shard)).toList).bind Yaml.scalar = some (content, []) := by
    rw [valueOf_datasource (unbroken_inCluster labelled interval)]
    exact read
  rw [datasourceValue, isScalar]
  simp only [Option.bind_eq_bind, Option.bind_some, parsed]
  exact (Option.map_eq_bind).symm

theorem host_datasource :
    datasourceValue "host" (buildOTelCollectorConfig shard (inClusterParams shard)) =
      some (serviceHost (postgreSQLServiceName shard) shard.spec.targetNamespace) := by
  rw [datasourceValue_eq labelled interval]
  exact congrArg some String.ofList_toList

theorem file_datasource :
    datasourceValue "sslrootcert" (buildOTelCollectorConfig shard (inClusterParams shard)) =
      some otelCACertFile := by
  rw [datasourceValue_eq labelled interval]
  exact congrArg some String.ofList_toList

end collector

end hosts

end KubeShard.Apishard
