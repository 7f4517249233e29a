import KubeShard.Apishard.Password
import KubeShard.Resources.Dsn

/-!
# The endpoint of the in-cluster database

The credentials Secret holds a connection string that is put together from its parts as
they are, and what reads connection strings follows the grammar of URLs.  The two agree on
the passwords that need no escapes, which the generated ones are, and on no others.
-/

namespace KubeShard.Apishard

open Resources Prog

/-- `KINE_ENDPOINT` of the credentials Secret. -/
def kineEndpoint (shard : APIShard) (password : String) : String :=
  ((buildPostgreSQLSecret shard password).lookup "KINE_ENDPOINT").getD ""

/-- Reading the endpoint gives back what it was made from. -/
def RoundTrips (library : Url.Library) (shard : APIShard) (password : String) : Prop :=
  parsePostgreSQLDSN library (kineEndpoint shard password) =
    .ok {
      host := s!"{shard.name}-postgresql.{shard.spec.targetNamespace}.svc"
      port := "5432"
      user := "kine"
      password
      dbName := "kine" }

/-- The password consists of characters a URL has there as they are. -/
def Unescaped (password : String) : Prop :=
  ∀ char ∈ password.toList,
    char.isAlphanum = true ∨ char ∈ "-._~!$&'()*+,;=:@".toList

/-- The characters of a DNS label. -/
def labelChar (char : Char) : Bool := char.isLower || char.isDigit || char == '-'

/-- The name and the namespace of a shard are labels. -/
structure Labelled (shard : APIShard) : Prop where
  name : ∀ char ∈ shard.name.toList, labelChar char = true
  namespace_ : ∀ char ∈ shard.spec.targetNamespace.toList, labelChar char = true

theorem unescaped_iff {password : String} : Unescaped password ↔
    ∀ char ∈ password.toList, Url.userinfoChar char = true ∧ char ≠ '%' := by
  have listed : ∀ char ∈ "-._~!$&'()*+,;=:@".toList,
      Url.userinfoChar char = true ∧ char ≠ '%' := List.all_iff_forall_prop.mp (by decide)
  have unlisted : ∀ char ∈ "-._:~!$&'()*+,;=%@".toList, char ≠ '%' →
      char ∈ "-._~!$&'()*+,;=:@".toList := List.all_iff_forall_prop.mp (by decide)
  refine forall₂_congr fun char _ => ?_
  constructor
  · rintro (alphanumeric | membership)
    · constructor
      · rw [Url.userinfoChar, alphanumeric, Bool.true_or]
      · intro isPercent
        rw [isPercent] at alphanumeric
        exact absurd alphanumeric (by decide)
    · exact listed char membership
  · rintro ⟨accepted, plain⟩
    rw [Url.userinfoChar, Bool.or_eq_true, List.contains_iff_mem] at accepted
    exact accepted.imp_right fun membership => unlisted char membership plain

/-! ## The text of an endpoint -/

section text

variable {library : Url.Library} {shard : APIShard} {password : String}

/-- The host of an endpoint. -/
def endpointHost (shard : APIShard) : String :=
  s!"{shard.name}-postgresql.{shard.spec.targetNamespace}.svc"

/-- An endpoint from its path on. -/
def endpointPath : String := "/kine?sslmode=verify-full&sslrootcert=/etc/kine/pg-ca/ca.crt"

theorem kineEndpoint_eq : kineEndpoint shard password =
    "postgres://" ++ ("kine" ++ ":" ++ password ++ "@" ++ (endpointHost shard ++ ":" ++ "5432")) ++
      endpointPath := by
  have isEndpoint : kineEndpoint shard password = "postgres://" ++ "kine" ++ ":" ++ password ++
      "@" ++ (shard.name ++ "-postgresql") ++ "." ++ shard.spec.targetNamespace ++ ".svc:" ++
      "5432" ++ endpointPath := rfl
  have isHost : endpointHost shard =
      shard.name ++ "-postgresql." ++ shard.spec.targetNamespace ++ ".svc" := rfl
  have service : "-postgresql." = "-postgresql" ++ "." := rfl
  have domain : ".svc:" = ".svc" ++ ":" := rfl
  rw [isEndpoint, isHost, service, domain]
  simp only [String.append_assoc]

/-- The user of an endpoint. -/
def endpointUser : List Char := "kine".toList

/-- The text after the scheme. -/
def endpointRest (shard : APIShard) (password : String) : List Char :=
  endpointUser ++ ':' :: password.toList ++
    '@' :: ((endpointHost shard).toList ++ ':' :: "5432".toList ++ endpointPath.toList)

theorem toList_kineEndpoint :
    (kineEndpoint shard password).toList = "postgres://".toList ++ endpointRest shard password := by
  have colon : ":".toList = [':'] := rfl
  have at_ : "@".toList = ['@'] := rfl
  simp only [kineEndpoint_eq, String.toList_append, colon, at_, endpointRest, endpointUser,
    List.append_assoc, List.cons_append, List.nil_append]

theorem hostChar_of_labelChar {char : Char} (isLabel : labelChar char = true) :
    Url.hostChar char = true ∧ char ≠ '[' := by
  constructor
  · rw [labelChar, Bool.or_eq_true, Bool.or_eq_true, beq_iff_eq] at isLabel
    rcases isLabel with (lower | digit) | hyphen
    · rw [Url.hostChar, Text.isAlphanum_of_isLower lower, Bool.true_or]
    · rw [Url.hostChar, Text.isAlphanum_of_isDigit digit, Bool.true_or]
    · rw [hyphen]
      rfl
  · intro isBracket
    rw [isBracket] at isLabel
    exact absurd isLabel (by decide)

theorem digits_port : ∀ char ∈ "5432".toList, char.isDigit = true :=
  List.all_iff_forall_prop.mp (by decide)

theorem hostChar_endpointHost (labelled : Labelled shard) :
    ∀ char ∈ (endpointHost shard).toList, Url.hostChar char = true ∧ char ≠ '[' := by
  have isHost : endpointHost shard =
      shard.name ++ "-postgresql." ++ shard.spec.targetNamespace ++ ".svc" := rfl
  simp only [isHost, String.toList_append, List.forall_mem_append]
  refine ⟨⟨⟨fun char membership => hostChar_of_labelChar (labelled.name char membership), ?_⟩,
    fun char membership => hostChar_of_labelChar (labelled.namespace_ char membership)⟩, ?_⟩
  all_goals exact List.all_iff_forall_prop.mp (by decide)

theorem trimSpace_kineEndpoint :
    trimSpace (kineEndpoint shard password).toList =
      "postgres://".toList ++ endpointRest shard password := by
  rw [toList_kineEndpoint]
  apply @trimSpace_eq _ 'p' 't' rfl _ rfl rfl
  have isLast : endpointPath.toList.getLast? = some 't' := by decide
  simp [endpointRest, List.getLast?_append, List.getLast?_cons, isLast]

theorem at_notMem_endpointRest (labelled : Labelled shard) :
    '@' ∉ (endpointHost shard).toList ++ ':' :: "5432".toList ++ endpointPath.toList := by
  have host : '@' ∉ (endpointHost shard).toList := fun membership =>
    absurd (hostChar_endpointHost labelled '@' membership).1 (by decide)
  have others : '@' ∉ ':' :: "5432".toList ++ endpointPath.toList := by decide
  rw [List.append_assoc, List.mem_append, not_or]
  exact ⟨host, others⟩

/-- Whatever is taken for the user of an endpoint starts as it does. -/
theorem userinfo_of_endpointRest (labelled : Labelled shard) {userinfo rest : List Char}
    (same : userinfo ++ '@' :: rest = endpointRest shard password) :
    ∃ front, userinfo = "kine".toList ++ ':' :: front ∧ front <+: password.toList := by
  have whole : userinfo <+: "kine".toList ++ ':' :: password.toList :=
    Text.prefix_of_append_cons (at_notMem_endpointRest labelled) same
  have user : "kine:".toList <+: userinfo := by
    apply @Text.prefix_of_notMem _ '@' userinfo "kine:".toList _ rest (by decide)
    exact same
  obtain ⟨front, rfl⟩ := user
  exact ⟨front, rfl, (List.prefix_append_right_inj "kine:".toList).mp whole⟩

/-- A password that is read back was read from all of its text, without an escape. -/
theorem unescaped_of_roundTrips (labelled : Labelled shard)
    (round : RoundTrips library shard password) : Unescaped password := by
  obtain ⟨url, isUrl, -, checked⟩ := parsePostgreSQLDSN_eq_ok.mp round
  have isPassword : url.password = password.toList := by
    have same := congrArg OTelConnectionParams.password (checkParams_eq_ok.mp checked).1
    simpa [connectionParams] using (congrArg String.toList same).symm
  rw [trimSpace_kineEndpoint] at isUrl
  have found : Url.getScheme (Url.cut '#' ("postgres://".toList ++ endpointRest shard password)).1 =
      .ok ("postgres".toList, '/' :: '/' :: (Url.cut '#' (endpointRest shard password)).1) := rfl
  have authority := Url.authority_of_parse found (by decide) (by decide) isUrl
  rw [unescaped_iff]
  by_cases given : url.password = []
  · rw [← isPassword, given]
    exact fun char membership => absurd membership List.not_mem_nil
  obtain ⟨name, isUser⟩ := Url.Parts.user_of_password given
  rw [isUser, isPassword] at authority
  obtain ⟨userinfo, hostPort, isAuthority, valid, decoded⟩ :=
    Url.password_of_parseAuthority authority
  have start : userinfo ++ '@' :: hostPort <+: endpointRest shard password := by
    rw [← isAuthority]
    apply List.IsPrefix.trans ( List.takeWhile_prefix _)
    apply List.IsPrefix.trans ( List.takeWhile_prefix _)
    exact List.takeWhile_prefix _
  obtain ⟨more, isRest⟩ := start
  rw [List.append_assoc, List.cons_append] at isRest
  obtain ⟨front, rfl, fronting⟩ := userinfo_of_endpointRest labelled isRest
  rw [Url.cut_append_cons (by decide)] at decoded
  obtain ⟨shorter, strictly⟩ := Url.length_unescape decoded
  have isFront : front = password.toList := fronting.eq_of_length_le shorter
  rw [isFront] at valid strictly
  intro char membership
  constructor
  · exact valid char (List.mem_append_right _ (List.mem_cons_of_mem _ membership))
  · intro isPercent
    exact absurd (strictly (isPercent ▸ membership)) (Nat.lt_irrefl _)

/-- The text of a user, a password and a host with a port. -/
def endpointAuthority (shard : APIShard) (password : String) : List Char :=
  endpointUser ++ ':' :: password.toList ++
    '@' :: ((endpointHost shard).toList ++ ':' :: "5432".toList)

/-- The characters of `endpointPath` after its question mark. -/
def endpointQuery : List Char := "sslmode=verify-full&sslrootcert=/etc/kine/pg-ca/ca.crt".toList

theorem endpointRest_eq : endpointRest shard password =
    endpointAuthority shard password ++ '/' :: "kine".toList ++ '?' :: endpointQuery := by
  have isPath : endpointPath.toList = '/' :: "kine".toList ++ '?' :: endpointQuery := by decide
  rw [endpointRest, endpointAuthority, isPath]
  simp only [List.append_assoc, List.cons_append]

theorem inner_endpointAuthority (labelled : Labelled shard) (unescaped : Unescaped password) :
    ∀ char ∈ endpointAuthority shard password, Url.Inner char := by
  have unescaped := unescaped_iff.mp unescaped
  simp only [endpointAuthority, List.forall_mem_append, List.forall_mem_cons]
  have user : ∀ char ∈ "kine".toList, Url.Inner char := List.all_iff_forall_prop.mp (by decide)
  have port : ∀ char ∈ "5432".toList, Url.Inner char := List.all_iff_forall_prop.mp (by decide)
  refine ⟨⟨user, by decide, ?_⟩, by decide, ?_, by decide, port⟩
  · exact fun char membership => Url.inner_of_userinfoChar (unescaped char membership).1
  · exact fun char membership =>
      Url.inner_of_hostChar (hostChar_endpointHost labelled char membership).1

theorem parse_kineEndpoint (labelled : Labelled shard) (unescaped : Unescaped password) :
    Url.parse library (trimSpace (kineEndpoint shard password).toList) = .ok {
      scheme := "postgres".toList
      user := some ("kine".toList, some password.toList)
      host := (endpointHost shard).toList ++ ':' :: "5432".toList
      path := "/kine".toList } := by
  have inner := inner_endpointAuthority labelled unescaped
  have printable : ∀ char ∈ "postgres://".toList ++ (endpointAuthority shard password ++
      '/' :: "kine".toList ++ '?' :: endpointQuery),
      Url.isControl char = false ∧ char ≠ '#' := by
    rw [List.forall_mem_append, List.forall_mem_append, List.forall_mem_append]
    refine ⟨?_, ⟨fun char membership => ⟨(inner char membership).1, (inner char membership).2.1⟩,
      ?_⟩, ?_⟩
    all_goals exact List.all_iff_forall_prop.mp (by decide)
  have isHost : Url.parseHost library "postgres".toList
      ((endpointHost shard).toList ++ ':' :: "5432".toList) =
      .ok ((endpointHost shard).toList ++ ':' :: "5432".toList) :=
    Url.parseHost_eq (.inr rfl) (hostChar_endpointHost labelled) digits_port
  have noAt : '@' ∉ (endpointHost shard).toList ++ ':' :: "5432".toList := fun membership =>
    at_notMem_endpointRest labelled (List.mem_append_left _ membership)
  have isAuthority := Url.parseAuthority_eq "kine".toList noAt
    (List.all_iff_forall_prop.mp (by decide))
    (unescaped_iff.mp unescaped) isHost
  rw [trimSpace_kineEndpoint, endpointRest_eq]
  exact Url.parse_eq printable rfl (by decide) (by decide) inner (by decide) isAuthority rfl

theorem roundTrips_of_unescaped (labelled : Labelled shard) (unescaped : Unescaped password) :
    RoundTrips library shard password := by
  have isSplit : Url.splitHostPort ((endpointHost shard).toList ++ ':' :: "5432".toList) =
      ((endpointHost shard).toList, "5432".toList) :=
    Url.splitHostPort_eq (fun membership => (hostChar_endpointHost labelled '[' membership).2 rfl)
      digits_port
  have isParams : connectionParams {
      scheme := "postgres".toList
      user := some ("kine".toList, some password.toList)
      host := (endpointHost shard).toList ++ ':' :: "5432".toList
      path := "/kine".toList } = {
      host := endpointHost shard
      port := "5432"
      user := "kine"
      password
      dbName := "kine" } := by
    rw [connectionParams]
    simp only [isSplit, String.ofList_toList, Url.Parts.username, Url.Parts.password]
    rfl
  have nonempty : endpointHost shard ≠ "" := by
    intro isEmpty
    have ends : ".svc".toList <:+ (endpointHost shard).toList := by
      rw [show endpointHost shard =
        shard.name ++ "-postgresql." ++ shard.spec.targetNamespace ++ ".svc" from rfl,
        String.toList_append]
      exact List.suffix_append _ _
    rw [isEmpty] at ends
    exact absurd ends.length_le (by decide)
  have noNewline : hasNewline (endpointHost shard) = false := by
    rw [hasNewline, List.any_eq_false]
    intro char membership isNewline
    have inner := Url.inner_of_hostChar (hostChar_endpointHost labelled char membership).1
    rw [Bool.or_eq_true, beq_iff_eq, beq_iff_eq] at isNewline
    rcases isNewline with rfl | rfl
    all_goals exact absurd inner (by decide)
  rw [RoundTrips, parsePostgreSQLDSN_eq_ok]
  refine ⟨_, parse_kineEndpoint labelled unescaped, .inl rfl, ?_⟩
  rw [isParams, checkParams_eq_ok]
  have user : "kine" ≠ "" := by decide
  refine ⟨rfl, nonempty, user, digits_port, ?_⟩
  simp only [newlineChecks, List.forall_mem_cons]
  exact ⟨noNewline, by decide, by decide,
    fun check membership => absurd membership List.not_mem_nil⟩

end text

/-! ## Passwords -/

/-- A generated password is hexadecimal digits. -/
theorem unescaped_generatePassword (bytes : Fin 16 → Fin 256) :
    Unescaped (generatePassword bytes) := by
  have digit : ∀ value : Fin 16, (hexDigit value).isAlphanum = true := by decide
  intro char membership
  rw [generatePassword, String.toList_ofList, List.mem_flatMap] at membership
  obtain ⟨byte, -, inByte⟩ := membership
  have bound := byte.isLt
  simp only [List.mem_cons, List.not_mem_nil, or_false] at inByte
  rcases inByte with rfl | rfl
  · exact .inl (digit ⟨byte.val / 16, by omega⟩)
  · exact .inl (digit ⟨byte.val % 16, by omega⟩)

/-- The endpoint in the credentials Secret leads back to the password if and only if a URL
has the password's characters as they are.  A generated password always comes back; one that
was put into the Secret by hand may not. -/
theorem endpoint_round_trips_iff (library : Url.Library) {shard : APIShard}
    (labelled : Labelled shard) :
    (∀ password, RoundTrips library shard password ↔ Unescaped password) ∧
      ∀ bytes, RoundTrips library shard (generatePassword bytes) := by
  constructor
  · intro password
    constructor
    · exact unescaped_of_roundTrips labelled
    · exact roundTrips_of_unescaped labelled
  · intro bytes
    exact roundTrips_of_unescaped labelled (unescaped_generatePassword bytes)

/-- A library without IPv6 addresses. -/
def plainLibrary : Url.Library where
  parseAddr _ := .error "unable to parse IP"
  quote text := "\"" ++ String.ofList text ++ "\""

/-- A shard with its database in the cluster. -/
def databaseShard : APIShard :=
  { Component.unnamed with
    name := "demo"
    spec := { plainSpec [] with storage := { type := .inClusterPostgreSQL } } }

theorem labelled_databaseShard : Labelled databaseShard where
  name := List.all_iff_forall_prop.mp (by decide)
  namespace_ := List.all_iff_forall_prop.mp (by decide)

theorem endpoint_round_trips_iff_demo :
    Labelled databaseShard ∧ RoundTrips plainLibrary databaseShard "s3cr3t:@" ∧
      ¬ RoundTrips plainLibrary databaseShard "a/b" := by
  have law := (endpoint_round_trips_iff plainLibrary labelled_databaseShard).1
  refine ⟨labelled_databaseShard, (law _).mpr (List.all_iff_forall_prop.mp (by decide)), ?_⟩
  intro round
  exact absurd ((law _).mp round '/' (by decide)) (by decide)

/-- A cluster whose credentials Secret was given a password with an escape in it. -/
def escapedPassword : State where
  cluster := { Cluster.bare with
    objects := Store.empty.insert {
      key := credentialsKey "demo" "target"
      data := [("POSTGRES_PASSWORD", "p%40ss")] } }

/-- The password is read from the Secret as it is, and decoded from the endpoint. -/
theorem escaped_password_decoded :
    (exec (getOrGeneratePostgresPassword {} databaseShard) escapedPassword).1 = .ok "p%40ss" ∧
      parsePostgreSQLDSN plainLibrary (kineEndpoint databaseShard "p%40ss") = .ok {
        host := "demo-postgresql.target.svc"
        port := "5432"
        user := "kine"
        password := "p@ss"
        dbName := "kine" } ∧
      ¬ RoundTrips plainLibrary databaseShard "p%40ss" := by
  have decoded : parsePostgreSQLDSN plainLibrary (kineEndpoint databaseShard "p%40ss") = .ok {
      host := "demo-postgresql.target.svc"
      port := "5432"
      user := "kine"
      password := "p@ss"
      dbName := "kine" } := by decide +kernel
  refine ⟨rfl, decoded, ?_⟩
  rw [RoundTrips, decoded]
  intro same
  exact absurd (congrArg OTelConnectionParams.password (Except.ok.inj same)) (by decide)

end KubeShard.Apishard
