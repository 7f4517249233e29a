import KubeShard.Apishard.Endpoint
import KubeShard.Resources.Collector

/-!
# What a connection string brings into the collector's configuration

A connection string is accepted with any host and any database that a URL can have, and both
are written into the configuration of the collector.  What is read back from there is what
was accepted if and only if neither has a character that means something to one of the
readers.
-/

namespace KubeShard.Apishard

open Resources Nested

/-! ## The connection text -/

section datasource

variable {host port name user password rootCert : List Char}

/-- The assignments the template is made for. -/
def assignments (host port name user password rootCert : List Char) :
    List (List Char × List Char) :=
  [("host".toList, host), ("port".toList, port), ("user".toList, user),
    ("password".toList, password), ("dbname".toList, name),
    ("sslmode".toList, "verify-full".toList), ("sslrootcert".toList, rootCert)]

/-- The user of the template, which the collector takes from its environment. -/
def templateUser : String := "$\x7benv:PG_USERNAME\x7d"

/-- The password of the template. -/
def templatePassword : String := "$\x7benv:PG_PASSWORD\x7d"

theorem connection_hostKey (rest : List Char) :
    connection .blank (hostKey.toList ++ rest) = connection (.quoted "host".toList []) rest := by
  rw [hostKey]
  repeat rw [String.toList_ofList]
  exact connection_lead (List.all_iff_forall_prop.mp (by decide)) (fun _ => rfl) rest

theorem connection_portKey (rest : List Char) :
    connection .blank (portKey.toList ++ rest) = connection (.quoted "port".toList []) rest := by
  rw [portKey]
  repeat rw [String.toList_ofList]
  exact connection_lead (List.all_iff_forall_prop.mp (by decide)) (fun _ => rfl) rest

theorem connection_nameKey (rest : List Char) :
    connection .blank (nameKey.toList ++ rest) =
      (connection (.quoted "dbname".toList []) rest).map
        ([("user".toList, templateUser.toList),
          ("password".toList, templatePassword.toList)] ++ ·) := by
  have isKey : nameKey.toList = " user='".toList ++ (templateUser.toList ++ '\'' ::
      (" password='".toList ++ (templatePassword.toList ++ '\'' :: " dbname='".toList))) := by
    rw [nameKey, templateUser, templatePassword]
    repeat rw [String.toList_ofList]
    rfl
  have user (rest : List Char) : connection .blank (" user='".toList ++ rest) =
      connection (.quoted "user".toList []) rest := by
    repeat rw [String.toList_ofList]
    exact connection_lead (List.all_iff_forall_prop.mp (by decide)) (fun _ => rfl) rest
  have password (rest : List Char) : connection .blank (" password='".toList ++ rest) =
      connection (.quoted "password".toList []) rest := by
    repeat rw [String.toList_ofList]
    exact connection_lead (List.all_iff_forall_prop.mp (by decide)) (fun _ => rfl) rest
  have dbname (rest : List Char) : connection .blank (" dbname='".toList ++ rest) =
      connection (.quoted "dbname".toList []) rest := by
    repeat rw [String.toList_ofList]
    exact connection_lead (List.all_iff_forall_prop.mp (by decide)) (fun _ => rfl) rest
  have plainUser : ∀ char ∈ templateUser.toList, Untouched char := by
    rw [templateUser, String.toList_ofList]
    exact List.all_iff_forall_prop.mp (by decide)
  have plainPassword : ∀ char ∈ templatePassword.toList, Untouched char := by
    rw [templatePassword, String.toList_ofList]
    exact List.all_iff_forall_prop.mp (by decide)
  rw [isKey]
  simp only [List.append_assoc, List.cons_append]
  rw [user, connection_value plainUser, password, connection_value plainPassword, dbname,
    Option.map_map]
  rfl

theorem connection_modeKey : connection .blank (modeKey.toList ++ ['"']) =
    some [("sslmode".toList, "verify-full".toList),
      ("sslrootcert".toList, otelCACertFile.toList)] := by
  rw [modeKey, otelCACertFile]
  repeat rw [String.toList_ofList]
  rfl

theorem untouched_of_isAlphanum {char : Char} (alphanumeric : char.isAlphanum = true) :
    Untouched char := by
  have json : Yaml.jsonChar char = true := by
    have range := Text.isAlphanum_iff.mp alphanumeric
    simp only [Yaml.jsonChar, Bool.or_eq_true, decide_eq_true_eq]
    exact .inr (by omega)
  refine ⟨⟨json, ?_, ?_⟩, ?_⟩
  all_goals
    rintro rfl
    exact absurd alphanumeric (by decide)

theorem untouched_of_isDigit {char : Char} (digit : char.isDigit = true) : Untouched char :=
  untouched_of_isAlphanum (Text.isAlphanum_of_isDigit digit)

/-- A connection text of plain parts assigns them, with the CA file of the template. -/
theorem connection_datasource (plainHost : ∀ char ∈ host, Untouched char)
    (digits : ∀ char ∈ port, char.isDigit = true) (plainName : ∀ char ∈ name, Untouched char) :
    connection .blank (datasourceText host port name) =
      some (assignments host port name templateUser.toList templatePassword.toList
        otelCACertFile.toList) := by
  have plainPort : ∀ char ∈ port, Untouched char := fun char membership =>
    untouched_of_isDigit (digits char membership)
  rw [datasourceText, connection_hostKey, connection_value plainHost, connection_portKey,
    connection_value plainPort, connection_nameKey, connection_value plainName,
    connection_modeKey]
  rfl

/-- The connection text assigns what it was made from if and only if neither the host nor
the name has a character that ends or escapes something there. -/
theorem connection_datasource_iff (unescaped : '\\' ∉ host)
    (digits : ∀ char ∈ port, char.isDigit = true) :
    (∃ user password rootCert, connection .blank (datasourceText host port name) =
      some (assignments host port name user password rootCert)) ↔
      (∀ char ∈ host, Untouched char) ∧ ∀ char ∈ name, Untouched char := by
  have plainPort : ∀ char ∈ port, Untouched char := fun char membership =>
    untouched_of_isDigit (digits char membership)
  have plainMode : ∀ char ∈ modeKey.toList, Untouched char := by
    rw [modeKey, String.toList_ofList]
    exact List.all_iff_forall_prop.mp (by decide)
  constructor
  · rintro ⟨user, password, rootCert, read⟩
    rw [datasourceText, connection_hostKey] at read
    have plainHost := untouched_of_connection (escapesShorten_of_notMem unescaped) read
    refine ⟨plainHost, ?_⟩
    rw [connection_value plainHost, connection_portKey, connection_value plainPort,
      connection_nameKey] at read
    obtain ⟨afterHost, isAfterHost, same⟩ := Option.map_eq_some_iff.mp read
    cases same
    obtain ⟨afterPort, isAfterPort, same⟩ := Option.map_eq_some_iff.mp isAfterHost
    cases same
    obtain ⟨afterPassword, isAfterPassword, same⟩ := Option.map_eq_some_iff.mp isAfterPort
    have isRest : afterPassword = [("dbname".toList, name),
        ("sslmode".toList, "verify-full".toList), ("sslrootcert".toList, rootCert)] :=
      (List.cons.inj (List.cons.inj same).2).2
    rw [isRest] at isAfterPassword
    exact untouched_of_connection (escapesShorten_of_untouched plainMode) isAfterPassword
  · rintro ⟨plainHost, plainName⟩
    exact ⟨_, _, _, connection_datasource plainHost digits plainName⟩

end datasource

/-! ## Bytes -/

/-- The bytes of a text in UTF-8, one character for each. -/
def bytesOf (text : String) : String :=
  .ofList (text.toList.flatMap fun char =>
    (String.utf8EncodeChar char).map fun byte => .ofNat byte.toNat)

theorem encoded_ascii {char : Char} (ascii : char.toNat < 0x80) :
    (String.utf8EncodeChar char).map (fun byte => Char.ofNat byte.toNat) = [char] := by
  have bound : char.val.toNat ≤ 127 := Nat.le_of_lt_succ ascii
  have small : char.val.toNat % 2 ^ 8 = char.toNat := Nat.mod_eq_of_lt (by omega)
  rw [String.utf8EncodeChar, if_pos bound, List.map_singleton, UInt8.toNat_ofNat', small,
    Char.ofNat_toNat]

/-- The bytes of other characters are none of ASCII. -/
theorem encoded_beyond {char : Char} (beyond : 0x80 ≤ char.toNat) :
    ∀ byte ∈ String.utf8EncodeChar char, 0x80 ≤ byte.toNat := by
  have notAscii : ¬ char.val.toNat ≤ 127 := Nat.not_le_of_lt beyond
  rw [String.utf8EncodeChar, if_neg notAscii]
  split
  · simp only [List.forall_mem_cons, UInt8.toNat_ofNat']
    exact ⟨by omega, by omega, fun byte membership => absurd membership List.not_mem_nil⟩
  split
  · simp only [List.forall_mem_cons, UInt8.toNat_ofNat']
    exact ⟨by omega, by omega, by omega, fun byte membership => absurd membership List.not_mem_nil⟩
  · simp only [List.forall_mem_cons, UInt8.toNat_ofNat']
    exact ⟨by omega, by omega, by omega, by omega,
      fun byte membership => absurd membership List.not_mem_nil⟩

/-- The characters of ASCII in a text are those among its bytes. -/
theorem mem_bytesOf {text : String} {char : Char} (ascii : char.toNat < 0x80) :
    char ∈ (bytesOf text).toList ↔ char ∈ text.toList := by
  rw [bytesOf, String.toList_ofList, List.mem_flatMap]
  constructor
  · rintro ⟨source, membership, encoded⟩
    by_cases isAscii : source.toNat < 0x80
    · rw [encoded_ascii isAscii, List.mem_singleton] at encoded
      rwa [encoded]
    · obtain ⟨byte, inBytes, isChar⟩ := List.mem_map.mp encoded
      have beyond := encoded_beyond (Nat.le_of_not_lt isAscii) byte inBytes
      have isByte : char.toNat = byte.toNat := by
        have small := byte.toNat_lt
        rw [← isChar, Char.ofNat, dif_pos (.inl (by omega))]
        rfl
      omega
  · intro membership
    exact ⟨char, membership, by rw [encoded_ascii ascii]; exact List.mem_singleton_self char⟩

/-! ## Reading the configuration -/

/-- What the configuration says to its readers: the sequence of databases has the name as its
one element, the scalar of the data source ends with its line, and its content assigns the
host, the port and the name, with `sslmode=verify-full` and the keywords of the template.
Scalars are compared as text: no tag is resolved, so a name like `123` counts as itself.  The
line with the endpoint of the receiver is not read. -/
structure Contained (config host port name : String) : Prop where
  databases : (Yaml.valueOf "    databases: ".toList config.toList).bind Yaml.flowSequence =
    some [name.toList]
  datasource : ∃ content user password rootCert,
    (Yaml.valueOf "    datasource: ".toList config.toList).bind Yaml.scalar = some (content, []) ∧
    Conninfo.parse .blank content =
      some (assignments host.toList port.toList name.toList user password rootCert)

/-- The configuration is a text, and says what the parameters are. -/
def ConfigContained (shard : APIShard) (params : OTelConnectionParams) : Prop :=
  ∃ host name, bytesOf host = params.host ∧ bytesOf name = params.dbName ∧
    Contained (buildOTelCollectorConfig shard { params with host, dbName := name })
      host params.port name

/-- The host has no quotes. -/
def HarmlessHost (host : String) : Prop := ∀ char ∈ host.toList, char ≠ '"' ∧ char ≠ '\''

/-- The name is a plain scalar without quotes and backslashes. -/
structure HarmlessName (name : String) : Prop where
  chars : ∀ char ∈ name.toList, char ≠ '"' ∧ char ≠ '\'' ∧ char ≠ '\\'
  plain : Yaml.PlainScalar name.toList

section reading

variable {shard : APIShard} {params : OTelConnectionParams}

theorem contained_iff (unbroken : Unbroken shard params) (unescaped : '\\' ∉ params.host.toList)
    (digits : ∀ char ∈ params.port.toList, char.isDigit = true) :
    Contained (buildOTelCollectorConfig shard params) params.host params.port params.dbName ↔
      Yaml.PlainScalar params.dbName.toList ∧ (∀ char ∈ params.host.toList, Untouched char) ∧
        ∀ char ∈ params.dbName.toList, Untouched char := by
  have isScalar (text : List Char) : Yaml.scalar ('"' :: text) = Yaml.doubleQuoted .text text := rfl
  rw [← Yaml.flowSequence_eq_iff, ← connection_datasource_iff unescaped digits]
  constructor
  · rintro ⟨databases, content, user, password, rootCert, read, parsed⟩
    rw [valueOf_databases unbroken, Option.bind_some] at databases
    rw [valueOf_datasource unbroken, Option.bind_some, isScalar] at read
    exact ⟨databases, user, password, rootCert, connection_eq_some.mpr ⟨content, read, parsed⟩⟩
  · rintro ⟨databases, user, password, rootCert, assigned⟩
    obtain ⟨content, read, parsed⟩ := connection_eq_some.mp assigned
    refine ⟨?_, content, user, password, rootCert, ?_, parsed⟩
    · rw [valueOf_databases unbroken, Option.bind_some, databases]
    · rw [valueOf_datasource unbroken, Option.bind_some, isScalar, read]

/-- What is accepted of a host as text. -/
theorem hostText_of_accepted (accepted : Accepted params) {host : String}
    (isHost : bytesOf host = params.host) :
    ∀ char ∈ host.toList, Yaml.jsonChar char = true ∧ char ≠ '\\' ∧ char ≠ '\n' := by
  intro char membership
  by_cases ascii : char.toNat < 0x80
  · have isByte : Url.HostByte char := by
      apply accepted.host char
      rwa [← isHost, mem_bytesOf ascii]
    obtain ⟨printable, unescaped⟩ := isByte.printable
    refine ⟨?_, unescaped, ?_⟩
    · simp [Yaml.jsonChar, printable]
    · rintro rfl
      exact absurd printable (by decide)
  · refine ⟨?_, ?_, ?_⟩
    · simp only [Yaml.jsonChar, Bool.or_eq_true, decide_eq_true_eq]
      exact .inr (by omega)
    all_goals
      rintro rfl
      exact ascii (by decide)

/-- The texts of accepted parameters do not break the lines of the configuration. -/
theorem unbroken_of_accepted (accepted : Accepted params) {host name : String}
    (isHost : bytesOf host = params.host) (isName : bytesOf name = params.dbName)
    (interval : '\n' ∉ (collectionInterval shard).toList) :
    Unbroken shard { params with host, dbName := name } where
  host := fun membership => (hostText_of_accepted accepted isHost '\n' membership).2.2 rfl
  port := fun membership => absurd (accepted.port '\n' membership) (by decide)
  dbName := by
    intro membership
    rw [← mem_bytesOf (by decide), isName] at membership
    exact (accepted.dbName.2 '\n' membership).1 rfl
  interval := interval

theorem harmless_iff (accepted : Accepted params) {host name : String}
    (isHost : bytesOf host = params.host) :
    (Yaml.PlainScalar name.toList ∧ (∀ char ∈ host.toList, Untouched char) ∧
      ∀ char ∈ name.toList, Untouched char) ↔ HarmlessHost host ∧ HarmlessName name := by
  constructor
  · rintro ⟨plain, plainHost, plainName⟩
    refine ⟨fun char membership => ?_, fun char membership => ?_, plain⟩
    · obtain ⟨⟨-, notDouble, -⟩, notSingle⟩ := plainHost char membership
      exact ⟨notDouble, notSingle⟩
    · obtain ⟨⟨-, notDouble, notEscape⟩, notSingle⟩ := plainName char membership
      exact ⟨notDouble, notSingle, notEscape⟩
  · rintro ⟨hostChars, nameChars, plain⟩
    refine ⟨plain, fun char membership => ?_, fun char membership => ?_⟩
    · obtain ⟨json, notEscape, -⟩ := hostText_of_accepted accepted isHost char membership
      obtain ⟨notDouble, notSingle⟩ := hostChars char membership
      exact ⟨⟨json, notDouble, notEscape⟩, notSingle⟩
    · obtain ⟨notDouble, notSingle, notEscape⟩ := nameChars char membership
      exact ⟨⟨Yaml.jsonChar_of_plainScalar plain char membership, notDouble, notEscape⟩, notSingle⟩

/-- Of accepted parameters, the configuration says what they are if and only if their texts
are harmless. -/
theorem configContained_iff (accepted : Accepted params)
    (interval : '\n' ∉ (collectionInterval shard).toList) :
    ConfigContained shard params ↔ (∃ host, bytesOf host = params.host ∧ HarmlessHost host) ∧
      ∃ name, bytesOf name = params.dbName ∧ HarmlessName name := by
  have contained {host name : String} (isHost : bytesOf host = params.host)
      (isName : bytesOf name = params.dbName) :
      Contained (buildOTelCollectorConfig shard { params with host, dbName := name })
        host params.port name ↔ HarmlessHost host ∧ HarmlessName name := by
    rw [← harmless_iff accepted isHost]
    exact contained_iff (unbroken_of_accepted accepted isHost isName interval)
      (fun membership => (hostText_of_accepted accepted isHost '\\' membership).2.1 rfl)
      accepted.port
  constructor
  · rintro ⟨host, name, isHost, isName, reads⟩
    obtain ⟨plainHost, plainName⟩ := (contained isHost isName).mp reads
    exact ⟨⟨host, isHost, plainHost⟩, name, isName, plainName⟩
  · rintro ⟨⟨host, isHost, plainHost⟩, name, isName, plainName⟩
    exact ⟨host, name, isHost, isName, (contained isHost isName).mpr ⟨plainHost, plainName⟩⟩

end reading

/-- The host of a URL is a text, as is its path after the slash, and both are harmless; an
empty path stands for the default name. -/
structure HarmlessURL (url : Url.Parts) : Prop where
  host : ∃ host, bytesOf host = .ofList (Url.splitHostPort url.host).1 ∧ HarmlessHost host
  name : databasePath url = [] ∨
    ∃ name, bytesOf name = .ofList (databasePath url) ∧ HarmlessName name

theorem harmlessName_default : HarmlessName "kine" where
  chars := List.all_iff_forall_prop.mp (by decide)
  plain := Yaml.plainScalar_of_identifier (by decide) (List.all_iff_forall_prop.mp (by decide))

theorem harmlessURL_iff (url : Url.Parts) :
    HarmlessURL url ↔
      (∃ host, bytesOf host = (connectionParams url).host ∧ HarmlessHost host) ∧
        ∃ name, bytesOf name = (connectionParams url).dbName ∧ HarmlessName name := by
  dsimp only [connectionParams]
  by_cases isDefault : databasePath url = []
  · rw [if_pos isDefault]
    constructor
    · intro harmless
      exact ⟨harmless.host, "kine", by decide, harmlessName_default⟩
    · intro harmless
      exact ⟨harmless.1, .inl isDefault⟩
  · rw [if_neg isDefault]
    constructor
    · intro harmless
      exact ⟨harmless.host, harmless.name.resolve_left isDefault⟩
    · intro harmless
      exact ⟨harmless.1, .inr harmless.2⟩

/-- For every connection string that is accepted and every shard with an interval on one
line: the configuration of the collector says what was accepted if and only if the host of
the URL is a text without quotes and its path one that is a plain scalar without quotes and
backslashes. -/
theorem accepted_dsn_contained_iff {library : Url.Library} {shard : APIShard}
    (interval : '\n' ∉ (collectionInterval shard).toList) {dsn : String}
    {params : OTelConnectionParams} (accepted : parsePostgreSQLDSN library dsn = .ok params) :
    ConfigContained shard params ↔
      ∃ url, Url.parse library (trimSpace dsn.toList) = .ok url ∧ HarmlessURL url := by
  rw [configContained_iff (accepted_of_parse accepted) interval]
  obtain ⟨url, isUrl, -, checked⟩ := parsePostgreSQLDSN_eq_ok.mp accepted
  obtain ⟨isParams, -⟩ := checkParams_eq_ok.mp checked
  rw [isParams, ← harmlessURL_iff]
  constructor
  · intro harmless
    exact ⟨url, isUrl, harmless⟩
  · rintro ⟨other, isOther, harmless⟩
    rw [isUrl] at isOther
    cases isOther
    exact harmless

theorem interval_databaseShard : '\n' ∉ (collectionInterval databaseShard).toList := by decide

/-- The parameters of a database with a plain name. -/
def plainParams : OTelConnectionParams where
  host := "db.example.com"
  port := "5432"
  user := "u"
  password := "p"
  dbName := "app_1"

theorem accepted_dsn_contained_iff_plain :
    '\n' ∉ (collectionInterval databaseShard).toList ∧
      parsePostgreSQLDSN plainLibrary "postgres://u:p@db.example.com/app_1" = .ok plainParams ∧
      ConfigContained databaseShard plainParams := by
  have accepted :
      parsePostgreSQLDSN plainLibrary "postgres://u:p@db.example.com/app_1" = .ok plainParams := by
    decide +kernel
  have isUrl : Url.parse plainLibrary (trimSpace "postgres://u:p@db.example.com/app_1".toList) =
      .ok { scheme := "postgres".toList, user := some (['u'], some ['p']),
            host := "db.example.com".toList, path := "/app_1".toList } := by
    decide +kernel
  refine ⟨interval_databaseShard, accepted,
    (accepted_dsn_contained_iff interval_databaseShard accepted).mpr ⟨_, isUrl, ?_, .inr ?_⟩⟩
  · exact ⟨"db.example.com", by decide +kernel, List.all_iff_forall_prop.mp (by decide)⟩
  · exact ⟨"app_1", by decide +kernel, List.all_iff_forall_prop.mp (by decide),
      Yaml.plainScalar_of_identifier (by decide) (List.all_iff_forall_prop.mp (by decide))⟩

/-- The parameters of a database whose name goes on with another host. -/
def injectedParams : OTelConnectionParams where
  host := "h"
  port := "5432"
  user := "u"
  password := "p"
  dbName := "a,b' host='evil"

/-- A database name with a comma and quotes makes two databases, and a second host. -/
theorem second_host_injected :
    parsePostgreSQLDSN plainLibrary "postgres://u:p@h/a,b'%20host='evil" = .ok injectedParams ∧
      (Yaml.valueOf "    databases: ".toList
        (buildOTelCollectorConfig databaseShard injectedParams).toList).bind Yaml.flowSequence =
          some ["a".toList, "b' host='evil".toList] ∧
      ((Yaml.valueOf "    datasource: ".toList
        (buildOTelCollectorConfig databaseShard injectedParams).toList).bind Yaml.scalar).bind
          (fun parts => Conninfo.parse .blank parts.1) =
        some [("host".toList, "h".toList), ("port".toList, "5432".toList),
          ("user".toList, templateUser.toList), ("password".toList, templatePassword.toList),
          ("dbname".toList, "a,b".toList), ("host".toList, "evil".toList),
          ("sslmode".toList, "verify-full".toList),
          ("sslrootcert".toList, otelCACertFile.toList)] ∧
      ¬ ConfigContained databaseShard injectedParams := by
  have accepted : parsePostgreSQLDSN plainLibrary "postgres://u:p@h/a,b'%20host='evil" =
      .ok injectedParams := by
    decide +kernel
  have unbroken : Unbroken databaseShard injectedParams :=
    ⟨by decide, by decide, by decide, interval_databaseShard⟩
  rw [valueOf_databases unbroken, valueOf_datasource unbroken]
  refine ⟨accepted, by decide +kernel, by decide +kernel, fun contained => ?_⟩
  obtain ⟨-, name, isName, harmless⟩ :=
    (configContained_iff (accepted_of_parse accepted) interval_databaseShard).mp contained
  have quote : '\'' ∈ name.toList := by
    rw [← mem_bytesOf (by decide), isName]
    decide
  exact (harmless.chars '\'' quote).2.1 rfl

end KubeShard.Apishard
