import KubeShard.Program.Nested
import KubeShard.Resources.Dsn
import KubeShard.Resources.Workloads

/-!
# The configuration of the metrics collector as it is read

The host and the name of the database come from a connection string and are written into the
configuration as they are: into a YAML sequence, and into a connection text between the
double quotes of a YAML scalar.  `ParsePostgreSQLDSN` refuses line breaks in them, and
nothing else that means something there.
-/

namespace KubeShard.Resources

open Apishard

/-! ## The text -/

/-- The connection text of the collector up to its host. -/
def hostKey : String := "host='"

/-- The connection text between its host and its port. -/
def portKey : String := " port='"

/-- The connection text between its port and its database. -/
def nameKey : String :=
  " user='$\x7benv:PG_USERNAME\x7d' password='$\x7benv:PG_PASSWORD\x7d' dbname='"

/-- The connection text after its database. -/
def modeKey : String := " sslmode=verify-full sslrootcert=/etc/otel/tls/ca.crt"

/-- The connection text of the collector after its opening double quote. -/
def datasourceText (host port name : List Char) : List Char :=
  hostKey.toList ++ (host ++ '\'' :: (portKey.toList ++ (port ++ '\'' ::
    (nameKey.toList ++ (name ++ '\'' :: (modeKey.toList ++ ['"']))))))

/-- The lines before the receiver. -/
def linesToReceiver : List (List Char) :=
  ["extensions:".toList, "  health_check:".toList, "    endpoint: \"0.0.0.0:13133\"".toList, [],
    "receivers:".toList]

/-- The lines before the one that names the databases. -/
def linesToDatabases (endpoint : List Char) : List (List Char) :=
  linesToReceiver ++ ["  postgresql:".toList, "    endpoint: ".toList ++ endpoint] ++
    ["    username: $\x7benv:PG_USERNAME\x7d".toList,
      "    password: $\x7benv:PG_PASSWORD\x7d".toList]

/-- The lines between that one and the connection text. -/
def linesToDatasource (interval : List Char) : List (List Char) :=
  ["    collection_interval: ".toList ++ interval, "    tls:".toList,
    "      insecure: false".toList, "      ca_file: /etc/otel/tls/ca.crt".toList, [],
    "  sqlquery:".toList, "    driver: postgres".toList]

/-- The interval of the collector. -/
def collectionInterval (shard : APIShard) : String :=
  intervalOr (shard.spec.storage.monitoring.getD { enabled := false }).collectionInterval "30s"

/-- The configuration as its template has it, up to the connection text. -/
theorem buildOTelCollectorConfig_eq (shard : APIShard) (params : OTelConnectionParams) :
    ∃ interval queries port service : String, buildOTelCollectorConfig shard params =
      "extensions:\n  health_check:\n    endpoint: \"0.0.0.0:" ++ "13133" ++
      "\"\n\nreceivers:\n  postgresql:\n    endpoint: " ++
      joinHostPort params.host params.port ++
      "\n    username: $\x7benv:PG_USERNAME\x7d\n    password: $\x7benv:PG_PASSWORD\x7d\n    databases: [" ++
      params.dbName ++ "]\n    collection_interval: " ++ collectionInterval shard ++
      "\n    tls:\n      insecure: false\n      ca_file: " ++ otelCACertFile ++
      "\n\n  sqlquery:\n    driver: postgres\n    datasource: \"host='" ++ params.host ++
      "' port='" ++ params.port ++
      "' user='$\x7benv:PG_USERNAME\x7d' password='$\x7benv:PG_PASSWORD\x7d' dbname='" ++
        params.dbName ++
      "' sslmode=verify-full sslrootcert=" ++ otelCACertFile ++ "\"\n    collection_interval: " ++
      interval ++ queries ++ port ++ service :=
  ⟨_, _, _, _, rfl⟩

/-- The configuration up to the connection text, line by line. -/
theorem toList_buildOTelCollectorConfig (shard : APIShard) (params : OTelConnectionParams) :
    ∃ rest, (buildOTelCollectorConfig shard params).toList =
      Yaml.unlines (linesToDatabases (joinHostPort params.host params.port).toList) ++
        ("    databases: ".toList ++ '[' :: (params.dbName.toList ++ [']']) ++ '\n' ::
          (Yaml.unlines (linesToDatasource (collectionInterval shard).toList) ++
            ("    datasource: ".toList ++
              '"' :: datasourceText params.host.toList params.port.toList params.dbName.toList ++
                '\n' :: rest))) := by
  obtain ⟨interval, queries, port, service, isConfig⟩ := buildOTelCollectorConfig_eq shard params
  -- The literals of the template are cut where its lines and its values end.  A literal is
  -- `String.ofList` of its characters, and rewritten so no literal has to be decoded.
  have extensions : "extensions:\n  health_check:\n    endpoint: \"0.0.0.0:".toList ++
      "13133".toList ++ "\"\n\nreceivers:\n  postgresql:\n    endpoint: ".toList =
      Yaml.unlines ["extensions:".toList, "  health_check:".toList,
        "    endpoint: \"0.0.0.0:13133\"".toList, [], "receivers:".toList,
        "  postgresql:".toList] ++ "    endpoint: ".toList := by
    repeat rw [String.toList_ofList]
    rfl
  have credentials :
      "\n    username: $\x7benv:PG_USERNAME\x7d\n    password: $\x7benv:PG_PASSWORD\x7d\n    databases: [".toList =
      '\n' :: (Yaml.unlines ["    username: $\x7benv:PG_USERNAME\x7d".toList,
        "    password: $\x7benv:PG_PASSWORD\x7d".toList] ++
          ("    databases: ".toList ++ ['['])) := by
    repeat rw [String.toList_ofList]
    rfl
  have databases : "]\n    collection_interval: ".toList =
      ']' :: '\n' :: "    collection_interval: ".toList := by
    repeat rw [String.toList_ofList]
  have tls : "\n    tls:\n      insecure: false\n      ca_file: ".toList =
      '\n' :: (Yaml.unlines ["    tls:".toList, "      insecure: false".toList] ++
        "      ca_file: ".toList) := by
    repeat rw [String.toList_ofList]
    rfl
  have file : "      ca_file: /etc/otel/tls/ca.crt".toList =
      "      ca_file: ".toList ++ otelCACertFile.toList := by
    rw [otelCACertFile]
    repeat rw [String.toList_ofList]
    rfl
  have sqlquery : "\n\n  sqlquery:\n    driver: postgres\n    datasource: \"host='".toList =
      '\n' :: '\n' :: (Yaml.unlines ["  sqlquery:".toList, "    driver: postgres".toList] ++
        ("    datasource: ".toList ++ '"' :: hostKey.toList)) := by
    rw [hostKey]
    repeat rw [String.toList_ofList]
    rfl
  have toPort : "' port='".toList = '\'' :: portKey.toList := by
    rw [portKey]
    repeat rw [String.toList_ofList]
  have toName :
      "' user='$\x7benv:PG_USERNAME\x7d' password='$\x7benv:PG_PASSWORD\x7d' dbname='".toList =
      '\'' :: nameKey.toList := by
    rw [nameKey]
    repeat rw [String.toList_ofList]
  have toMode : "' sslmode=verify-full sslrootcert=".toList =
      '\'' :: " sslmode=verify-full sslrootcert=".toList := by
    repeat rw [String.toList_ofList]
  have mode : modeKey.toList =
      " sslmode=verify-full sslrootcert=".toList ++ otelCACertFile.toList := by
    rw [modeKey, otelCACertFile]
    repeat rw [String.toList_ofList]
    rfl
  have closing : "\"\n    collection_interval: ".toList =
      '"' :: '\n' :: "    collection_interval: ".toList := by
    repeat rw [String.toList_ofList]
  refine ⟨"    collection_interval: ".toList ++
    (interval.toList ++ (queries.toList ++ (port.toList ++ service.toList))), ?_⟩
  rw [isConfig, datasourceText, linesToDatabases, linesToReceiver, linesToDatasource, file, mode]
  simp only [String.toList_append, extensions, credentials, databases, tls, sqlquery, toPort,
    toName, toMode, closing]
  simp only [Yaml.unlines, List.flatMap_cons, List.flatMap_nil, List.append_assoc,
    List.cons_append, List.nil_append, List.append_nil]

/-- Nothing that is written into the configuration breaks its lines. -/
structure Unbroken (shard : APIShard) (params : OTelConnectionParams) : Prop where
  host : '\n' ∉ params.host.toList
  port : '\n' ∉ params.port.toList
  dbName : '\n' ∉ params.dbName.toList
  interval : '\n' ∉ (collectionInterval shard).toList

section lines

variable {shard : APIShard} {params : OTelConnectionParams}

theorem Unbroken.joinHostPort (unbroken : Unbroken shard params) :
    '\n' ∉ (joinHostPort params.host params.port).toList := by
  have colon : '\n' ∉ ":".toList := by decide
  have opening : '\n' ∉ "[".toList := by decide
  have closing : '\n' ∉ "]:".toList := by decide
  have bracketed : s!"[{params.host}]:{params.port}" = "[" ++ params.host ++ "]:" ++ params.port :=
    rfl
  have plain : s!"{params.host}:{params.port}" = params.host ++ ":" ++ params.port := rfl
  rw [Resources.joinHostPort, bracketed, plain]
  split
  · simp only [String.toList_append, List.mem_append, not_or]
    exact ⟨⟨⟨opening, unbroken.host⟩, closing⟩, unbroken.port⟩
  · simp only [String.toList_append, List.mem_append, not_or]
    exact ⟨⟨unbroken.host, colon⟩, unbroken.port⟩

theorem newline_notMem_endpoint (unbroken : Unbroken shard params) :
    '\n' ∉ "    endpoint: ".toList ++ (joinHostPort params.host params.port).toList := by
  rw [List.mem_append, not_or]
  exact ⟨by decide, unbroken.joinHostPort⟩

theorem linesToDatabases_others (unbroken : Unbroken shard params) :
    ∀ line ∈ linesToDatabases (joinHostPort params.host params.port).toList, '\n' ∉ line ∧
      "    databases: ".toList.isPrefixOf line = false ∧
      "      ca_file: ".toList.isPrefixOf line = false ∧
      "    datasource: ".toList.isPrefixOf line = false := by
  rw [linesToDatabases, List.forall_mem_append, List.forall_mem_append, List.forall_mem_cons,
    List.forall_mem_singleton]
  refine ⟨⟨?_, by decide, newline_notMem_endpoint unbroken, rfl, rfl, rfl⟩, ?_⟩
  all_goals exact List.all_iff_forall_prop.mp (by decide)

/-- The endpoint of the receiver. -/
theorem valueUnder_endpoint (unbroken : Unbroken shard params) :
    Yaml.valueUnder "  postgresql:".toList "    endpoint: ".toList
        (buildOTelCollectorConfig shard params).toList =
      some (joinHostPort params.host params.port).toList := by
  obtain ⟨rest, isConfig⟩ := toList_buildOTelCollectorConfig shard params
  have others : ∀ line ∈ linesToReceiver, '\n' ∉ line ∧ line ≠ "  postgresql:".toList :=
    List.all_iff_forall_prop.mp (by decide)
  rw [isConfig, linesToDatabases, Yaml.unlines, List.flatMap_append, List.append_assoc]
  exact Yaml.valueUnder_unlines others (by decide) (by decide) (newline_notMem_endpoint unbroken) _

theorem linesToDatasource_others (unbroken : Unbroken shard params) :
    ∀ line ∈ linesToDatasource (collectionInterval shard).toList, '\n' ∉ line ∧
      "    datasource: ".toList.isPrefixOf line = false := by
  simp only [linesToDatasource, List.forall_mem_cons]
  refine ⟨⟨?_, rfl⟩, by decide, by decide, by decide, by decide, by decide, by decide,
    fun line membership => absurd membership List.not_mem_nil⟩
  rw [List.mem_append, not_or]
  exact ⟨by decide, unbroken.interval⟩

theorem newline_notMem_databases (unbroken : Unbroken shard params) :
    '\n' ∉ "    databases: ".toList ++ '[' :: (params.dbName.toList ++ [']']) := by
  have key : '\n' ∉ "    databases: ".toList := by decide
  simp only [List.mem_append, List.mem_cons, List.not_mem_nil, or_false, not_or]
  exact ⟨key, by decide, unbroken.dbName, by decide⟩

/-- The value of the databases. -/
theorem valueOf_databases (unbroken : Unbroken shard params) :
    Yaml.valueOf "    databases: ".toList (buildOTelCollectorConfig shard params).toList =
      some ('[' :: (params.dbName.toList ++ [']'])) := by
  obtain ⟨rest, isConfig⟩ := toList_buildOTelCollectorConfig shard params
  rw [isConfig, Yaml.valueOf_unlines, Yaml.valueOf_append (newline_notMem_databases unbroken)]
  intro line membership
  obtain ⟨isWhole, differs, -⟩ := linesToDatabases_others unbroken line membership
  exact ⟨isWhole, differs⟩

/-- The line that names the databases, as one of several. -/
theorem unlines_databases (more : List Char) : "    databases: ".toList ++
    '[' :: (params.dbName.toList ++ [']']) ++ '\n' :: more =
    Yaml.unlines ["    databases: ".toList ++ '[' :: (params.dbName.toList ++ [']'])] ++ more := by
  simp [Yaml.unlines]

/-- The CA file of the receiver. -/
theorem valueOf_caFile (unbroken : Unbroken shard params) :
    Yaml.valueOf "      ca_file: ".toList (buildOTelCollectorConfig shard params).toList =
      some otelCACertFile.toList := by
  obtain ⟨rest, isConfig⟩ := toList_buildOTelCollectorConfig shard params
  have interval : '\n' ∉ "    collection_interval: ".toList ++ (collectionInterval shard).toList := by
    rw [List.mem_append, not_or]
    exact ⟨by decide, unbroken.interval⟩
  have isLines : linesToDatasource (collectionInterval shard).toList =
      ["    collection_interval: ".toList ++ (collectionInterval shard).toList,
        "    tls:".toList, "      insecure: false".toList] ++
      (("      ca_file: ".toList ++ otelCACertFile.toList) ::
        [[], "  sqlquery:".toList, "    driver: postgres".toList]) := rfl
  have isFile (more : List (List Char)) :
      Yaml.unlines (("      ca_file: ".toList ++ otelCACertFile.toList) :: more) =
        "      ca_file: ".toList ++ otelCACertFile.toList ++ '\n' :: Yaml.unlines more := by
    simp [Yaml.unlines]
  rw [isConfig, unlines_databases, isLines, Yaml.unlines_append, isFile, List.append_assoc,
    Yaml.valueOf_unlines, Yaml.valueOf_unlines, Yaml.valueOf_unlines, List.append_assoc,
    List.cons_append, Yaml.valueOf_append (by decide)]
  · rw [List.forall_mem_cons]
    exact ⟨⟨interval, rfl⟩, List.all_iff_forall_prop.mp (by decide)⟩
  · rw [List.forall_mem_singleton]
    exact ⟨newline_notMem_databases unbroken, rfl⟩
  · intro line membership
    obtain ⟨isWhole, -, differs, -⟩ := linesToDatabases_others unbroken line membership
    exact ⟨isWhole, differs⟩

theorem newline_notMem_datasourceText (unbroken : Unbroken shard params) :
    '\n' ∉ datasourceText params.host.toList params.port.toList params.dbName.toList := by
  have host : '\n' ∉ hostKey.toList := by
    rw [hostKey, String.toList_ofList]
    decide
  have port : '\n' ∉ portKey.toList := by
    rw [portKey, String.toList_ofList]
    decide
  have name : '\n' ∉ nameKey.toList := by
    rw [nameKey, String.toList_ofList]
    decide
  have mode : '\n' ∉ modeKey.toList := by
    rw [modeKey, String.toList_ofList]
    decide
  have single : '\n' ≠ '\'' := by decide
  simp only [datasourceText, List.mem_append, List.mem_cons, List.not_mem_nil, or_false, not_or]
  exact ⟨host, unbroken.host, single, port, unbroken.port, single, name, unbroken.dbName, single,
    mode, by decide⟩

/-- The value of the data source. -/
theorem valueOf_datasource (unbroken : Unbroken shard params) :
    Yaml.valueOf "    datasource: ".toList (buildOTelCollectorConfig shard params).toList =
      some ('"' :: datasourceText params.host.toList params.port.toList params.dbName.toList) := by
  obtain ⟨rest, isConfig⟩ := toList_buildOTelCollectorConfig shard params
  have whole : '\n' ∉ "    datasource: ".toList ++ '"' ::
      datasourceText params.host.toList params.port.toList params.dbName.toList := by
    have key : '\n' ∉ "    datasource: ".toList := by decide
    rw [List.mem_append, List.mem_cons, not_or, not_or]
    exact ⟨key, by decide, newline_notMem_datasourceText unbroken⟩
  rw [isConfig, unlines_databases, Yaml.valueOf_unlines, Yaml.valueOf_unlines, Yaml.valueOf_unlines,
    Yaml.valueOf_append whole]
  · exact linesToDatasource_others unbroken
  · rw [List.forall_mem_singleton]
    exact ⟨newline_notMem_databases unbroken, rfl⟩
  · intro line membership
    obtain ⟨isWhole, -, -, differs⟩ := linesToDatabases_others unbroken line membership
    exact ⟨isWhole, differs⟩

end lines

end KubeShard.Resources
