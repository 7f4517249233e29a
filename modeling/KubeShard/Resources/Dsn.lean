import KubeShard.Program.Url
import KubeShard.Resources.Postgresql

/-!
# Connection strings

`ParsePostgreSQLDSN` of `operator/internal/resources/otel_collector.go`.  The texts are
sequences of bytes, as in `KubeShard.Url`.
-/

namespace KubeShard.Resources

/-! ## White space -/

/-- The white space of Unicode, each character as its bytes. -/
def spaces : List (List Char) :=
  ['\t', '\n', '\x0b', '\x0c', '\r', ' '].map (fun char => [char]) ++
  [['\xc2', '\x85'], ['\xc2', '\xa0'], ['\xe1', '\x9a', '\x80']] ++
  (List.range 11).map (fun offset => ['\xe2', '\x80', .ofNat (0x80 + offset)]) ++
  [['\xe2', '\x80', '\xa8'], ['\xe2', '\x80', '\xa9'], ['\xe2', '\x80', '\xaf'],
    ['\xe2', '\x81', '\x9f'], ['\xe3', '\x80', '\x80']]

/-- A text without the given texts at its start.  Each is at least one byte long, so that
the length of the text bounds how many there are. -/
def trimStart (spaces : List (List Char)) : Nat → List Char → List Char
  | 0, text => text
  | bound + 1, text =>
      match spaces.find? (·.isPrefixOf text) with
      | some space => trimStart spaces bound (text.drop space.length)
      | none => text

/-- `strings.TrimSpace`. -/
def trimSpace (text : List Char) : List Char :=
  let started := trimStart spaces text.length text
  (trimStart (spaces.map List.reverse) started.length started.reverse).reverse

/-- The visible characters of ASCII. -/
def visible (byte : Char) : Bool := 0x20 < byte.toNat && byte.toNat < 0x7f

theorem trimStart_eq {spaces : List (List Char)} {text : List Char} {first : Char}
    (bytes : ∀ space ∈ spaces, space.head?.map visible = some false)
    (isFirst : text.head? = some first) (isVisible : visible first = true) (bound : Nat) :
    trimStart spaces bound text = text := by
  obtain ⟨rest, rfl⟩ := List.head?_eq_some_iff.mp isFirst
  have started : spaces.find? (·.isPrefixOf (first :: rest)) = none := by
    rw [List.find?_eq_none]
    intro space membership starts
    obtain ⟨byte, isByte, invisible⟩ := Option.map_eq_some_iff.mp (bytes space membership)
    obtain ⟨others, rfl⟩ := List.head?_eq_some_iff.mp isByte
    have same := (List.cons_prefix_cons.mp (List.isPrefixOf_iff_prefix.mp starts)).1
    rw [same, isVisible] at invisible
    cases invisible
  cases bound with
  | zero => rfl
  | succ bound => rw [trimStart, started]

/-- A text that starts and ends visibly has no white space around it. -/
theorem trimSpace_eq {text : List Char} {first last : Char} (isFirst : text.head? = some first)
    (isLast : text.getLast? = some last) (firstVisible : visible first = true)
    (lastVisible : visible last = true) : trimSpace text = text := by
  have starts : ∀ space ∈ spaces, space.head?.map visible = some false := by decide
  have ends : ∀ space ∈ spaces.map List.reverse, space.head?.map visible = some false := by
    decide
  have isReversed : text.reverse.head? = some last := by
    rw [List.head?_reverse, isLast]
  rw [trimSpace, trimStart_eq starts isFirst firstVisible,
    trimStart_eq ends isReversed lastVisible, List.reverse_reverse]

/-! ## Parsing -/

section parsing

variable (library : Url.Library)

/-- `strings.TrimPrefix(u.Path, "/")`. -/
def databasePath (url : Url.Parts) : List Char :=
  if url.path.head? = some '/' then url.path.tail else url.path

/-- What `ParsePostgreSQLDSN` takes from a URL, with its defaults. -/
def connectionParams (url : Url.Parts) : OTelConnectionParams where
  host := .ofList (Url.splitHostPort url.host).1
  port :=
    if (Url.splitHostPort url.host).2 = [] then "5432"
    else .ofList (Url.splitHostPort url.host).2
  user := .ofList url.username
  password := .ofList url.password
  dbName := if databasePath url = [] then "kine" else .ofList (databasePath url)

/-- The values that are searched for newlines, with their names. -/
def newlineChecks (params : OTelConnectionParams) : List (String × String) :=
  [("host", params.host), ("dbname", params.dbName), ("user", params.user)]

/-- `strings.ContainsAny(value, "\n\r")`. -/
def hasNewline (value : String) : Bool := value.toList.any fun char => char == '\n' || char == '\r'

/-- The checks of `ParsePostgreSQLDSN` after the scheme. -/
def checkParams (params : OTelConnectionParams) : Except String OTelConnectionParams :=
  if params.host = "" then
    .error "invalid DSN: host is empty"
  else if params.user = "" then
    .error "invalid DSN: user is empty"
  else if params.port.toList.all Char.isDigit then
    match (newlineChecks params).find? (hasNewline ·.2) with
    | some check => .error ("invalid DSN: " ++ check.1 ++ " contains newline characters")
    | none => .ok params
  else
    .error ("invalid DSN: port " ++ library.quote params.port.toList ++
      " contains non-digit characters")

/-- `ParsePostgreSQLDSN`. -/
def parsePostgreSQLDSN (dsn : String) : Except String OTelConnectionParams := do
  let url ← (Url.parse library (trimSpace dsn.toList)).mapError ("invalid DSN: " ++ ·)
  if url.scheme ≠ "postgres".toList ∧ url.scheme ≠ "postgresql".toList then
    .error ("invalid DSN: unsupported scheme " ++ library.quote url.scheme)
  else
    checkParams library (connectionParams url)

end parsing

section accepted

variable {library : Url.Library} {params : OTelConnectionParams}

theorem checkParams_eq_ok {out : OTelConnectionParams} :
    checkParams library params = .ok out ↔
      out = params ∧ params.host ≠ "" ∧ params.user ≠ "" ∧
        (∀ char ∈ params.port.toList, char.isDigit = true) ∧
        ∀ check ∈ newlineChecks params, hasNewline check.2 = false := by
  rw [checkParams]
  by_cases emptyHost : params.host = ""
  · simp [emptyHost]
  by_cases emptyUser : params.user = ""
  · simp [emptyUser, emptyHost]
  by_cases digits : params.port.toList.all Char.isDigit = true
  · rw [if_neg emptyHost, if_neg emptyUser, if_pos digits]
    have digits := List.all_eq_true.mp digits
    cases found : (newlineChecks params).find? (hasNewline ·.2) with
    | none =>
        have plain : ∀ check ∈ newlineChecks params, hasNewline check.2 = false := by
          simpa using found
        constructor
        · intro same
          cases same
          exact ⟨rfl, emptyHost, emptyUser, digits, plain⟩
        · rintro ⟨rfl, -⟩
          rfl
    | some check =>
        constructor
        · intro failed
          cases failed
        · rintro ⟨-, -, -, -, plain⟩
          have newline := List.find?_some found
          rw [plain check (List.mem_of_find?_eq_some found)] at newline
          cases newline
  · rw [if_neg emptyHost, if_neg emptyUser, if_neg digits]
    constructor
    · intro failed
      cases failed
    · rintro ⟨-, -, -, isDigits, -⟩
      exact absurd (List.all_eq_true.mpr isDigits) digits

/-- What is accepted is a URL of PostgreSQL whose parts pass the checks. -/
theorem parsePostgreSQLDSN_eq_ok {dsn : String} :
    parsePostgreSQLDSN library dsn = .ok params ↔
      ∃ url, Url.parse library (trimSpace dsn.toList) = .ok url ∧
        (url.scheme = "postgres".toList ∨ url.scheme = "postgresql".toList) ∧
        checkParams library (connectionParams url) = .ok params := by
  rw [parsePostgreSQLDSN, Url.bind_eq_ok]
  refine exists_congr fun url => and_congr Url.mapError_eq_ok ?_
  by_cases named : url.scheme = "postgres".toList ∨ url.scheme = "postgresql".toList
  · rw [if_neg (not_and_or.mpr (named.imp not_not_intro not_not_intro))]
    exact (and_iff_right named).symm
  · rw [if_pos (not_or.mp named)]
    constructor
    · intro failed
      cases failed
    · rintro ⟨isNamed, -⟩
      exact absurd isNamed named

/-- What the values that are interpolated into a configuration are made of. -/
structure Accepted (params : OTelConnectionParams) : Prop where
  host : ∀ char ∈ params.host.toList, Url.HostByte char
  port : ∀ char ∈ params.port.toList, char.isDigit = true
  dbName : params.dbName ≠ "" ∧ ∀ char ∈ params.dbName.toList, char ≠ '\n' ∧ char ≠ '\r'

theorem accepted_of_parse {dsn : String} (parsed : parsePostgreSQLDSN library dsn = .ok params) :
    Accepted params := by
  obtain ⟨url, isUrl, -, checked⟩ := parsePostgreSQLDSN_eq_ok.mp parsed
  obtain ⟨isParams, -, -, digits, plain⟩ := checkParams_eq_ok.mp checked
  rw [isParams]
  constructor
  · intro char membership
    rw [connectionParams, String.toList_ofList] at membership
    exact Url.hostByte_parse isUrl char ((Url.splitHostPort_spec url.host).1 char membership)
  · exact digits
  · constructor
    · dsimp only [connectionParams]
      split
      · decide
      · rename_i nonempty
        intro isEmpty
        exact nonempty (by simpa using congrArg String.toList isEmpty)
    · have name := plain ("dbname", (connectionParams url).dbName) (by simp [newlineChecks])
      intro char membership
      have each := List.any_eq_false.mp name char membership
      simpa using each

end accepted

end KubeShard.Resources
