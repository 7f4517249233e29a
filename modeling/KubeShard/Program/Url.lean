import Mathlib.Data.Bool.AllAny
import Mathlib.Data.List.TakeWhile
import KubeShard.Program.Text

/-!
# URLs

Go's `net/url` as far as it takes a URL apart.  A Go string is a sequence of bytes; here it
is a list with one character for each byte, and an error is its text.
-/

namespace KubeShard.Url

/-- Functions of the standard library that are used as they are. -/
structure Library where
  /-- `netip.ParseAddr`: whether the address is an IPv4 one. -/
  parseAddr : List Char → Except String Bool
  /-- `strconv.Quote`. -/
  quote : List Char → String

/-! ## Cutting -/

/-- `strings.Cut`. -/
def cut (separator : Char) (text : List Char) : List Char × List Char :=
  (text.takeWhile (· ≠ separator), (text.dropWhile (· ≠ separator)).tail)

/-- The texts around the last separator, as `strings.LastIndex` finds it. -/
def cutLast (separator : Char) : List Char → Option (List Char × List Char)
  | [] => none
  | char :: rest =>
      match cutLast separator rest with
      | some (before, after) => some (char :: before, after)
      | none => if char = separator then some ([], rest) else none

section cutting

variable {separator : Char} {before after text : List Char}

theorem takeWhile_of_notMem (plain : separator ∉ text) :
    text.takeWhile (· ≠ separator) = text := by
  rw [List.takeWhile_eq_self_iff]
  intro char membership
  simpa using fun isSeparator : char = separator => plain (isSeparator ▸ membership)

theorem takeWhile_append_cons (plain : separator ∉ before) (after : List Char) :
    (before ++ separator :: after).takeWhile (· ≠ separator) = before := by
  rw [List.takeWhile_append_of_pos]
  · simp
  · intro char membership
    simpa using fun isSeparator : char = separator => plain (isSeparator ▸ membership)

theorem dropWhile_append_cons (plain : separator ∉ before) (after : List Char) :
    (before ++ separator :: after).dropWhile (· ≠ separator) = separator :: after := by
  rw [List.dropWhile_append_of_pos]
  · simp
  · intro char membership
    simpa using fun isSeparator : char = separator => plain (isSeparator ▸ membership)

theorem cut_append_cons (plain : separator ∉ before) (after : List Char) :
    cut separator (before ++ separator :: after) = (before, after) := by
  rw [cut, takeWhile_append_cons plain, dropWhile_append_cons plain, List.tail_cons]

theorem cut_of_notMem (plain : separator ∉ text) : cut separator text = (text, []) := by
  have dropped : text.dropWhile (· ≠ separator) = [] := by
    rw [List.dropWhile_eq_nil_iff]
    intro char membership
    simpa using fun isSeparator : char = separator => plain (isSeparator ▸ membership)
  rw [cut, takeWhile_of_notMem plain, dropped, List.tail_nil]

theorem cutLast_of_notMem (plain : separator ∉ text) : cutLast separator text = none := by
  induction text with
  | nil => rfl
  | cons char rest hypothesis =>
      rw [List.mem_cons, not_or] at plain
      rw [cutLast, hypothesis plain.2]
      exact if_neg (Ne.symm plain.1)

theorem cutLast_append_cons (before : List Char) (plain : separator ∉ after) :
    cutLast separator (before ++ separator :: after) = some (before, after) := by
  induction before with
  | nil =>
      rw [List.nil_append, cutLast, cutLast_of_notMem plain]
      exact if_pos rfl
  | cons char rest hypothesis => rw [List.cons_append, cutLast, hypothesis]

theorem eq_of_cutLast (found : cutLast separator text = some (before, after)) :
    text = before ++ separator :: after := by
  induction text generalizing before with
  | nil => cases found
  | cons char rest hypothesis =>
      rw [cutLast] at found
      cases inRest : cutLast separator rest with
      | some parts =>
          rw [inRest] at found
          cases found
          rw [hypothesis inRest, List.cons_append]
      | none =>
          rw [inRest] at found
          by_cases isSeparator : char = separator
          · rw [if_pos isSeparator] at found
            cases found
            rw [isSeparator, List.nil_append]
          · rw [if_neg isSeparator] at found
            cases found

end cutting

/-! ## Escapes -/

/-- `ishex`. -/
def isHex (char : Char) : Bool :=
  char.isDigit || ('a' ≤ char && char ≤ 'f') || ('A' ≤ char && char ≤ 'F')

/-- `unhex`. -/
def unhex (char : Char) : Nat :=
  if char.isDigit then char.toNat - '0'.toNat
  else if 'a' ≤ char && char ≤ 'f' then char.toNat - 'a'.toNat + 10
  else if 'A' ≤ char && char ≤ 'F' then char.toNat - 'A'.toNat + 10
  else 0

/-- The byte an escape stands for. -/
def escaped (high low : Char) : Char := .ofNat (16 * unhex high + unhex low)

/-- The parts of a URL that are decoded differently. -/
inductive Encoding where
  | path
  | userPassword
  | host
  | zone
  | fragment
  deriving DecidableEq

/-- What `shouldEscape` leaves as it is in a host or a zone. -/
def hostChar (char : Char) : Bool :=
  char.isAlphanum || "!$&'()*+,;=:[]<>\"-_.~".toList.contains char

/-- Which escapes `unescape` accepts. -/
def Encoding.mayEscape (mode : Encoding) (high low : Char) : Bool :=
  match mode with
  | .host => 8 ≤ unhex high || (high == '2' && low == '5')
  | .zone => (high == '2' && low == '5') || escaped high low == ' ' || hostChar (escaped high low)
  | _ => true

/-- Which other bytes `unescape` accepts. -/
def Encoding.mayStand (mode : Encoding) (char : Char) : Bool :=
  match mode with
  | .host | .zone => 0x80 ≤ char.toNat || hostChar char
  | _ => true

variable (library : Library)

/-- `unescape`. -/
def unescape (mode : Encoding) : List Char → Except String (List Char)
  | [] => .ok []
  | char :: rest =>
      if char = '%' then
        match rest with
        | high :: low :: rest =>
            if isHex high && isHex low && mode.mayEscape high low then
              (unescape mode rest).map (escaped high low :: ·)
            else
              .error ("invalid URL escape " ++ library.quote ['%', high, low])
        | _ => .error ("invalid URL escape " ++ library.quote ('%' :: rest))
      else if mode.mayStand char then
        (unescape mode rest).map (char :: ·)
      else
        .error ("invalid character " ++ library.quote [char] ++ " in host name")

section escapes

variable {library} {mode : Encoding} {text out : List Char}

theorem map_eq_ok {ε α β : Type} {f : α → β} {result : Except ε α} {value : β} :
    result.map f = .ok value ↔ ∃ before, result = .ok before ∧ f before = value := by
  cases result with
  | error failure => simp [Except.map]
  | ok before => simp [Except.map]

theorem unescape_cons {char : Char} (plain : char ≠ '%') (stands : mode.mayStand char = true)
    (rest : List Char) :
    unescape library mode (char :: rest) = (unescape library mode rest).map (char :: ·) := by
  rw [unescape.eq_def]
  simp only [if_neg plain, if_pos stands]

/-- A text without escapes stands for itself. -/
theorem unescape_eq (plain : ∀ char ∈ text, char ≠ '%' ∧ mode.mayStand char = true) :
    unescape library mode text = .ok text := by
  induction text with
  | nil => rfl
  | cons char rest hypothesis =>
      obtain ⟨unescaped, stands⟩ := plain char List.mem_cons_self
      have others :=
        hypothesis fun other membership => plain other (List.mem_cons_of_mem _ membership)
      rw [unescape_cons unescaped stands, others]
      rfl

/-- An escape makes a text shorter. -/
theorem length_unescape (decoded : unescape library mode text = .ok out) :
    out.length ≤ text.length ∧ ('%' ∈ text → out.length < text.length) := by
  fun_induction unescape library mode text generalizing out with
  | case1 =>
      cases decoded
      exact ⟨Nat.le_refl _, fun membership => absurd membership List.not_mem_nil⟩
  | case2 high low rest accepted hypothesis =>
      obtain ⟨tail, others, isOut⟩ := map_eq_ok.mp decoded
      rw [← isOut]
      have shorter := (hypothesis others).1
      simp only [List.length_cons]
      exact ⟨by omega, fun _ => by omega⟩
  | case3 => cases decoded
  | case4 => cases decoded
  | case5 char rest plain stands hypothesis =>
      obtain ⟨tail, others, isOut⟩ := map_eq_ok.mp decoded
      rw [← isOut]
      obtain ⟨shorter, strictly⟩ := hypothesis others
      simp only [List.length_cons]
      refine ⟨by omega, fun membership => ?_⟩
      have inRest := (List.mem_cons.mp membership).resolve_left (Ne.symm plain)
      have := strictly inRest
      omega
  | case6 => cases decoded

/-- The bytes of a decoded host. -/
def HostByte (char : Char) : Prop :=
  0x80 ≤ char.toNat ∨ hostChar char = true ∨ char = '%' ∨ char = ' '

theorem unhex_le (char : Char) : unhex char ≤ 15 := by
  unfold unhex
  split
  · rename_i digit
    have bound : char.toNat ≤ '9'.toNat := by
      simp only [Char.isDigit, Bool.and_eq_true, decide_eq_true_eq] at digit
      exact digit.2
    have nine : '9'.toNat = 57 := rfl
    have zero : '0'.toNat = 48 := rfl
    omega
  · split
    · rename_i letter
      simp only [Bool.and_eq_true, decide_eq_true_eq] at letter
      have bound : char.toNat ≤ 'f'.toNat := letter.2
      have last : 'f'.toNat = 102 := rfl
      have first : 'a'.toNat = 97 := rfl
      omega
    · split
      · rename_i letter
        simp only [Bool.and_eq_true, decide_eq_true_eq] at letter
        have bound : char.toNat ≤ 'F'.toNat := letter.2
        have last : 'F'.toNat = 70 := rfl
        have first : 'A'.toNat = 65 := rfl
        omega
      · exact Nat.zero_le _

theorem toNat_escaped (high low : Char) :
    (escaped high low).toNat = 16 * unhex high + unhex low := by
  have valid : (16 * unhex high + unhex low).isValidChar := by
    have := unhex_le high
    have := unhex_le low
    exact .inl (by omega)
  rw [escaped, Char.ofNat, dif_pos valid]
  rfl

theorem hostByte_escaped (isHost : mode = .host ∨ mode = .zone) {high low : Char}
    (accepted : mode.mayEscape high low = true) : HostByte (escaped high low) := by
  have percent (isPercent : (high == '2' && low == '5') = true) : HostByte (escaped high low) := by
    rw [Bool.and_eq_true, beq_iff_eq, beq_iff_eq] at isPercent
    rw [isPercent.1, isPercent.2]
    exact .inr (.inr (.inl rfl))
  rcases isHost with rfl | rfl
  · rcases Bool.or_eq_true_iff.mp accepted with beyond | isPercent
    · have beyond := of_decide_eq_true beyond
      exact .inl (by rw [toNat_escaped]; omega)
    · exact percent isPercent
  · rw [Encoding.mayEscape, Bool.or_eq_true, Bool.or_eq_true, beq_iff_eq] at accepted
    rcases accepted with (isPercent | isSpace) | plain
    · exact percent isPercent
    · exact .inr (.inr (.inr isSpace))
    · exact .inr (.inl plain)

theorem hostByte_unescape (isHost : mode = .host ∨ mode = .zone)
    (decoded : unescape library mode text = .ok out) : ∀ char ∈ out, HostByte char := by
  fun_induction unescape library mode text generalizing out with
  | case1 =>
      cases decoded
      exact fun char membership => absurd membership List.not_mem_nil
  | case2 high low rest accepted hypothesis =>
      obtain ⟨tail, others, isOut⟩ := map_eq_ok.mp decoded
      rw [Bool.and_eq_true] at accepted
      rw [← isOut, List.forall_mem_cons]
      exact ⟨hostByte_escaped isHost accepted.2, hypothesis others⟩
  | case3 => cases decoded
  | case4 => cases decoded
  | case5 char rest plain stands hypothesis =>
      obtain ⟨tail, others, isOut⟩ := map_eq_ok.mp decoded
      rw [← isOut, List.forall_mem_cons]
      refine ⟨?_, hypothesis others⟩
      rcases isHost with rfl | rfl
      all_goals
        rw [Encoding.mayStand, Bool.or_eq_true, decide_eq_true_eq] at stands
        exact stands.imp_right .inl
  | case6 => cases decoded

end escapes

/-! ## Parts of a URL -/

/-- The fields of `url.URL` that are read: the user has a name and perhaps a password, and
the host has its port. -/
structure Parts where
  scheme : List Char := []
  user : Option (List Char × Option (List Char)) := none
  host : List Char := []
  path : List Char := []
  deriving DecidableEq, Repr

namespace Parts

/-- `User.Username`, and nothing without a user. -/
def username (url : Parts) : List Char :=
  match url.user with
  | some (name, _) => name
  | none => []

/-- `User.Password`, and nothing without one. -/
def password (url : Parts) : List Char :=
  match url.user with
  | some (_, some password) => password
  | _ => []

theorem user_of_password {url : Parts} (given : url.password ≠ []) :
    ∃ name, url.user = some (name, some url.password) := by
  cases isUser : url.user with
  | none => exact absurd (by rw [password, isUser]) given
  | some user =>
      cases isPassword : user.2 with
      | none => exact absurd (by rw [password, isUser, ← Prod.eta user, isPassword]) given
      | some chars =>
          refine ⟨user.1, ?_⟩
          rw [password, isUser, ← Prod.eta user, isPassword]

end Parts

/-- `validOptionalPort`. -/
def validOptionalPort : List Char → Bool
  | [] => true
  | char :: rest => char == ':' && rest.all Char.isDigit

/-- The bytes `validUserinfo` accepts. -/
def userinfoChar (char : Char) : Bool :=
  char.isAlphanum || "-._:~!$&'()*+,;=%@".toList.contains char

/-- `getScheme`, from a character on that is not the first one. -/
def schemeRest : List Char → Option (List Char × List Char)
  | [] => none
  | char :: rest =>
      if char.isAlphanum || char == '+' || char == '-' || char == '.' then
        (schemeRest rest).map fun (scheme, path) => (char :: scheme, path)
      else if char = ':' then
        some ([], rest)
      else
        none

/-- `getScheme`. -/
def getScheme : List Char → Except String (List Char × List Char)
  | [] => .ok ([], [])
  | char :: rest =>
      if char.isAlpha then
        match schemeRest rest with
        | some (scheme, path) => .ok (char :: scheme, path)
        | none => .ok ([], char :: rest)
      else if char = ':' then
        .error "missing protocol scheme"
      else
        .ok ([], char :: rest)

/-- The text from the first `%25` on, and what stands before it. -/
def cutZone : List Char → List Char × List Char
  | [] => ([], [])
  | char :: rest =>
      if "%25".toList.isPrefixOf (char :: rest) then
        ([], char :: rest)
      else
        (char :: (cutZone rest).1, (cutZone rest).2)

/-- The part of a host that has to be a port: from the last colon on for PostgreSQL, whose
URLs may list several hosts, and from the first one on otherwise. -/
def colonPort (scheme host : List Char) : List Char :=
  if scheme = "postgresql".toList ∨ scheme = "postgres".toList then
    match cutLast ':' host with
    | some (_, port) => ':' :: port
    | none => []
  else
    host.dropWhile (· ≠ ':')

/-- `parseHost`. -/
def parseHost (scheme host : List Char) : Except String (List Char) :=
  if '[' ∈ host.tail then
    .error "invalid IP-literal"
  else if host.head? = some '[' then
    match cutLast ']' host with
    | none => .error "missing ']' in host"
    | some (bracketed, port) =>
        if validOptionalPort port then do
          let unescapedPort ← unescape library .host port
          let hostPart ← unescape library .host (cutZone bracketed.tail).1
          let zonePart ← unescape library .zone (cutZone bracketed.tail).2
          match library.parseAddr (hostPart ++ zonePart) with
          | .error failure => .error ("invalid host: " ++ failure)
          | .ok true => .error "invalid IP-literal"
          | .ok false => .ok ('[' :: hostPart ++ zonePart ++ ']' :: unescapedPort)
        else
          .error ("invalid port " ++ library.quote port ++ " after host")
  else if validOptionalPort (colonPort scheme host) then
    unescape library .host host
  else
    .error ("invalid port " ++ library.quote (colonPort scheme host) ++ " after host")

/-- `parseAuthority`. -/
def parseAuthority (scheme authority : List Char) :
    Except String (Option (List Char × Option (List Char)) × List Char) :=
  match cutLast '@' authority with
  | none => do
      let host ← parseHost library scheme authority
      return (none, host)
  | some (userinfo, rest) => do
      let host ← parseHost library scheme rest
      if userinfo.all userinfoChar then
        if ':' ∈ userinfo then
          let username ← unescape library .userPassword (cut ':' userinfo).1
          let password ← unescape library .userPassword (cut ':' userinfo).2
          return (some (username, some password), host)
        else
          let username ← unescape library .userPassword userinfo
          return (some (username, none), host)
      else
        .error "net/url: invalid userinfo"

/-- The bytes `stringContainsCTLByte` looks for. -/
def isControl (byte : Char) : Bool := byte.toNat < 0x20 || byte.toNat = 0x7f

/-- The function `parse`, which is given no fragment. -/
def parseReference (raw : List Char) : Except String Parts :=
  if raw.any isControl then
    .error "net/url: invalid control character in URL"
  else if raw = ['*'] then
    .ok { path := ['*'] }
  else do
    let split ← getScheme raw
    let scheme := split.1.map Char.toLower
    let rest := (cut '?' split.2).1
    if rest.head? ≠ some '/' ∧ scheme ≠ [] then
      return { scheme }
    else if rest.head? ≠ some '/' ∧ ':' ∈ (cut '/' rest).1 then
      .error "first path segment in URL cannot contain colon"
    else if "//".toList.isPrefixOf rest ∧ (scheme ≠ [] ∨ ¬ "///".toList.isPrefixOf rest) then
      let authority ← parseAuthority library scheme ((rest.drop 2).takeWhile (· ≠ '/'))
      let path ← unescape library .path ((rest.drop 2).dropWhile (· ≠ '/'))
      return { scheme, user := authority.1, host := authority.2, path }
    else
      let path ← unescape library .path rest
      return { scheme, path }

/-- `Parse`. -/
def parse (raw : List Char) : Except String Parts := do
  let url ← (parseReference library (cut '#' raw).1).mapError fun failure =>
    "parse " ++ library.quote (cut '#' raw).1 ++ ": " ++ failure
  let _ ← (unescape library .fragment (cut '#' raw).2).mapError fun failure =>
    "parse " ++ library.quote raw ++ ": " ++ failure
  return url

/-- The text around the last colon, if a port stands after it. -/
def cutPort (hostPort : List Char) : List Char × List Char :=
  match cutLast ':' hostPort with
  | some (host, port) => if port.all Char.isDigit then (host, port) else (hostPort, [])
  | none => (hostPort, [])

/-- `splitHostPort`. -/
def splitHostPort (hostPort : List Char) : List Char × List Char :=
  if (cutPort hostPort).1.head? = some '[' ∧ (cutPort hostPort).1.getLast? = some ']' then
    ((cutPort hostPort).1.tail.dropLast, (cutPort hostPort).2)
  else
    cutPort hostPort

/-! ## What is accepted -/

section accepted

variable {library} {raw scheme rest : List Char} {url : Parts}

theorem bind_eq_ok {ε α β : Type} {first : Except ε α} {next : α → Except ε β} {value : β} :
    (first >>= next) = .ok value ↔ ∃ middle, first = .ok middle ∧ next middle = .ok value := by
  cases first with
  | error failure =>
      constructor
      · intro failed
        cases failed
      · rintro ⟨middle, failed, -⟩
        cases failed
  | ok value =>
      constructor
      · intro same
        exact ⟨value, rfl, same⟩
      · rintro ⟨middle, isMiddle, same⟩
        cases isMiddle
        exact same

theorem mapError_eq_ok {ε ε' α : Type} {f : ε → ε'} {result : Except ε α} {value : α} :
    result.mapError f = .ok value ↔ result = .ok value := by
  cases result with
  | error failure => simp [Except.mapError]
  | ok value => simp [Except.mapError]

/-- A URL with an authority. -/
theorem parseReference_eq
    (printable : raw.any isControl = false)
    (found : getScheme raw = .ok (scheme, '/' :: '/' :: rest)) (named : scheme ≠ [])
    (lower : scheme.map Char.toLower = scheme) :
    parseReference library raw = (do
      let authority ← parseAuthority library scheme ((cut '?' rest).1.takeWhile (· ≠ '/'))
      let path ← unescape library .path ((cut '?' rest).1.dropWhile (· ≠ '/'))
      return { scheme, user := authority.1, host := authority.2, path }) := by
  have star : raw ≠ ['*'] := by
    intro isStar
    rw [isStar] at found
    exact named (Prod.mk.inj (Except.ok.inj found)).1.symm
  have cutRest : (cut '?' ('/' :: '/' :: rest)).1 = '/' :: '/' :: (cut '?' rest).1 := rfl
  rw [parseReference, printable, if_neg Bool.false_ne_true, if_neg star, found]
  simp only [bind, Except.bind, lower, cutRest]
  simp [named]

/-- What is accepted is accepted for its authority. -/
theorem authority_of_parse (found : getScheme (cut '#' raw).1 = .ok (scheme, '/' :: '/' :: rest))
    (named : scheme ≠ []) (lower : scheme.map Char.toLower = scheme)
    (accepted : parse library raw = .ok url) :
    parseAuthority library scheme ((cut '?' rest).1.takeWhile (· ≠ '/')) =
      .ok (url.user, url.host) := by
  obtain ⟨read, isRead, others⟩ := bind_eq_ok.mp accepted
  obtain ⟨fragment, -, isUrl⟩ := bind_eq_ok.mp others
  cases isUrl
  have isRead := mapError_eq_ok.mp isRead
  have printable : (cut '#' raw).1.any isControl = false := by
    rw [Bool.eq_false_iff]
    intro control
    rw [parseReference, if_pos control] at isRead
    cases isRead
  rw [parseReference_eq printable found named lower] at isRead
  obtain ⟨authority, isAuthority, others⟩ := bind_eq_ok.mp isRead
  obtain ⟨path, -, isUrl⟩ := bind_eq_ok.mp others
  cases isUrl
  exact isAuthority

/-- A password is the decoded text between the first colon and the last `@`. -/
theorem password_of_parseAuthority {authority host username password : List Char}
    (accepted : parseAuthority library scheme authority =
      .ok (some (username, some password), host)) :
    ∃ userinfo hostPort, authority = userinfo ++ '@' :: hostPort ∧
      (∀ char ∈ userinfo, userinfoChar char = true) ∧
      unescape library .userPassword (cut ':' userinfo).2 = .ok password := by
  rw [parseAuthority] at accepted
  cases found : cutLast '@' authority with
  | none =>
      rw [found] at accepted
      obtain ⟨host, -, isUser⟩ := bind_eq_ok.mp accepted
      cases isUser
  | some parts =>
      rw [found] at accepted
      obtain ⟨host, -, rest⟩ := bind_eq_ok.mp accepted
      refine ⟨parts.1, parts.2, eq_of_cutLast found, ?_⟩
      split at rest
      · rename_i valid
        refine ⟨List.all_eq_true.mp valid, ?_⟩
        split at rest
        · obtain ⟨username, -, others⟩ := bind_eq_ok.mp rest
          obtain ⟨password, isPassword, isUser⟩ := bind_eq_ok.mp others
          cases isUser
          exact isPassword
        · obtain ⟨username, -, isUser⟩ := bind_eq_ok.mp rest
          cases isUser
      · cases rest

theorem hostByte_parseHost {host out : List Char}
    (accepted : parseHost library scheme host = .ok out) : ∀ char ∈ out, HostByte char := by
  rw [parseHost] at accepted
  split at accepted
  · cases accepted
  split at accepted
  · split at accepted
    · cases accepted
    split at accepted
    · obtain ⟨port, isPort, others⟩ := bind_eq_ok.mp accepted
      obtain ⟨address, isAddress, others⟩ := bind_eq_ok.mp others
      obtain ⟨zone, isZone, others⟩ := bind_eq_ok.mp others
      split at others
      · cases others
      · cases others
      · cases others
        intro char membership
        simp only [List.mem_cons, List.mem_append] at membership
        rcases membership with ((isBracket | inAddress) | inZone) | isBracket | inPort
        · exact .inr (.inl (by rw [isBracket]; rfl))
        · exact hostByte_unescape (.inl rfl) isAddress char inAddress
        · exact hostByte_unescape (.inr rfl) isZone char inZone
        · exact .inr (.inl (by rw [isBracket]; rfl))
        · exact hostByte_unescape (.inl rfl) isPort char inPort
    · cases accepted
  · split at accepted
    · exact hostByte_unescape (.inl rfl) accepted
    · cases accepted

theorem hostByte_parseAuthority {authority : List Char}
    {parts : Option (List Char × Option (List Char)) × List Char}
    (accepted : parseAuthority library scheme authority = .ok parts) :
    ∀ char ∈ parts.2, HostByte char := by
  rw [parseAuthority] at accepted
  split at accepted
  · obtain ⟨host, isHost, isParts⟩ := bind_eq_ok.mp accepted
    cases isParts
    exact hostByte_parseHost isHost
  · obtain ⟨host, isHost, others⟩ := bind_eq_ok.mp accepted
    suffices parts.2 = host by
      rw [this]
      exact hostByte_parseHost isHost
    split at others
    · split at others
      · obtain ⟨username, -, others⟩ := bind_eq_ok.mp others
        obtain ⟨password, -, isParts⟩ := bind_eq_ok.mp others
        cases isParts
        rfl
      · obtain ⟨username, -, isParts⟩ := bind_eq_ok.mp others
        cases isParts
        rfl
    · cases others

/-- The host of a URL is made of bytes a host may have. -/
theorem hostByte_parse (accepted : parse library raw = .ok url) :
    ∀ char ∈ url.host, HostByte char := by
  have absent : ∀ char ∈ ([] : List Char), HostByte char := fun char membership =>
    absurd membership List.not_mem_nil
  obtain ⟨read, isRead, others⟩ := bind_eq_ok.mp accepted
  obtain ⟨fragment, -, isUrl⟩ := bind_eq_ok.mp others
  cases isUrl
  have isRead := mapError_eq_ok.mp isRead
  rw [parseReference] at isRead
  split at isRead
  · cases isRead
  split at isRead
  · cases isRead
    exact absent
  obtain ⟨split, -, others⟩ := bind_eq_ok.mp isRead
  dsimp only at others
  split at others
  · cases others
    exact absent
  split at others
  · cases others
  split at others
  · obtain ⟨authority, isAuthority, others⟩ := bind_eq_ok.mp others
    obtain ⟨path, -, isUrl⟩ := bind_eq_ok.mp others
    cases isUrl
    exact hostByte_parseAuthority isAuthority
  · obtain ⟨path, -, isUrl⟩ := bind_eq_ok.mp others
    cases isUrl
    exact absent

end accepted

theorem cutPort_spec (hostPort : List Char) :
    (∀ char ∈ (cutPort hostPort).1, char ∈ hostPort) ∧
      ∀ char ∈ (cutPort hostPort).2, char.isDigit = true := by
  have whole : (∀ char ∈ (hostPort, ([] : List Char)).1, char ∈ hostPort) ∧
      ∀ char ∈ (hostPort, ([] : List Char)).2, char.isDigit = true :=
    ⟨fun char membership => membership, fun char membership => absurd membership List.not_mem_nil⟩
  rw [cutPort]
  split
  · rename_i host port found
    split
    · rename_i digits
      constructor
      · intro char membership
        rw [eq_of_cutLast found]
        exact List.mem_append_left _ membership
      · exact List.all_eq_true.mp digits
    · exact whole
  · exact whole

/-- A host is part of what it was split from, and a port is digits. -/
theorem splitHostPort_spec (hostPort : List Char) :
    (∀ char ∈ (splitHostPort hostPort).1, char ∈ hostPort) ∧
      ∀ char ∈ (splitHostPort hostPort).2, char.isDigit = true := by
  obtain ⟨inside, digits⟩ := cutPort_spec hostPort
  rw [splitHostPort]
  split
  · refine ⟨fun char membership => ?_, digits⟩
    exact inside char (List.mem_of_mem_tail (List.mem_of_mem_dropLast membership))
  · exact ⟨inside, digits⟩

/-! ## URLs without escapes -/

section plain

variable {library} {scheme host port username password : List Char}

theorem isControl_of_isAlphanum {char : Char} (alphanumeric : char.isAlphanum = true) :
    isControl char = false := by
  have range := Text.isAlphanum_iff.mp alphanumeric
  simp only [isControl, Bool.or_eq_false_iff, decide_eq_false_iff_not]
  omega

/-- The bytes that end no part of a URL before its path. -/
def Inner (char : Char) : Prop := isControl char = false ∧ char ≠ '#' ∧ char ≠ '?' ∧ char ≠ '/'

instance : DecidablePred Inner := fun char =>
  inferInstanceAs (Decidable (isControl char = false ∧ char ≠ '#' ∧ char ≠ '?' ∧ char ≠ '/'))

theorem inner_of_isAlphanum {char : Char} (alphanumeric : char.isAlphanum = true) : Inner char := by
  refine ⟨isControl_of_isAlphanum alphanumeric, ?_, ?_, ?_⟩
  all_goals
    rintro rfl
    exact absurd alphanumeric (by decide)

theorem inner_of_userinfoChar {char : Char} (accepted : userinfoChar char = true) : Inner char := by
  have listed : ∀ char ∈ "-._:~!$&'()*+,;=%@".toList, Inner char :=
    List.all_iff_forall_prop.mp (by decide)
  rw [userinfoChar, Bool.or_eq_true, List.contains_iff_mem] at accepted
  exact accepted.elim inner_of_isAlphanum (listed char)

theorem inner_of_hostChar {char : Char} (accepted : hostChar char = true) : Inner char := by
  have listed : ∀ char ∈ "!$&'()*+,;=:[]<>\"-_.~".toList, Inner char :=
    List.all_iff_forall_prop.mp (by decide)
  rw [hostChar, Bool.or_eq_true, List.contains_iff_mem] at accepted
  exact accepted.elim inner_of_isAlphanum (listed char)

/-- A host has no control characters and no backslashes. -/
theorem HostByte.printable {char : Char} (isHost : HostByte char) :
    0x20 ≤ char.toNat ∧ char ≠ '\\' := by
  rcases isHost with beyond | accepted | rfl | rfl
  · refine ⟨by omega, ?_⟩
    rintro rfl
    exact absurd beyond (by decide)
  · obtain ⟨uncontrolled, -⟩ := inner_of_hostChar accepted
    rw [isControl, Bool.or_eq_false_iff, decide_eq_false_iff_not] at uncontrolled
    refine ⟨Nat.le_of_not_lt uncontrolled.1, ?_⟩
    rintro rfl
    exact absurd accepted (by decide)
  · decide
  · decide

/-- A URL with an authority and perhaps a path, a query or both. -/
theorem parse_parts {raw rest out : List Char}
    {parts : Option (List Char × Option (List Char)) × List Char}
    (printable : ∀ char ∈ raw, isControl char = false ∧ char ≠ '#')
    (found : getScheme raw = .ok (scheme, '/' :: '/' :: rest))
    (named : scheme ≠ []) (lower : scheme.map Char.toLower = scheme)
    (isAuthority : parseAuthority library scheme ((cut '?' rest).1.takeWhile (· ≠ '/')) =
      .ok parts)
    (isPath : unescape library .path ((cut '?' rest).1.dropWhile (· ≠ '/')) = .ok out) :
    parse library raw = .ok { scheme, user := parts.1, host := parts.2, path := out } := by
  have isReference : cut '#' raw = (raw, []) :=
    cut_of_notMem fun membership => (printable '#' membership).2 rfl
  have uncontrolled : raw.any isControl = false := by
    rw [List.any_eq_false]
    intro char membership
    rw [(printable char membership).1]
    exact Bool.false_ne_true
  rw [parse, isReference]
  simp only [parseReference_eq uncontrolled found named lower, isAuthority, isPath]
  rfl

/-- A URL with an authority, a path and a query. -/
theorem parse_eq {raw authority path query out : List Char}
    {parts : Option (List Char × Option (List Char)) × List Char}
    (printable : ∀ char ∈ raw, isControl char = false ∧ char ≠ '#')
    (found : getScheme raw = .ok (scheme, '/' :: '/' :: (authority ++ '/' :: path ++ '?' :: query)))
    (named : scheme ≠ []) (lower : scheme.map Char.toLower = scheme)
    (inner : ∀ char ∈ authority, Inner char) (noQuery : '?' ∉ path)
    (isAuthority : parseAuthority library scheme authority = .ok parts)
    (isPath : unescape library .path ('/' :: path) = .ok out) :
    parse library raw = .ok { scheme, user := parts.1, host := parts.2, path := out } := by
  have noQuestion : '?' ∉ authority ++ '/' :: path := by
    rw [List.mem_append, List.mem_cons, not_or, not_or]
    exact ⟨fun membership => (inner '?' membership).2.2.1 rfl, by decide, noQuery⟩
  have noSlash : '/' ∉ authority := fun membership => (inner '/' membership).2.2.2 rfl
  apply parse_parts printable found named lower
  · rwa [cut_append_cons noQuestion, takeWhile_append_cons noSlash]
  · rwa [cut_append_cons noQuestion, dropWhile_append_cons noSlash]

/-- A host that is read as it stands, with its port if it has one. -/
theorem parseHost_plain (plain : ∀ char ∈ host, hostChar char = true ∧ char ≠ '[')
    (valid : validOptionalPort (colonPort scheme host) = true) :
    parseHost library scheme host = .ok host := by
  have noTail : '[' ∉ host.tail := fun membership =>
    (plain '[' (List.mem_of_mem_tail membership)).2 rfl
  have noHead : host.head? ≠ some '[' := fun isHead =>
    (plain '[' (List.mem_of_head? isHead)).2 rfl
  rw [parseHost, if_neg noTail, if_neg noHead, if_pos valid]
  apply unescape_eq
  intro char membership
  obtain ⟨isHostChar, -⟩ := plain char membership
  constructor
  · intro isPercent
    rw [isPercent] at isHostChar
    exact absurd isHostChar (by decide)
  · simp [Encoding.mayStand, isHostChar]

/-- A host with a port has the characters of a host. -/
theorem hostChar_withPort (plain : ∀ char ∈ host, hostChar char = true ∧ char ≠ '[')
    (digits : ∀ char ∈ port, char.isDigit = true) :
    ∀ char ∈ host ++ ':' :: port, hostChar char = true ∧ char ≠ '[' := by
  rw [List.forall_mem_append, List.forall_mem_cons]
  refine ⟨plain, by decide, fun char membership => ?_⟩
  have digit := digits char membership
  constructor
  · rw [hostChar, Text.isAlphanum_of_isDigit digit, Bool.true_or]
  · intro isBracket
    rw [isBracket] at digit
    exact absurd digit (by decide)

/-- A host with a port, read as PostgreSQL's. -/
theorem parseHost_eq (postgres : scheme = "postgresql".toList ∨ scheme = "postgres".toList)
    (plain : ∀ char ∈ host, hostChar char = true ∧ char ≠ '[')
    (digits : ∀ char ∈ port, char.isDigit = true) :
    parseHost library scheme (host ++ ':' :: port) = .ok (host ++ ':' :: port) := by
  have noColon : ':' ∉ port := fun membership => absurd (digits ':' membership) (by decide)
  have isPort : colonPort scheme (host ++ ':' :: port) = ':' :: port := by
    rw [colonPort, if_pos postgres, cutLast_append_cons host noColon]
  apply parseHost_plain (hostChar_withPort plain digits)
  rw [isPort]
  simpa [validOptionalPort] using digits

theorem parseAuthority_eq {hostPort out : List Char} (username : List Char) (noAt : '@' ∉ hostPort)
    (plainName : ∀ char ∈ username, userinfoChar char = true ∧ char ≠ '%' ∧ char ≠ ':')
    (plainPassword : ∀ char ∈ password, userinfoChar char = true ∧ char ≠ '%')
    (isHost : parseHost library scheme hostPort = .ok out) :
    parseAuthority library scheme (username ++ ':' :: password ++ '@' :: hostPort) =
      .ok (some (username, some password), out) := by
  have valid : (username ++ ':' :: password).all userinfoChar = true := by
    rw [List.all_eq_true, List.forall_mem_append, List.forall_mem_cons]
    exact ⟨fun char membership => (plainName char membership).1, by decide,
      fun char membership => (plainPassword char membership).1⟩
  have colon : ':' ∈ username ++ ':' :: password :=
    List.mem_append_right _ List.mem_cons_self
  have isCut : cut ':' (username ++ ':' :: password) = (username, password) :=
    cut_append_cons (fun membership => (plainName ':' membership).2.2 rfl) password
  have isName : unescape library .userPassword username = .ok username :=
    unescape_eq fun char membership => ⟨(plainName char membership).2.1, rfl⟩
  have isPassword : unescape library .userPassword password = .ok password :=
    unescape_eq fun char membership => ⟨(plainPassword char membership).2, rfl⟩
  rw [parseAuthority, cutLast_append_cons _ noAt]
  simp only [isHost, valid, colon, isCut, isName, isPassword, if_true]
  rfl

/-- A host without brackets and its port. -/
theorem splitHostPort_eq (noBracket : '[' ∉ host) (digits : ∀ char ∈ port, char.isDigit = true) :
    splitHostPort (host ++ ':' :: port) = (host, port) := by
  have noColon : ':' ∉ port := fun membership => absurd (digits ':' membership) (by decide)
  have isCut : cutPort (host ++ ':' :: port) = (host, port) := by
    rw [cutPort, cutLast_append_cons host noColon]
    exact if_pos (List.all_eq_true.mpr digits)
  rw [splitHostPort, isCut, if_neg]
  rintro ⟨isHead, -⟩
  exact noBracket (List.mem_of_head? isHead)

/-! ## The host of a URL -/

/-- The host of a URL that can be read, without its port. -/
def hostOf (library : Library) (raw : List Char) : Option (List Char) :=
  (parse library raw).toOption.map fun url => (splitHostPort url.host).1

/-- A URL of a host, with the port in `rest` if it has one. -/
theorem hostOf_https (plain : ∀ char ∈ host, hostChar char = true ∧ char ≠ '[' ∧ char ≠ ':')
    {rest : List Char} (isPort : rest = [] ∨ ∃ port, rest = ':' :: port ∧
      ∀ char ∈ port, char.isDigit = true) :
    hostOf library ("https://".toList ++ (host ++ rest)) = some host := by
  have noBracket : '[' ∉ host := fun membership => (plain '[' membership).2.1 rfl
  have noColon : ':' ∉ host := fun membership => (plain ':' membership).2.2 rfl
  have hostPlain : ∀ char ∈ host, hostChar char = true ∧ char ≠ '[' := fun char membership =>
    ⟨(plain char membership).1, (plain char membership).2.1⟩
  have whole : ∀ char ∈ host ++ rest, hostChar char = true ∧ char ≠ '[' := by
    rcases isPort with rfl | ⟨port, rfl, digits⟩
    · rwa [List.append_nil]
    · exact hostChar_withPort hostPlain digits
  have isRest : (host ++ rest).dropWhile (· ≠ ':') = rest := by
    rcases isPort with rfl | ⟨port, rfl, digits⟩
    · rw [List.append_nil, List.dropWhile_eq_nil_iff]
      intro char membership
      exact decide_eq_true (plain char membership).2.2
    · exact dropWhile_append_cons noColon port
  have valid : validOptionalPort (colonPort "https".toList (host ++ rest)) = true := by
    rw [colonPort, if_neg (by decide), isRest]
    rcases isPort with rfl | ⟨port, rfl, digits⟩
    · rfl
    · simpa [validOptionalPort] using digits
  have isSplit : (splitHostPort (host ++ rest)).1 = host := by
    rcases isPort with rfl | ⟨port, rfl, digits⟩
    · rw [List.append_nil, splitHostPort, cutPort, cutLast_of_notMem noColon, if_neg]
      rintro ⟨isHead, -⟩
      exact noBracket (List.mem_of_head? isHead)
    · rw [splitHostPort_eq noBracket digits]
  have inner : ∀ char ∈ host ++ rest, Inner char := fun char membership =>
    inner_of_hostChar (whole char membership).1
  have printable : ∀ char ∈ "https://".toList ++ (host ++ rest),
      isControl char = false ∧ char ≠ '#' := by
    rw [List.forall_mem_append]
    exact ⟨List.all_iff_forall_prop.mp (by decide),
      fun char membership => ⟨(inner char membership).1, (inner char membership).2.1⟩⟩
  have isCut : (cut '?' (host ++ rest)).1 = host ++ rest := by
    rw [cut_of_notMem fun membership => (inner '?' membership).2.2.1 rfl]
  have noSlash : '/' ∉ host ++ rest := fun membership => (inner '/' membership).2.2.2 rfl
  have noAt : '@' ∉ host ++ rest := fun membership =>
    absurd (whole '@' membership).1 (by decide)
  have isAuthority : parseAuthority library "https".toList (host ++ rest) =
      .ok (none, host ++ rest) := by
    rw [parseAuthority, cutLast_of_notMem noAt]
    simp only [parseHost_plain whole valid]
    rfl
  have isUrl : parse library ("https://".toList ++ (host ++ rest)) =
      .ok { scheme := "https".toList, host := host ++ rest } := by
    apply @parse_parts _ _ _ (host ++ rest) [] (none, host ++ rest) printable rfl
    · decide
    · decide
    · rwa [isCut, takeWhile_of_notMem noSlash]
    · rw [isCut, List.dropWhile_eq_nil_iff.mpr]
      · rfl
      · intro char membership
        exact decide_eq_true fun isSlash => noSlash (isSlash ▸ membership)
  rw [hostOf, isUrl]
  exact congrArg some isSplit

/-- The value of a parameter in the query of a URL. -/
def parameter (key raw : List Char) : Option (List Char) :=
  ((cut '?' (cut '#' raw).1).2.splitOn '&').findSome? (Text.after (key ++ ['=']))

theorem parameter_eq {before : List Char} (plain : ∀ char ∈ before, char ≠ '#' ∧ char ≠ '?')
    {query : List Char} (noFragment : '#' ∉ query) (key : List Char) :
    parameter key (before ++ '?' :: query) =
      (query.splitOn '&').findSome? (Text.after (key ++ ['='])) := by
  have noHash : '#' ∉ before ++ '?' :: query := by
    rw [List.mem_append, List.mem_cons, not_or, not_or]
    exact ⟨fun membership => (plain '#' membership).1 rfl, by decide, noFragment⟩
  rw [parameter, cut_of_notMem noHash,
    cut_append_cons fun membership => (plain '?' membership).2 rfl]

end plain

end KubeShard.Url
