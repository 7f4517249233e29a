import Mathlib.Data.List.Infix

/-!
# Connection texts

The keyword/value texts of libpq, read as its `conninfo_parse` reads them: values may be
quoted, a backslash takes the next character as it is, and white space stands around the
equals sign and between the assignments.
-/

namespace KubeShard.Conninfo

/-- `isspace`. -/
def space (char : Char) : Bool :=
  char == ' ' || char == '\t' || char == '\n' || char == '\x0b' || char == '\x0c' || char == '\r'

/-- Where in a connection text the next character stands. -/
inductive Mode where
  /-- Between two assignments. -/
  | blank
  | keyword (name : List Char)
  /-- After a keyword and before its equals sign. -/
  | gap (name : List Char)
  /-- After an equals sign. -/
  | assign (name : List Char)
  | bare (name value : List Char)
  | bareEscape (name value : List Char)
  | quoted (name value : List Char)
  | quotedEscape (name value : List Char)

/-- What a character of a connection text does. -/
inductive Step where
  | go (mode : Mode)
  /-- It ends an assignment. -/
  | store (name value : List Char)
  | refuse

/-- One character of a connection text. -/
def step : Mode → Char → Step
  | .blank, char =>
      if space char then .go .blank
      else if char = '=' then .go (.assign [])
      else .go (.keyword [char])
  | .keyword name, char =>
      if char = '=' then .go (.assign name)
      else if space char then .go (.gap name)
      else .go (.keyword (name ++ [char]))
  | .gap name, char =>
      if space char then .go (.gap name)
      else if char = '=' then .go (.assign name)
      else .refuse
  | .assign name, char =>
      if space char then .go (.assign name)
      else if char = '\'' then .go (.quoted name [])
      else if char = '\\' then .go (.bareEscape name [])
      else .go (.bare name [char])
  | .bare name value, char =>
      if space char then .store name value
      else if char = '\\' then .go (.bareEscape name value)
      else .go (.bare name (value ++ [char]))
  | .bareEscape name value, char => .go (.bare name (value ++ [char]))
  | .quoted name value, char =>
      if char = '\\' then .go (.quotedEscape name value)
      else if char = '\'' then .store name value
      else .go (.quoted name (value ++ [char]))
  | .quotedEscape name value, char => .go (.quoted name (value ++ [char]))

/-- What the end of a connection text does: a keyword needs its equals sign, and a quote its
closing one. -/
def finish : Mode → Option (List (List Char × List Char))
  | .blank => some []
  | .keyword _ | .gap _ => none
  | .assign name => some [(name, [])]
  | .bare name value | .bareEscape name value => some [(name, value)]
  | .quoted _ _ | .quotedEscape _ _ => none

/-- The assignments of a connection text, in its order. -/
def parse (mode : Mode) : List Char → Option (List (List Char × List Char))
  | [] => finish mode
  | char :: rest =>
      match step mode char with
      | .go mode => parse mode rest
      | .store name value => (parse .blank rest).map ((name, value) :: ·)
      | .refuse => none

/-- The value between single quotes, after the opening one, and the text after the closing
one; the first character may be escaped. -/
def unquote : Bool → List Char → Option (List Char × List Char)
  | _, [] => none
  | true, char :: rest => (unquote false rest).map fun parts => (char :: parts.1, parts.2)
  | false, char :: rest =>
      if char = '\\' then unquote true rest
      else if char = '\'' then some ([], rest)
      else (unquote false rest).map fun parts => (char :: parts.1, parts.2)

/-- Between quotes, before a character that is escaped or not. -/
def Mode.inQuotes (escaped : Bool) (name value : List Char) : Mode :=
  if escaped then .quotedEscape name value else .quoted name value

section quoted

variable {name text : List Char}

/-- A quoted value is read up to its closing quote, and the assignments go on after it. -/
theorem parse_inQuotes (escaped : Bool) (value : List Char) :
    parse (.inQuotes escaped name value) text = (unquote escaped text).bind fun parts =>
      (parse .blank parts.2).map ((name, value ++ parts.1) :: ·) := by
  induction text generalizing escaped value with
  | nil => cases escaped <;> rfl
  | cons char rest hypothesis =>
      have taken : parse (.inQuotes false name (value ++ [char])) rest =
          ((unquote false rest).map fun parts => (char :: parts.1, parts.2)).bind fun parts =>
            (parse .blank parts.2).map ((name, value ++ parts.1) :: ·) := by
        rw [hypothesis]
        cases unquote false rest with
        | none => rfl
        | some parts => simp
      cases escaped with
      | true => exact taken
      | false =>
          rw [parse, Mode.inQuotes, if_neg Bool.false_ne_true, step, unquote]
          by_cases isEscape : char = '\\'
          · rw [if_pos isEscape, if_pos isEscape]
            exact hypothesis true value
          by_cases isQuote : char = '\''
          · rw [if_neg isEscape, if_neg isEscape, if_pos isQuote, if_pos isQuote]
            simp
          · rw [if_neg isEscape, if_neg isEscape, if_neg isQuote, if_neg isQuote]
            exact taken

/-- A value without quotes and backslashes is quoted as it stands. -/
theorem unquote_append (plain : ∀ char ∈ text, char ≠ '\'' ∧ char ≠ '\\') (rest : List Char) :
    unquote false (text ++ '\'' :: rest) = some (text, rest) := by
  induction text with
  | nil => rfl
  | cons char others hypothesis =>
      rw [List.forall_mem_cons] at plain
      rw [List.cons_append, unquote, if_neg plain.1.2, if_neg plain.1.1, hypothesis plain.2]
      rfl

theorem parse_quoted (plain : ∀ char ∈ text, char ≠ '\'' ∧ char ≠ '\\') (rest : List Char) :
    parse (.quoted name []) (text ++ '\'' :: rest) =
      (parse .blank rest).map ((name, text) :: ·) := by
  have read := @parse_inQuotes name (text ++ '\'' :: rest) false []
  rw [unquote_append plain] at read
  exact read

end quoted

end KubeShard.Conninfo
