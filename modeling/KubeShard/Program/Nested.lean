import KubeShard.Program.Conninfo
import KubeShard.Program.Yaml

/-!
# A connection text in a quoted scalar

A connection text that stands between the double quotes of a YAML scalar goes through two
kinds of escapes.  A value written there between single quotes comes out as it went in only
if neither kind finds anything to do in it.
-/

namespace KubeShard.Nested

open Conninfo (Mode)

/-- A character that neither reader treats specially between its quotes. -/
def Untouched (char : Char) : Prop := Yaml.Verbatim char ∧ char ≠ '\''

instance : DecidablePred Untouched := fun char =>
  inferInstanceAs (Decidable (Yaml.Verbatim char ∧ char ≠ '\''))

/-- The assignments of the connection text that a double-quoted scalar holds from some
point on, if the scalar goes on to the end of the text. -/
def connection (mode : Mode) (text : List Char) : Option (List (List Char × List Char)) :=
  (Yaml.doubleQuoted .text text).bind fun parts =>
    if parts.2 = [] then Conninfo.parse mode parts.1 else none

variable {mode : Mode} {text rest name : List Char} {assignments : List (List Char × List Char)}

theorem connection_eq_some : connection mode text = some assignments ↔
    ∃ content, Yaml.doubleQuoted .text text = some (content, []) ∧
      Conninfo.parse mode content = some assignments := by
  rw [connection, Option.bind_eq_some_iff]
  constructor
  · rintro ⟨⟨content, after⟩, read, parsed⟩
    dsimp only at parsed
    split at parsed
    · rename_i isEnd
      exact ⟨content, by rw [read, isEnd], parsed⟩
    · cases parsed
  · rintro ⟨content, read, parsed⟩
    exact ⟨(content, []), read, parsed⟩

/-- Text that is not escaped is passed on to the connection text. -/
theorem connection_append {next : Mode} {front : List (List Char × List Char)}
    (verbatim : ∀ char ∈ text, Yaml.Verbatim char)
    (reads : ∀ rest, Conninfo.parse mode (text ++ rest) =
      (Conninfo.parse next rest).map (front ++ ·)) (rest : List Char) :
    connection mode (text ++ rest) = (connection next rest).map (front ++ ·) := by
  rw [connection, connection, Yaml.doubleQuoted_append verbatim]
  cases Yaml.doubleQuoted .text rest with
  | none => rfl
  | some parts =>
      simp only [Option.map_some, Option.bind_some]
      split
      · exact reads parts.1
      · rfl

/-- Text that only leads on to the next assignment. -/
theorem connection_lead {next : Mode} (verbatim : ∀ char ∈ text, Yaml.Verbatim char)
    (reads : ∀ rest, Conninfo.parse mode (text ++ rest) = Conninfo.parse next rest)
    (rest : List Char) : connection mode (text ++ rest) = connection next rest := by
  have passed := @connection_append mode text next [] verbatim
    (fun rest => by rw [reads]; exact Option.map_id'.symm) rest
  rw [passed]
  exact Option.map_id'

/-- A value that neither reader touches is assigned as it stands. -/
theorem connection_value (untouched : ∀ char ∈ text, Untouched char) (rest : List Char) :
    connection (.quoted name []) (text ++ '\'' :: rest) =
      (connection .blank rest).map ([(name, text)] ++ ·) := by
  have verbatim : ∀ char ∈ text ++ ['\''], Yaml.Verbatim char := by
    rw [List.forall_mem_append, List.forall_mem_singleton]
    exact ⟨fun char membership => (untouched char membership).1, by decide⟩
  have plain : ∀ char ∈ text, char ≠ '\'' ∧ char ≠ '\\' := fun char membership =>
    ⟨(untouched char membership).2, (untouched char membership).1.2.2⟩
  have reads (rest : List Char) : Conninfo.parse (.quoted name []) (text ++ ['\''] ++ rest) =
      (Conninfo.parse .blank rest).map ([(name, text)] ++ ·) := by
    rw [List.append_assoc]
    exact Conninfo.parse_quoted plain rest
  have passed := connection_append verbatim reads rest
  rwa [List.append_assoc] at passed

/-! ## What comes out as it went in -/

section lengths

variable {content value after tail : List Char}

theorem unquote_none (unclosed : '\'' ∉ text) (escaped : Bool) :
    Conninfo.unquote escaped text = none := by
  induction text generalizing escaped with
  | nil => cases escaped <;> rfl
  | cons char others hypothesis =>
      rw [List.mem_cons, not_or] at unclosed
      have others := hypothesis unclosed.2
      cases escaped with
      | true => rw [Conninfo.unquote, others, Option.map_none]
      | false =>
          rw [Conninfo.unquote]
          split
          · exact others true
          · rw [if_neg (Ne.symm unclosed.1), others, Option.map_none]

/-- One character of the content gives at most one character of the value. -/
theorem unquote_cons {escaped : Bool} {char : Char}
    (unquoted : Conninfo.unquote escaped (char :: content) = some (value, after)) :
    value = [] ∨ ∃ escaped rest, Conninfo.unquote escaped content = some (rest, after) ∧
      value.length ≤ rest.length + 1 := by
  cases escaped with
  | true =>
      obtain ⟨parts, isParts, same⟩ := Option.map_eq_some_iff.mp unquoted
      cases same
      exact .inr ⟨false, parts.1, isParts, Nat.le_refl _⟩
  | false =>
      rw [Conninfo.unquote] at unquoted
      split at unquoted
      · exact .inr ⟨true, value, unquoted, Nat.le_succ _⟩
      split at unquoted
      · cases unquoted
        exact .inl rfl
      · obtain ⟨parts, isParts, same⟩ := Option.map_eq_some_iff.mp unquoted
        cases same
        exact .inr ⟨false, parts.1, isParts, Nat.le_refl _⟩

/-- A value is not longer than its text, if what follows its closing quote has no other. -/
theorem length_value {position : Yaml.Mode} {escaped : Bool}
    (verbatim : ∀ char ∈ tail, Untouched char)
    (read : Yaml.doubleQuoted position (text ++ '\'' :: (tail ++ ['"'])) = some (content, []))
    (unquoted : Conninfo.unquote escaped content = some (value, after)) :
    value.length ≤ text.length := by
  induction text generalizing position escaped content value with
  | nil =>
      have rest : Yaml.doubleQuoted .text (tail ++ ['"']) = some (tail, []) := by
        rw [Yaml.doubleQuoted_append fun char membership => (verbatim char membership).1]
        simp [Yaml.doubleQuoted, Yaml.step]
      rw [List.nil_append, Yaml.doubleQuoted] at read
      cases position with
      | text =>
          rw [Yaml.step_text (by decide), rest] at read
          cases read
          have unclosed : '\'' ∉ tail := fun membership => (verbatim '\'' membership).2 rfl
          cases escaped with
          | true =>
              rw [Conninfo.unquote, unquote_none unclosed] at unquoted
              cases unquoted
          | false =>
              cases unquoted
              exact Nat.le_refl _
      | escape => cases read
      | code more number => cases read
  | cons char others hypothesis =>
      rw [List.cons_append, Yaml.doubleQuoted] at read
      cases isStep : Yaml.step position char with
      | close =>
          rw [isStep] at read
          have isEnd := congrArg Prod.snd (Option.some.inj read)
          exact absurd isEnd (by simp)
      | refuse =>
          rw [isStep] at read
          cases read
      | go next =>
          rw [isStep] at read
          exact Nat.le_succ_of_le (hypothesis read unquoted)
      | emit emitted =>
          rw [isStep] at read
          obtain ⟨⟨front, final⟩, isParts, same⟩ := Option.map_eq_some_iff.mp read
          cases same
          rcases unquote_cons unquoted with isEmpty | ⟨escaped, rest, isRest, longer⟩
          · rw [isEmpty]
            exact Nat.zero_le _
          · have shorter := hypothesis isParts isRest
            rw [List.length_cons]
            omega

/-- After an escape in the text, the value is not longer than what is left of the text. -/
def EscapesShorten (text tail : List Char) : Prop :=
  ∀ front back, text = front ++ '\\' :: back → ∀ content value after,
    Yaml.doubleQuoted .escape (back ++ '\'' :: tail) = some (content, []) →
    Conninfo.unquote false content = some (value, after) → value.length ≤ back.length

theorem escapesShorten_of_notMem (unescaped : '\\' ∉ text) : EscapesShorten text tail := by
  intro front back isText
  rw [isText] at unescaped
  exact absurd (List.mem_append_right _ List.mem_cons_self) unescaped

theorem escapesShorten_of_untouched (untouched : ∀ char ∈ tail, Untouched char) :
    EscapesShorten text (tail ++ ['"']) :=
  fun _ _ _ _ _ _ read unquoted => length_value untouched read unquoted

/-- A value that is as long as its text was not touched, unless an escape made up for what
it lost. -/
theorem untouched_of_length
    (escape : EscapesShorten text tail)
    (read : Yaml.doubleQuoted .text (text ++ '\'' :: tail) = some (content, []))
    (unquoted : Conninfo.unquote false content = some (value, after))
    (long : text.length ≤ value.length) : ∀ char ∈ text, Untouched char := by
  induction text generalizing content value with
  | nil => exact fun char membership => absurd membership List.not_mem_nil
  | cons char others hypothesis =>
      rw [List.cons_append, Yaml.doubleQuoted] at read
      by_cases isQuote : char = '"'
      · rw [isQuote] at read
        have isEnd := congrArg Prod.snd (Option.some.inj read)
        exact absurd isEnd (by simp)
      by_cases isEscape : char = '\\'
      · rw [isEscape] at read
        have shorter := escape [] others (by rw [isEscape, List.nil_append]) _ _ _ read unquoted
        rw [List.length_cons] at long
        omega
      by_cases isJson : Yaml.jsonChar char = true
      · rw [Yaml.step_text ⟨isJson, isQuote, isEscape⟩] at read
        obtain ⟨⟨front, final⟩, isParts, same⟩ := Option.map_eq_some_iff.mp read
        cases same
        rw [Conninfo.unquote, if_neg isEscape] at unquoted
        by_cases closes : char = '\''
        · rw [if_pos closes] at unquoted
          cases unquoted
          exact absurd long (by simp)
        · rw [if_neg closes] at unquoted
          obtain ⟨parts, isValue, same⟩ := Option.map_eq_some_iff.mp unquoted
          cases same
          rw [List.forall_mem_cons]
          refine ⟨⟨⟨isJson, isQuote, isEscape⟩, closes⟩, ?_⟩
          apply hypothesis _ isParts isValue (Nat.le_of_succ_le_succ long)
          exact fun front back isOthers => escape (char :: front) back (by rw [isOthers]; rfl)
      · rw [Yaml.step, if_neg isQuote, if_neg isEscape, if_neg isJson] at read
        cases read

end lengths

/-- What is assigned as it stands was not touched. -/
theorem untouched_of_connection {tail : List Char}
    (escape : EscapesShorten text tail)
    (read : connection (.quoted name []) (text ++ '\'' :: tail) =
      some ((name, text) :: assignments)) :
    ∀ char ∈ text, Untouched char := by
  obtain ⟨content, isContent, parsed⟩ := connection_eq_some.mp read
  have quoted := @Conninfo.parse_inQuotes name content false []
  rw [show Mode.inQuotes false name [] = .quoted name [] from rfl, parsed] at quoted
  obtain ⟨parts, unquoted, others⟩ := Option.bind_eq_some_iff.mp quoted.symm
  obtain ⟨more, -, same⟩ := Option.map_eq_some_iff.mp others
  have isValue : parts.1 = text := (Prod.mk.inj (List.cons.inj same).1).2
  exact untouched_of_length escape isContent unquoted (Nat.le_of_eq (by rw [isValue]))

end KubeShard.Nested
