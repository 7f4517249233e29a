import Mathlib.Data.Bool.AllAny
import KubeShard.Program.Text

/-!
# YAML values on one line

The productions of YAML 1.2 for what may stand on the line of its key: scalars in the three
flow styles, and flow sequences of such scalars.
-/

namespace KubeShard.Yaml

/-! ## Characters -/

/-- `s-white`. -/
def white (char : Char) : Bool := char == ' ' || char == '\t'

/-- `nb-char`: the printable characters without line breaks and the byte order mark. -/
def inlineChar (char : Char) : Bool :=
  char == '\t' || (0x20 ≤ char.toNat && char.toNat ≤ 0x7e) || char.toNat == 0x85 ||
    (0xa0 ≤ char.toNat && char.toNat ≤ 0xfffd && char.toNat != 0xfeff) || 0x10000 ≤ char.toNat

/-- `nb-json`: the characters of a quoted scalar. -/
def jsonChar (char : Char) : Bool := char == '\t' || 0x20 ≤ char.toNat

/-- `c-flow-indicator`. -/
def flowIndicators : List Char := ",[]\x7b\x7d".toList

/-- `c-indicator`. -/
def indicators : List Char := "-?:,[]\x7b\x7d#&*!|>'\"%@`".toList

/-- `ns-plain-safe` inside a flow collection. -/
def safeChar (char : Char) : Bool :=
  inlineChar char && !white char && !flowIndicators.contains char

theorem jsonChar_of_inlineChar {char : Char} (isInline : inlineChar char = true) :
    jsonChar char = true := by
  simp only [inlineChar, Bool.or_eq_true, Bool.and_eq_true, decide_eq_true_eq, beq_iff_eq,
    bne_iff_ne] at isInline
  simp only [jsonChar, Bool.or_eq_true, beq_iff_eq, decide_eq_true_eq]
  rcases isInline with (((isTab | printable) | isBreak) | printable) | beyond
  · exact .inl isTab
  all_goals exact .inr (by omega)

/-! ## Plain scalars -/

/-- `ns-plain-first`. -/
def startsPlain : List Char → Bool
  | [] => false
  | char :: rest =>
      if char = '-' ∨ char = '?' ∨ char = ':' then rest.head?.any safeChar
      else inlineChar char && !white char && !indicators.contains char

/-- `ns-plain-char`, which looks at the characters before and after it. -/
def plainChar (before char : Char) (rest : List Char) : Bool :=
  if char = ':' then rest.head?.any safeChar
  else if char = '#' then !white before
  else safeChar char

/-- `nb-ns-plain-in-line`: as much of a text as continues a plain scalar, and what is left. -/
def plainRest (before : Char) : List Char → List Char × List Char
  | [] => ([], [])
  | char :: rest =>
      if white char then
        if (plainRest char rest).1 = [] then ([], char :: rest)
        else (char :: (plainRest char rest).1, (plainRest char rest).2)
      else if plainChar before char rest then
        (char :: (plainRest char rest).1, (plainRest char rest).2)
      else
        ([], char :: rest)

/-! ## Quoted scalars -/

/-- The escapes of one character. -/
def escapes : List (Char × Char) :=
  [('0', '\x00'), ('a', '\x07'), ('b', '\x08'), ('t', '\t'), ('\t', '\t'), ('n', '\n'),
    ('v', '\x0b'), ('f', '\x0c'), ('r', '\r'), ('e', '\x1b'), (' ', ' '), ('"', '"'), ('/', '/'),
    ('\\', '\\'), ('N', '\u0085'), ('_', '\u00a0'), ('L', '\u2028'), ('P', '\u2029')]

/-- The escapes by code, with the number of their digits after the first one. -/
def codes : List (Char × Nat) := [('x', 1), ('u', 3), ('U', 7)]

/-- The value of a hexadecimal digit. -/
def digit (char : Char) : Option Nat :=
  if char.isDigit then some (char.toNat - '0'.toNat)
  else if 'a' ≤ char && char ≤ 'f' then some (char.toNat - 'a'.toNat + 10)
  else if 'A' ≤ char && char ≤ 'F' then some (char.toNat - 'A'.toNat + 10)
  else none

/-- Where in a double-quoted scalar the next character stands. -/
inductive Mode where
  | text
  | escape
  /-- In an escape by code, with this many digits after the next one. -/
  | code (more : Nat) (value : Nat)

/-- What a character of a double-quoted scalar does. -/
inductive Step where
  | close
  | refuse
  /-- It completes this character of the content. -/
  | emit (char : Char)
  | go (mode : Mode)

/-- One character of a double-quoted scalar. -/
def step : Mode → Char → Step
  | .text, char =>
      if char = '"' then .close
      else if char = '\\' then .go .escape
      else if jsonChar char then .emit char
      else .refuse
  | .escape, char =>
      match escapes.lookup char, codes.lookup char with
      | some char, _ => .emit char
      | none, some more => .go (.code more 0)
      | none, none => .refuse
  | .code more value, char =>
      match digit char, more with
      | none, _ => .refuse
      | some digit, more + 1 => .go (.code more (16 * value + digit))
      | some digit, 0 =>
          if (16 * value + digit).isValidChar then .emit (.ofNat (16 * value + digit)) else .refuse

/-- The content of a double-quoted scalar after its opening quote, and the text after its
closing one. -/
def doubleQuoted (mode : Mode) : List Char → Option (List Char × List Char)
  | [] => none
  | char :: rest =>
      match step mode char with
      | .close => some ([], rest)
      | .refuse => none
      | .emit char => (doubleQuoted .text rest).map fun parts => (char :: parts.1, parts.2)
      | .go mode => doubleQuoted mode rest

/-- The content of a single-quoted scalar after its opening quote, and the text after its
closing one. -/
def singleQuoted : List Char → Option (List Char × List Char)
  | [] => none
  | char :: rest =>
      if char = '\'' then
        match rest with
        | [] => some ([], [])
        | next :: after =>
            if next = '\'' then (singleQuoted after).map fun parts => ('\'' :: parts.1, parts.2)
            else some ([], next :: after)
      else if jsonChar char then
        (singleQuoted rest).map fun parts => (char :: parts.1, parts.2)
      else
        none

/-! ## Flow sequences -/

/-- The scalar a text starts with. -/
def scalar : List Char → Option (List Char × List Char)
  | [] => none
  | char :: rest =>
      if char = '"' then doubleQuoted .text rest
      else if char = '\'' then singleQuoted rest
      else if startsPlain (char :: rest) then
        some (char :: (plainRest char rest).1, (plainRest char rest).2)
      else none

/-- The entries of a flow sequence of scalars after its opening bracket, and the text after
its closing one.  Each entry but the last ends with a comma, so that the length of the text
bounds their number. -/
def entries : Nat → List Char → Option (List (List Char) × List Char)
  | 0, _ => none
  | bound + 1, text =>
      if (text.dropWhile white).head? = some ']' then
        some ([], (text.dropWhile white).tail)
      else
        match scalar (text.dropWhile white) with
        | none => none
        | some (value, rest) =>
            match rest.dropWhile white with
            | [] => none
            | char :: rest =>
                if char = ']' then some ([value], rest)
                else if char = ',' then
                  (entries bound rest).map fun parts => (value :: parts.1, parts.2)
                else none

/-- What may stand after a value on its line: nothing, or a comment. -/
def trailing (text : List Char) : Bool :=
  (text.dropWhile white).isEmpty ||
    (text.head?.any white && (text.dropWhile white).head? == some '#')

/-- The elements of a flow sequence of scalars that stands on one line. -/
def flowSequence : List Char → Option (List (List Char))
  | [] => none
  | char :: rest =>
      if char = '[' then
        match entries rest.length rest with
        | some (values, after) => if trailing after then some values else none
        | none => none
      else
        none

/-! ## What a plain scalar is -/

/-- The text continues a plain scalar after a character, up to its end. -/
structure InLine (before : Char) (text : List Char) : Prop where
  chars : ∀ char ∈ text, inlineChar char = true ∧ char ∉ flowIndicators
  last : ∀ char ∈ text.getLast?, white char = false
  colon : ∀ front back, text = front ++ ':' :: back → ∃ next ∈ back.head?, white next = false
  comment : ∀ front char back, before :: text = front ++ char :: '#' :: back → white char = false

/-- The text is a plain scalar in a flow collection. -/
def PlainScalar : List Char → Prop
  | [] => False
  | char :: rest => startsPlain (char :: rest) = true ∧ InLine char rest

section plain

variable {before char : Char} {text rest more : List Char}

theorem inLine_nil : InLine before [] where
  chars := fun _ membership => absurd membership List.not_mem_nil
  last := fun _ isLast => absurd isLast (by simp)
  colon := fun front back isEmpty => absurd isEmpty (by simp)
  comment := fun front char back same => by
    have lengths := congrArg List.length same
    simp only [List.length_cons, List.length_nil, List.length_append] at lengths
    omega

theorem inLine_cons : InLine before (char :: rest) ↔
    (inlineChar char = true ∧ char ∉ flowIndicators) ∧ (white char = true → rest ≠ []) ∧
      (char = ':' → ∃ next ∈ rest.head?, white next = false) ∧
      (char = '#' → white before = false) ∧ InLine char rest := by
  constructor
  · intro inLine
    refine ⟨inLine.chars char List.mem_cons_self, ?_, ?_, ?_, ?_⟩
    · rintro isWhite rfl
      rw [inLine.last char rfl] at isWhite
      cases isWhite
    · rintro rfl
      exact inLine.colon [] rest rfl
    · rintro rfl
      exact inLine.comment [] before rest rfl
    · constructor
      · exact fun other membership => inLine.chars other (List.mem_cons_of_mem _ membership)
      · intro other isLast
        apply inLine.last
        rw [List.getLast?_cons, Option.mem_def.mp isLast]
        rfl
      · exact fun front back isRest => inLine.colon (char :: front) back (by rw [isRest]; rfl)
      · exact fun front other back same =>
          inLine.comment (before :: front) other back (by rw [same]; rfl)
  · rintro ⟨isChar, isWhite, isColon, isComment, inLine⟩
    constructor
    · rw [List.forall_mem_cons]
      exact ⟨isChar, inLine.chars⟩
    · intro other isLast
      cases rest with
      | nil =>
          cases isLast
          rw [Bool.eq_false_iff]
          exact fun white => isWhite white rfl
      | cons next others => exact inLine.last other isLast
    · intro front back same
      cases front with
      | nil =>
          cases same
          exact isColon rfl
      | cons first front => exact inLine.colon front back (List.cons.inj same).2
    · intro front other back same
      cases front with
      | nil =>
          cases same
          exact isComment rfl
      | cons first front => exact inLine.comment front other back (List.cons.inj same).2

/-- A closing bracket is not looked at as part of a scalar. -/
theorem any_head?_append (rest more : List Char) :
    (rest ++ ']' :: more).head?.any safeChar = rest.head?.any safeChar := by
  cases rest with
  | nil => rfl
  | cons next others => rfl

theorem safeChar_iff : safeChar char = true ↔
    (inlineChar char = true ∧ char ∉ flowIndicators) ∧ white char = false := by
  simp only [safeChar, Bool.and_eq_true, Bool.not_eq_true', List.contains_eq_mem,
    decide_eq_false_iff_not]
  tauto

theorem any_head?_safeChar (inLine : InLine char rest) :
    rest.head?.any safeChar = true ↔ ∃ next ∈ rest.head?, white next = false := by
  cases rest with
  | nil => simp
  | cons next others =>
      have isChar := inLine.chars next List.mem_cons_self
      simp [safeChar_iff, isChar]

theorem plainChar_iff (visible : white char = false) (inLine : InLine char rest) :
    plainChar before char (rest ++ ']' :: more) = true ↔
      (inlineChar char = true ∧ char ∉ flowIndicators) ∧
        (char = ':' → ∃ next ∈ rest.head?, white next = false) ∧
        (char = '#' → white before = false) := by
  rw [plainChar, any_head?_append]
  by_cases isColon : char = ':'
  · rw [if_pos isColon, any_head?_safeChar inLine, isColon]
    have colon : inlineChar ':' = true ∧ ':' ∉ flowIndicators := by decide
    simp [colon]
  by_cases isComment : char = '#'
  · rw [if_neg isColon, if_pos isComment, isComment]
    have comment : inlineChar '#' = true ∧ '#' ∉ flowIndicators := by decide
    simp [comment]
  · rw [if_neg isColon, if_neg isComment, safeChar_iff]
    simp [isColon, isComment, visible]

/-- A text continues a plain scalar up to the bracket that closes the sequence if and only
if it is read as its rest. -/
theorem plainRest_eq_iff :
    plainRest before (text ++ ']' :: more) = (text, ']' :: more) ↔ InLine before text := by
  induction text generalizing before with
  | nil =>
      have stops : plainRest before (']' :: more) = ([], ']' :: more) := rfl
      exact iff_of_true stops inLine_nil
  | cons char rest hypothesis =>
      have parts (taken : List Char × List Char) :
          (char :: taken.1, taken.2) = (char :: rest, ']' :: more) ↔
            taken = (rest, ']' :: more) := by
        rw [Prod.mk.injEq, Prod.ext_iff, List.cons_inj_right]
      rw [List.cons_append, plainRest, inLine_cons, ← hypothesis]
      by_cases isWhite : white char = true
      · have isChar :
            (inlineChar char = true ∧ char ∉ flowIndicators) ∧ char ≠ ':' ∧ char ≠ '#' := by
          rw [white, Bool.or_eq_true, beq_iff_eq, beq_iff_eq] at isWhite
          rcases isWhite with rfl | rfl
          all_goals decide
        rw [if_pos isWhite]
        split
        · rename_i isEmpty
          constructor
          · intro same
            cases same
          · rintro ⟨-, nonempty, -, -, same⟩
            rw [same] at isEmpty
            exact absurd isEmpty (nonempty isWhite)
        · rename_i nonempty
          rw [parts]
          constructor
          · intro same
            rw [same] at nonempty
            exact ⟨isChar.1, fun _ => nonempty, fun isColon => absurd isColon isChar.2.1,
              fun isComment => absurd isComment isChar.2.2, same⟩
          · exact fun conditions => conditions.2.2.2.2
      · have visible : white char = false := Bool.eq_false_iff.mpr isWhite
        rw [if_neg isWhite]
        split
        · rename_i isPlain
          rw [parts]
          constructor
          · intro same
            obtain ⟨isChar, isColon, isComment⟩ :=
              (plainChar_iff visible (hypothesis.mp same)).mp isPlain
            exact ⟨isChar, fun contrary => absurd contrary isWhite, isColon, isComment, same⟩
          · exact fun conditions => conditions.2.2.2.2
        · rename_i stops
          constructor
          · intro same
            cases same
          · rintro ⟨isChar, -, isColon, isComment, same⟩
            exact absurd ((plainChar_iff visible (hypothesis.mp same)).mpr
              ⟨isChar, isColon, isComment⟩) stops

/-- A plain scalar is read as it stands. -/
theorem plainRest_append (before : Char) (text : List Char) :
    (plainRest before text).1 ++ (plainRest before text).2 = text := by
  induction text generalizing before with
  | nil => rfl
  | cons char rest hypothesis =>
      rw [plainRest]
      split
      · split
        · rfl
        · rw [List.cons_append, hypothesis]
      · split
        · rw [List.cons_append, hypothesis]
        · rfl

end plain

/-! ## What is read of a sequence -/

section reading

variable {text content value rest : List Char}

theorem length_doubleQuoted {mode : Mode}
    (read : doubleQuoted mode text = some (content, rest)) :
    content.length + rest.length < text.length := by
  induction text generalizing mode content with
  | nil => cases read
  | cons char others hypothesis =>
      rw [doubleQuoted] at read
      cases isStep : step mode char with
      | close =>
          rw [isStep] at read
          cases read
          simp
      | refuse =>
          rw [isStep] at read
          cases read
      | emit emitted =>
          rw [isStep] at read
          obtain ⟨parts, isParts, same⟩ := Option.map_eq_some_iff.mp read
          cases same
          have shorter := hypothesis isParts
          simp only [List.length_cons]
          omega
      | go next =>
          rw [isStep] at read
          have shorter := hypothesis read
          simp only [List.length_cons]
          omega

theorem length_singleQuoted (read : singleQuoted text = some (content, rest)) :
    content.length + rest.length < text.length := by
  fun_induction singleQuoted text generalizing content with
  | case1 => cases read
  | case2 =>
      cases read
      simp
  | case3 after hypothesis =>
      obtain ⟨parts, isParts, same⟩ := Option.map_eq_some_iff.mp read
      cases same
      have shorter := hypothesis isParts
      simp only [List.length_cons]
      omega
  | case4 next after differs =>
      cases read
      simp
  | case5 char others differs accepted hypothesis =>
      obtain ⟨parts, isParts, same⟩ := Option.map_eq_some_iff.mp read
      cases same
      have shorter := hypothesis isParts
      simp only [List.length_cons]
      omega
  | case6 => cases read

/-- A scalar is read as it stands, or without its quotes. -/
theorem scalar_cases (read : scalar text = some (value, rest)) :
    (∃ char others, text = char :: others ∧ startsPlain text = true ∧
      value = char :: (plainRest char others).1 ∧ rest = (plainRest char others).2) ∨
      value.length + rest.length + 2 ≤ text.length := by
  cases text with
  | nil => cases read
  | cons char others =>
      rw [scalar] at read
      split at read
      · have shorter := length_doubleQuoted read
        exact .inr (by rw [List.length_cons]; omega)
      split at read
      · have shorter := length_singleQuoted read
        exact .inr (by rw [List.length_cons]; omega)
      split at read
      · rename_i starts
        cases read
        exact .inl ⟨char, others, rfl, starts, rfl, rfl⟩
      · cases read

theorem scalar_of_entries {bound : Nat} {values : List (List Char)} {after : List Char}
    (read : entries bound text = some (value :: values, after)) :
    ∃ rest, scalar (text.dropWhile white) = some (value, rest) ∧ rest ≠ [] := by
  cases bound with
  | zero => cases read
  | succ bound =>
      rw [entries] at read
      split at read
      · cases read
      cases isScalar : scalar (text.dropWhile white) with
      | none =>
          rw [isScalar] at read
          cases read
      | some parts =>
          rw [isScalar] at read
          dsimp only at read
          have nonempty : parts.2 ≠ [] := by
            intro isEmpty
            rw [isEmpty] at read
            cases read
          have isValue : parts.1 = value := by
            split at read
            · cases read
            split at read
            · cases read
              rfl
            split at read
            · obtain ⟨others, -, same⟩ := Option.map_eq_some_iff.mp read
              cases same
              rfl
            · cases read
          exact ⟨parts.2, by rw [← isValue], nonempty⟩

theorem startsPlain_append (char : Char) (rest more : List Char) :
    startsPlain (char :: (rest ++ ']' :: more)) = startsPlain (char :: rest) := by
  rw [startsPlain, startsPlain, any_head?_append]

/-- What starts a plain scalar starts nothing else. -/
theorem char_of_startsPlain {char : Char} (starts : startsPlain (char :: rest) = true) :
    white char = false ∧ char ≠ ']' ∧ char ≠ '"' ∧ char ≠ '\'' := by
  rw [startsPlain] at starts
  split at starts
  · rename_i isChar
    rcases isChar with rfl | rfl | rfl
    all_goals decide
  · simp only [Bool.and_eq_true, Bool.not_eq_true'] at starts
    refine ⟨starts.1.2, ?_, ?_, ?_⟩
    all_goals
      rintro rfl
      exact absurd starts.2 (by decide)

theorem jsonChar_of_plainScalar (isPlain : PlainScalar text) :
    ∀ char ∈ text, jsonChar char = true := by
  cases text with
  | nil => exact isPlain.elim
  | cons char rest =>
      obtain ⟨starts, inLine⟩ := isPlain
      rw [List.forall_mem_cons]
      constructor
      · rw [startsPlain] at starts
        split at starts
        · rename_i isChar
          rcases isChar with rfl | rfl | rfl
          all_goals rfl
        · simp only [Bool.and_eq_true] at starts
          exact jsonChar_of_inlineChar starts.1.1
      · exact fun other membership => jsonChar_of_inlineChar (inLine.chars other membership).1

theorem entries_of_flowSequence {values : List (List Char)}
    (read : flowSequence ('[' :: text) = some values) :
    ∃ rest, entries text.length text = some (values, rest) := by
  rw [flowSequence, if_pos rfl] at read
  cases isEntries : entries text.length text with
  | none =>
      rw [isEntries] at read
      cases read
  | some parts =>
      rw [isEntries] at read
      dsimp only at read
      split at read
      · exact ⟨parts.2, by rw [← Option.some.inj read]⟩
      · cases read

/-- A sequence with one element that is written as it stands has a plain scalar. -/
theorem plainScalar_of_flowSequence
    (read : flowSequence ('[' :: (text ++ [']'])) = some [text]) : PlainScalar text := by
  obtain ⟨after, isEntries⟩ := entries_of_flowSequence read
  obtain ⟨rest, isScalar, nonempty⟩ := scalar_of_entries isEntries
  have suffix := List.dropWhile_suffix (l := text ++ [']']) white
  have bound := suffix.length_le
  have positive := List.length_pos_iff.mpr nonempty
  rw [List.length_append, List.length_singleton] at bound
  rcases scalar_cases isScalar with ⟨char, others, isText, starts, isValue, isRest⟩ | shorter
  · have whole : (text ++ [']']).dropWhile white = text ++ rest := by
      rw [isText, isValue, isRest, List.cons_append, plainRest_append]
    -- Nothing was skipped, so that the scalar is followed by the bracket alone.
    have unskipped : (text ++ [']']).dropWhile white = text ++ [']'] := by
      apply suffix.eq_of_length
      rw [whole, List.length_append, List.length_append, List.length_singleton]
      rw [whole, List.length_append] at bound
      omega
    have isBracket : rest = [']'] := List.append_cancel_left (whole.symm.trans unskipped)
    have isOthers : others = (plainRest char others).1 ++ [']'] := by
      rw [← isBracket, isRest, plainRest_append]
    have isRead : plainRest char ((plainRest char others).1 ++ [']']) =
        ((plainRest char others).1, [']']) := by
      rw [← isOthers, ← isBracket, isRest]
    rw [isText, isOthers, startsPlain_append] at starts
    rw [isValue]
    exact ⟨starts, plainRest_eq_iff.mp isRead⟩
  · omega

theorem flowSequence_of_plainScalar (isPlain : PlainScalar text) :
    flowSequence ('[' :: (text ++ [']'])) = some [text] := by
  cases text with
  | nil => exact isPlain.elim
  | cons char rest =>
      obtain ⟨starts, inLine⟩ := isPlain
      obtain ⟨visible, notBracket, notDouble, notSingle⟩ := char_of_startsPlain starts
      have isScalar : scalar (char :: (rest ++ [']'])) = some (char :: rest, [']']) := by
        rw [scalar, if_neg notDouble, if_neg notSingle, startsPlain_append, if_pos starts,
          plainRest_eq_iff.mpr inLine]
      have unskipped : (char :: (rest ++ [']'])).dropWhile white = char :: (rest ++ [']']) := by
        rw [List.dropWhile_cons_of_neg (by rw [visible]; exact Bool.false_ne_true)]
      have isEntries (bound : Nat) :
          entries (bound + 1) (char :: (rest ++ [']'])) = some ([char :: rest], []) := by
        rw [entries, unskipped, if_neg (by simpa using notBracket), isScalar]
        rfl
      rw [flowSequence, if_pos rfl, List.cons_append, List.length_cons, isEntries]
      rfl

/-- The sequence that is written around a text has the text as its one element if and only
if the text is a plain scalar. -/
theorem flowSequence_eq_iff :
    flowSequence ('[' :: (text ++ [']'])) = some [text] ↔ PlainScalar text :=
  ⟨plainScalar_of_flowSequence, flowSequence_of_plainScalar⟩

end reading

/-! ## Identifiers -/

section identifiers

variable {char : Char} {text : List Char}

/-- The characters of an identifier. -/
def identifierChar (char : Char) : Bool := char.isAlphanum || char == '_'

theorem safeChar_of_identifierChar (accepted : identifierChar char = true) :
    inlineChar char = true ∧ white char = false ∧ char ∉ indicators := by
  rw [identifierChar, Bool.or_eq_true, beq_iff_eq] at accepted
  rcases accepted with alphanumeric | rfl
  · have excluded (other : Char) (differs : other.isAlphanum = false) : char ≠ other := by
      rintro rfl
      rw [alphanumeric] at differs
      cases differs
    refine ⟨?_, ?_, ?_⟩
    · have range := Text.isAlphanum_iff.mp alphanumeric
      simp only [inlineChar, Bool.or_eq_true, Bool.and_eq_true, decide_eq_true_eq]
      exact .inl (.inl (.inl (.inr (by omega))))
    · have isSpace := excluded ' ' (by decide)
      have isTab := excluded '\t' (by decide)
      simp [white, isSpace, isTab]
    · have others : ∀ other ∈ indicators, other.isAlphanum = false :=
        List.all_iff_forall_prop.mp (by decide)
      intro membership
      exact excluded char (others char membership) rfl
  · decide

theorem inLine_of_identifier (accepted : ∀ char ∈ text, identifierChar char = true)
    (before : Char) : InLine before text := by
  have flow : ∀ char ∈ flowIndicators, char ∈ indicators :=
    List.all_iff_forall_prop.mp (by decide)
  have colon : ':' ∈ indicators := by decide
  have comment : '#' ∈ indicators := by decide
  induction text generalizing before with
  | nil => exact inLine_nil
  | cons char rest hypothesis =>
      rw [List.forall_mem_cons] at accepted
      obtain ⟨isInline, visible, excluded⟩ := safeChar_of_identifierChar accepted.1
      rw [inLine_cons]
      refine ⟨⟨isInline, fun membership => excluded (flow char membership)⟩, ?_, ?_, ?_,
        hypothesis accepted.2 char⟩
      · intro isWhite
        rw [visible] at isWhite
        cases isWhite
      · rintro rfl
        exact absurd colon excluded
      · rintro rfl
        exact absurd comment excluded

/-- An identifier is a plain scalar. -/
theorem plainScalar_of_identifier (nonempty : text ≠ [])
    (accepted : ∀ char ∈ text, identifierChar char = true) : PlainScalar text := by
  cases text with
  | nil => exact absurd rfl nonempty
  | cons char rest =>
      rw [List.forall_mem_cons] at accepted
      obtain ⟨isInline, visible, excluded⟩ := safeChar_of_identifierChar accepted.1
      have first : ¬ (char = '-' ∨ char = '?' ∨ char = ':') := by
        rintro (rfl | rfl | rfl)
        all_goals exact absurd (by decide) excluded
      refine ⟨?_, inLine_of_identifier accepted.2 char⟩
      rw [startsPlain, if_neg first, isInline, visible]
      simpa using excluded

end identifiers

/-! ## Double-quoted text -/

/-- A character that stands for itself between double quotes. -/
def Verbatim (char : Char) : Prop := jsonChar char = true ∧ char ≠ '"' ∧ char ≠ '\\'

instance : DecidablePred Verbatim := fun char =>
  inferInstanceAs (Decidable (jsonChar char = true ∧ char ≠ '"' ∧ char ≠ '\\'))

theorem step_text {char : Char} (verbatim : Verbatim char) : step .text char = .emit char := by
  rw [step, if_neg verbatim.2.1, if_neg verbatim.2.2, if_pos verbatim.1]

theorem doubleQuoted_append {text : List Char} (verbatim : ∀ char ∈ text, Verbatim char)
    (rest : List Char) :
    doubleQuoted .text (text ++ rest) =
      (doubleQuoted .text rest).map fun parts => (text ++ parts.1, parts.2) := by
  induction text with
  | nil => simp
  | cons char others hypothesis =>
      rw [List.forall_mem_cons] at verbatim
      rw [List.cons_append, doubleQuoted, step_text verbatim.1, hypothesis verbatim.2]
      simp [Option.map_map, Function.comp_def]

/-! ## Lines -/

/-- The lines of a text. -/
def lines : List Char → List (List Char)
  | [] => [[]]
  | char :: rest =>
      if char = '\n' then [] :: lines rest
      else ((lines rest).head?.elim [char] (char :: ·)) :: (lines rest).tail

/-- The text after a key on the first line that starts with it. -/
def valueOf (key text : List Char) : Option (List Char) :=
  (lines text).findSome? (Text.after key)

/-- The text after a key on the first line from a heading on that starts with it. -/
def valueUnder (heading key text : List Char) : Option (List Char) :=
  ((lines text).dropWhile (· ≠ heading)).findSome? (Text.after key)

/-- The text of some lines. -/
def unlines (text : List (List Char)) : List Char := text.flatMap (· ++ ['\n'])

section lines

variable {key line value : List Char}

theorem lines_append (whole : '\n' ∉ line) (rest : List Char) :
    lines (line ++ '\n' :: rest) = line :: lines rest := by
  induction line with
  | nil => rw [List.nil_append, lines, if_pos rfl]
  | cons char others hypothesis =>
      rw [List.mem_cons, not_or] at whole
      rw [List.cons_append, lines, if_neg (Ne.symm whole.1), hypothesis whole.2]
      rfl

theorem unlines_append (first second : List (List Char)) :
    unlines (first ++ second) = unlines first ++ unlines second := List.flatMap_append

theorem lines_unlines {before : List (List Char)} (whole : ∀ line ∈ before, '\n' ∉ line)
    (rest : List Char) : lines (unlines before ++ rest) = before ++ lines rest := by
  induction before with
  | nil => rfl
  | cons line more hypothesis =>
      rw [List.forall_mem_cons] at whole
      have isText : unlines (line :: more) ++ rest = line ++ '\n' :: (unlines more ++ rest) := by
        simp [unlines]
      rw [isText, lines_append whole.1, hypothesis whole.2, List.cons_append]

theorem valueOf_unlines {before : List (List Char)}
    (others : ∀ line ∈ before, '\n' ∉ line ∧ key.isPrefixOf line = false) (rest : List Char) :
    valueOf key (unlines before ++ rest) = valueOf key rest := by
  have absent : before.findSome? (Text.after key) = none := by
    rw [List.findSome?_eq_none_iff]
    intro line membership
    rw [Text.after, (others line membership).2]
    rfl
  rw [valueOf, lines_unlines fun line membership => (others line membership).1,
    List.findSome?_append, absent]
  rfl

theorem valueOf_append (whole : '\n' ∉ key ++ value) (rest : List Char) :
    valueOf key (key ++ value ++ '\n' :: rest) = some value := by
  rw [valueOf, lines_append whole, List.findSome?_cons, Text.after_append]

/-- The value on the line after the heading. -/
theorem valueUnder_unlines {heading : List Char} {before : List (List Char)}
    (others : ∀ line ∈ before, '\n' ∉ line ∧ line ≠ heading) (single : '\n' ∉ heading)
    (differs : key.isPrefixOf heading = false) (whole : '\n' ∉ key ++ value) (rest : List Char) :
    valueUnder heading key (unlines (before ++ [heading, key ++ value]) ++ rest) = some value := by
  have isWhole : ∀ line ∈ before ++ [heading, key ++ value], '\n' ∉ line := by
    rw [List.forall_mem_append, List.forall_mem_cons, List.forall_mem_singleton]
    exact ⟨fun line membership => (others line membership).1, single, whole⟩
  have skipped : (before ++ (heading :: (key ++ value) :: lines rest)).dropWhile (· ≠ heading) =
      heading :: (key ++ value) :: lines rest := by
    rw [List.dropWhile_append_of_pos fun line membership =>
      decide_eq_true (others line membership).2]
    simp
  have absent : Text.after key heading = none := by
    rw [Text.after, differs]
    rfl
  rw [valueUnder, lines_unlines isWhole, List.append_assoc]
  simp only [List.cons_append, List.nil_append, skipped, List.findSome?_cons, absent,
    Text.after_append]

end lines

end KubeShard.Yaml
