import Mathlib.Data.List.Infix

/-!
# Texts made of parts

What two equal texts that were put together differently say about their parts.
-/

namespace KubeShard.Text

/-! ## Letters and digits -/

section characters

variable {char : Char}

theorem isAlphanum_iff : char.isAlphanum = true ↔
    65 ≤ char.toNat ∧ char.toNat ≤ 90 ∨ 97 ≤ char.toNat ∧ char.toNat ≤ 122 ∨
      48 ≤ char.toNat ∧ char.toNat ≤ 57 := by
  have classes : char.isAlphanum = (decide ('A'.val ≤ char.val ∧ char.val ≤ 'Z'.val) ||
      (decide ('a'.val ≤ char.val) && decide (char.val ≤ 'z'.val)) ||
      (decide ('0'.val ≤ char.val) && decide (char.val ≤ '9'.val))) := rfl
  rw [classes]
  simp only [Bool.or_eq_true, Bool.and_eq_true, decide_eq_true_eq, UInt32.le_iff_toNat_le,
    Char.toNat_val, Char.reduceToNat, or_assoc]

theorem isAlphanum_of_isDigit (digit : char.isDigit = true) : char.isAlphanum = true :=
  (Bool.or_eq_true char.isAlpha char.isDigit).mpr (.inr digit)

theorem isAlphanum_of_isLower (lower : char.isLower = true) : char.isAlphanum = true := by
  have alpha : char.isAlpha = true := (Bool.or_eq_true char.isUpper char.isLower).mpr (.inr lower)
  exact (Bool.or_eq_true char.isAlpha char.isDigit).mpr (.inl alpha)

end characters

/-! ## Separators in lists -/

section separators

variable {α : Type} {separator : α} {before text after rest : List α}

/-- What stands before some separator starts what stands before the last one. -/
theorem prefix_of_append_cons (plain : separator ∉ after)
    (same : before ++ separator :: rest = text ++ separator :: after) : before <+: text := by
  rcases List.append_eq_append_iff.mp same with ⟨more, isText, -⟩ | ⟨more, isBefore, isAfter⟩
  · exact ⟨more, isText.symm⟩
  · cases more with
    | nil => exact ⟨[], by rw [isBefore, List.append_nil, List.append_nil]⟩
    | cons char chars =>
        have isAfter : after = chars ++ separator :: rest := (List.cons.inj isAfter).2
        rw [isAfter] at plain
        exact absurd (List.mem_append_right _ List.mem_cons_self) plain

/-- What has no separator starts what stands before the first one. -/
theorem prefix_of_notMem (plain : separator ∉ text)
    (same : before ++ separator :: rest = text ++ after) : text <+: before := by
  rcases List.append_eq_append_iff.mp same with ⟨more, isText, isRest⟩ | ⟨more, isBefore, -⟩
  · cases more with
    | nil => exact ⟨[], by rw [isText, List.append_nil, List.append_nil]⟩
    | cons char chars =>
        rw [isText, (List.cons.inj isRest).1] at plain
        exact absurd (List.mem_append_right _ List.mem_cons_self) plain
  · exact ⟨more, isBefore.symm⟩

end separators

/-! ## Keys -/

/-- The text after a key it starts with. -/
def after (key text : List Char) : Option (List Char) :=
  if key.isPrefixOf text then some (text.drop key.length) else none

theorem after_append (key value : List Char) : after key (key ++ value) = some value := by
  have starts : key.isPrefixOf (key ++ value) = true :=
    List.isPrefixOf_iff_prefix.mpr (List.prefix_append key value)
  rw [after, if_pos starts, List.drop_left]

/-! ## Parts -/

/-- Of two ways to write one text, one has the longer beginning. -/
theorem append_eq_append {left right first second : String}
    (same : left ++ first = right ++ second) :
    (∃ rest, right = left ++ rest ∧ first = rest ++ second) ∨
      ∃ rest, left = right ++ rest ∧ second = rest ++ first := by
  have chars := congrArg String.toList same
  rw [String.toList_append, String.toList_append, List.append_eq_append_iff] at chars
  rcases chars with ⟨rest, isRight, isFirst⟩ | ⟨rest, isLeft, isSecond⟩
  · refine .inl ⟨.ofList rest, ?_, ?_⟩ <;> apply String.toList_inj.mp
    · simpa using isRight
    · simpa using isFirst
  · refine .inr ⟨.ofList rest, ?_, ?_⟩ <;> apply String.toList_inj.mp
    · simpa using isLeft
    · simpa using isSecond

variable {separator : Char}

/-- A separator at the end leaves no room for a rest without it. -/
theorem eq_empty_of_singleton {left right rest : String} (plain : separator ∉ rest.toList)
    (same : right ++ String.singleton separator = left ++ String.singleton separator ++ rest) :
    rest = "" := by
  rcases List.eq_nil_or_concat' rest.toList with empty | ⟨front, final, isRest⟩
  · exact String.toList_inj.mp empty
  · have chars := congrArg String.toList same
    simp only [String.toList_append, String.toList_singleton, isRest,
      ← List.append_assoc] at chars
    have isFinal : separator = final := by
      have last := (List.append_inj' chars rfl).2
      exact List.singleton_inj.mp last
    rw [isRest, isFinal] at plain
    simp at plain

/-- Equal texts are equal before and after their last separator. -/
theorem split_last {left right first second : String} (firstPlain : separator ∉ first.toList)
    (secondPlain : separator ∉ second.toList)
    (same : left ++ String.singleton separator ++ first =
      right ++ String.singleton separator ++ second) : left = right ∧ first = second := by
  rcases append_eq_append same with ⟨rest, isRight, isFirst⟩ | ⟨rest, isLeft, isSecond⟩
  · have plain : separator ∉ rest.toList := by
      rw [isFirst, String.toList_append, List.mem_append] at firstPlain
      exact fun membership => firstPlain (.inl membership)
    obtain rfl := eq_empty_of_singleton plain isRight
    rw [String.append_empty, String.append_left_inj] at isRight
    exact ⟨isRight.symm, by rw [isFirst, String.empty_append]⟩
  · have plain : separator ∉ rest.toList := by
      rw [isSecond, String.toList_append, List.mem_append] at secondPlain
      exact fun membership => secondPlain (.inl membership)
    obtain rfl := eq_empty_of_singleton plain isLeft
    rw [String.append_empty, String.append_left_inj] at isLeft
    exact ⟨isLeft, by rw [isSecond, String.empty_append]⟩

/-- Equal texts are equal before their first separator. -/
theorem split_first {left right first second : String} (leftPlain : separator ∉ left.toList)
    (rightPlain : separator ∉ right.toList)
    (same : left ++ String.singleton separator ++ first =
      right ++ String.singleton separator ++ second) : left = right := by
  have before {front : List Char} (plain : separator ∉ front) (rest : List Char) :
      (front ++ separator :: rest).takeWhile (· ≠ separator) = front := by
    rw [List.takeWhile_append_of_pos]
    · simp
    · intro char membership
      simpa using fun isSeparator : char = separator => plain (isSeparator ▸ membership)
  have chars := congrArg (fun text => text.toList.takeWhile (· ≠ separator)) same
  simp only [String.toList_append, String.toList_singleton, List.append_assoc,
    List.singleton_append, before leftPlain, before rightPlain] at chars
  exact String.toList_inj.mp chars

end KubeShard.Text
