import Mathlib.Logic.Function.Basic

/-!
# Decimal texts

What the decimal text of a number consists of, and that it tells the number.
-/

namespace KubeShard.Decimal

theorem isDigit_of_mem_repr {number : Nat} {char : Char} (membership : char ∈ number.repr.toList) :
    char.isDigit = true := by
  rw [Nat.toList_repr] at membership
  exact Nat.isDigit_of_mem_toDigits (by decide) (by decide) membership

theorem natRepr_injective : Function.Injective Nat.repr := by
  intro first second same
  have digits := congrArg (fun text => Nat.ofDigitChars 10 text.toList 0) same
  simpa only [Nat.toList_repr, Nat.ofDigitChars_toDigits (Nat.lt_add_left 8 Nat.one_lt_two)
    (Nat.le_refl 10)] using digits

/-- The text of an integer has digits and perhaps a sign. -/
theorem sign_or_isDigit_of_mem_repr {number : Int} {char : Char}
    (membership : char ∈ number.repr.toList) : char = '-' ∨ char.isDigit = true := by
  rw [Int.repr_eq_if] at membership
  split at membership
  · exact .inr (isDigit_of_mem_repr membership)
  · rw [String.toList_append, List.mem_append] at membership
    rcases membership with sign | digit
    · exact .inl (by simpa using sign)
    · exact .inr (isDigit_of_mem_repr digit)

/-- The text of a natural number has no sign. -/
theorem repr_ne_sign (number : Nat) (rest : String) : number.repr ≠ "-" ++ rest := by
  intro same
  have sign : '-' ∈ number.repr.toList := by
    rw [same, String.toList_append]
    exact List.mem_append_left _ (by decide)
  exact absurd (isDigit_of_mem_repr sign) (by decide)

theorem intRepr_injective : Function.Injective Int.repr := by
  intro first second same
  rw [Int.repr_eq_if, Int.repr_eq_if] at same
  split at same <;> split at same
  · have := natRepr_injective same
    omega
  · exact absurd same (repr_ne_sign _ _)
  · exact absurd same.symm (repr_ne_sign _ _)
  · have := natRepr_injective ((String.append_right_inj "-").mp same)
    omega

end KubeShard.Decimal
