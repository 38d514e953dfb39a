import PairwiseId.Text.Basic

/- A number is read back from its decimal digits, of which the first is zero only if it is alone. -/
namespace PairwiseId.Text

set_option autoImplicit false

theorem number_chars (n : Nat) : (toString n).toList = Nat.toDigits 10 n := by
  rw [Nat.toString_eq_ofList_toDigits, String.toList_ofList]

theorem number_digits (n : Nat) (d : Char) (member : d ∈ (toString n).toList) : d.isDigit = true := by
  rw [number_chars] at member
  exact Nat.isDigit_of_mem_toDigits (by decide) (by decide) member

theorem number_ne_nil (n : Nat) : (toString n).toList ≠ [] := by
  rw [number_chars]
  exact Nat.toDigits_ne_nil

theorem number_value (n : Nat) : natOfDigits (toString n).toList = n := by
  have back := Nat.ofDigitChars_ten_toDigits (n := n)
  rw [Nat.ofDigitChars_eq_foldl] at back
  rw [number_chars]
  exact back

theorem number_zero_alone (n : Nat) (rest : List Char) (zero : (toString n).toList = '0' :: rest) : rest = [] := by
  rw [number_chars] at zero
  induction n using Nat.strongRecOn generalizing rest with
  | ind n ih =>
      by_cases small : n < 10
      · rw [Nat.toDigits_of_lt_base small] at zero
        exact (List.cons.inj zero).2.symm
      · -- The front of a longer number is a number that is not zero, so it has more than the zero.
        rw [Nat.toDigits_of_base_le (by decide) (Nat.le_of_not_lt small)] at zero
        cases front : Nat.toDigits 10 (n / 10) with
        | nil => exact absurd front Nat.toDigits_ne_nil
        | cons d others =>
            rw [front] at zero
            obtain rfl := (List.cons.inj zero).1
            obtain rfl := ih (n / 10) (by omega) others front
            have value := Nat.ofDigitChars_ten_toDigits (n := n / 10)
            rw [front] at value
            have : n / 10 = 0 := value.symm
            omega

end PairwiseId.Text
