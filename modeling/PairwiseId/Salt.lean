import PairwiseId.Text.Bytes
import PairwiseId.Text.Basic

/- Salts that are handed to a save for the case that it needs a fresh one. Where
   they come from is not decided here; none of them is blank. -/
namespace PairwiseId

set_option autoImplicit false

structure Salt where
  text : String
  notBlank : Text.isBlank text = false
deriving DecidableEq

namespace Salt

def ofText? (text : String) : Option Salt :=
  if h : Text.isBlank text = false then some ⟨text, h⟩ else none

set_option maxRecDepth 4000 in
theorem base64_char_not_blank (n : Nat) : Text.isBlankChar (Text.base64Char n) = false := by
  have inside : ∀ k < 64, Text.isBlankChar (Text.base64Char k) = false := by decide
  by_cases h : n < 64
  · exact inside n h
  · unfold Text.base64Char
    rw [List.getD_eq_getElem?_getD, List.getElem?_eq_none]
    · decide
    · exact Nat.not_lt.mp h

theorem base64_not_blank (bytes : Digest.Bytes) (some : bytes ≠ []) :
    Text.isBlank (Text.base64 bytes) = false := by
  unfold Text.isBlank Text.base64
  rw [String.toList_ofList]
  fun_cases Text.base64Chars bytes with
  | case1 => exact absurd rfl some
  | case2 | case3 | case4 => simp [base64_char_not_blank]

def ofBytes (bytes : Digest.Bytes) (some : bytes ≠ []) : Salt :=
  ⟨Text.base64 bytes, base64_not_blank bytes some⟩

end Salt

end PairwiseId
