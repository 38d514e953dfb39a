import PairwiseId.Uuid

/- The written form of an identifier is one of those that are read, and it is read as
   that identifier. -/
namespace PairwiseId.Uuid

set_option autoImplicit false

open Text

section Groups

variable (a b c d e : List Char)

def grouped : List Char := a ++ '-' :: (b ++ '-' :: (c ++ '-' :: (d ++ '-' :: e)))

variable (first : a.length = 8) (second : b.length = 4) (third : c.length = 4) (fourth : d.length = 4)

include first second third fourth

theorem hyphenate_groups : hyphenate (a ++ b ++ c ++ d ++ e) = grouped a b c d e := by
  simp (disch := omega) [hyphenate, grouped, List.drop_append, List.drop_eq_nil_of_le, first, second, third]

theorem of_grouped : ofHyphenated? (grouped a b c d e) = ofDigits? (a ++ b ++ c ++ d ++ e) := by
  have hyphens : ([8, 13, 18, 23].all fun i => (grouped a b c d e)[i]? == some '-') = true := by
    simp [grouped, List.getElem?_append, List.getElem?_cons, first, second, third, fourth]
  rw [ofHyphenated?, if_pos hyphens]
  simp (disch := omega) [grouped, List.drop_append, List.drop_eq_nil_of_le, first, second, third, fourth]

end Groups

theorem digits_length (u : Uuid) : u.digits.length = 32 := by
  simp [digits, hex_of_bytes_length]

theorem of_digits (u : Uuid) : ofDigits? u.digits = some u := by
  rcases u with ⟨⟨octets, full⟩⟩
  simp [ofDigits?, digits, bytes_of_hex_of_bytes, full]

theorem split_groups (ds : List Char) (full : ds.length = 32) :
    ∃ a b c d e : List Char, ds = a ++ b ++ c ++ d ++ e ∧ a.length = 8 ∧ b.length = 4 ∧ c.length = 4 ∧
      d.length = 4 ∧ e.length = 12 := by
  refine ⟨ds.take 8, (ds.drop 8).take 4, (ds.drop 12).take 4, (ds.drop 16).take 4, ds.drop 20, ?_, ?_⟩
  · have back (n : Nat) : (ds.drop n).take 4 ++ ds.drop (n + 4) = ds.drop n := by
      rw [← List.drop_drop, List.take_append_drop]
    simp only [List.append_assoc, back 16, back 12, back 8, List.take_append_drop]
  · simp [full]

theorem of_text_to_text (u : Uuid) : ofText? u.toText = some u := by
  obtain ⟨a, b, c, d, e, split, first, second, third, fourth, last⟩ := split_groups u.digits u.digits_length
  have read : ofHyphenated? (grouped a b c d e) = some u := by
    rw [of_grouped a b c d e first second third fourth, ← split, of_digits]
  have length : (grouped a b c d e).length = 36 := by simp [grouped, first, second, third, fourth, last]
  simp only [ofText?, toText, String.toList_ofList, split, hyphenate_groups a b c d e first second third fourth,
    length, read]

end PairwiseId.Uuid
