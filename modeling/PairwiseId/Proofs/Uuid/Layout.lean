import PairwiseId.Proofs.Uuid
import PairwiseId.Proofs.Uuid.Stamp

/- The characters of a written identifier at their places, and what they are in a name-based one. -/
namespace PairwiseId

set_option autoImplicit false

namespace Text

def lowerHexDigits : List Char := "0123456789abcdef".toList

theorem hex_digit_lower : ∀ n < 16, hexDigit n ∈ lowerHexDigits := by decide

theorem hex_lower (bytes : Digest.Bytes) : ∀ c ∈ hexOfBytes bytes, c ∈ lowerHexDigits := by
  intro c member
  obtain ⟨octet, _, digit⟩ := List.mem_flatMap.mp member
  have bound := octet.toNat_lt
  obtain rfl | rfl : c = _ ∨ c = _ := by simpa [hexByte] using digit
  · exact hex_digit_lower _ (by omega)
  · exact hex_digit_lower _ (by omega)

-- The first digit of a byte is that of its high half.
theorem hex_high (bytes : Digest.Bytes) (i : Nat) :
    (hexOfBytes bytes)[2 * i]? = bytes[i]?.map fun octet => hexDigit (octet.toNat / 16) := by
  induction bytes generalizing i with
  | nil => simp [hexOfBytes]
  | cons octet rest ih =>
      cases i with
      | zero => rfl
      | succ i => exact ih i

end Text

namespace Uuid

open Text

def hyphenPlaces : List Nat := [8, 13, 18, 23]

-- The place without a hyphen that was in front of it.
def pastHyphen (hyphen place : Nat) : Nat := if place < hyphen then place else place - 1

def digitIndex (place : Nat) : Nat := hyphenPlaces.foldr pastHyphen place

theorem get_past_hyphen (front rest : List Char) (hyphen place : Nat) (before : front.length = hyphen)
    (apart : place ≠ hyphen) :
    (front ++ '-' :: rest)[place]? = (front ++ rest)[pastHyphen hyphen place]? := by
  subst before
  by_cases early : place < front.length
  · rw [pastHyphen, if_pos early, List.getElem?_append_left early, List.getElem?_append_left early]
  · have later : front.length ≤ place - 1 := by omega
    rw [pastHyphen, if_neg early, List.getElem?_append_right (by omega), List.getElem?_append_right later]
    have next : place - front.length = place - 1 - front.length + 1 := by omega
    rw [next, List.getElem?_cons_succ]

theorem hyphenate_length (ds : List Char) (full : ds.length = 32) : (hyphenate ds).length = 36 := by
  simp [hyphenate, full]

theorem hyphenate_hyphen (ds : List Char) (full : ds.length = 32) :
    ∀ place ∈ hyphenPlaces, (hyphenate ds)[place]? = some '-' := by
  simp [hyphenPlaces, hyphenate, full, List.getElem?_append, List.getElem?_cons]

theorem past_hyphen_ne (hyphen other place : Nat) (before : other + 1 < hyphen) (apart : place ≠ other) :
    pastHyphen hyphen place ≠ other := by
  unfold pastHyphen
  split
  · exact apart
  · omega

-- The hyphens are taken out from the last one to the first.
theorem hyphenate_digit (ds : List Char) (full : ds.length = 32) (place : Nat) (free : place ∉ hyphenPlaces) :
    (hyphenate ds)[place]? = ds[digitIndex place]? := by
  obtain ⟨a, b, c, d, e, rfl, first, second, third, fourth, _⟩ := split_groups ds full
  simp only [hyphenPlaces, List.mem_cons, List.not_mem_nil, or_false, not_or] at free
  obtain ⟨not8, not13, not18, not23⟩ := free
  have apart18 := past_hyphen_ne 23 18 place (by omega) not18
  have apart13 := past_hyphen_ne 18 13 _ (by omega) (past_hyphen_ne 23 13 place (by omega) not13)
  have apart8 := past_hyphen_ne 13 8 _ (by omega)
    (past_hyphen_ne 18 8 _ (by omega) (past_hyphen_ne 23 8 place (by omega) not8))
  have whole : hyphenate (a ++ b ++ c ++ d ++ e) =
      (a ++ '-' :: (b ++ '-' :: (c ++ '-' :: d))) ++ '-' :: e := by
    rw [hyphenate_groups a b c d e first second third fourth, grouped]
    simp only [List.append_assoc, List.cons_append]
  have without23 : (a ++ '-' :: (b ++ '-' :: (c ++ '-' :: d))) ++ e =
      (a ++ '-' :: (b ++ '-' :: c)) ++ '-' :: (d ++ e) := by
    simp only [List.append_assoc, List.cons_append]
  have without18 : (a ++ '-' :: (b ++ '-' :: c)) ++ (d ++ e) = (a ++ '-' :: b) ++ '-' :: (c ++ (d ++ e)) := by
    simp only [List.append_assoc, List.cons_append]
  have without13 : (a ++ '-' :: b) ++ (c ++ (d ++ e)) = a ++ '-' :: (b ++ (c ++ (d ++ e))) := by
    simp only [List.append_assoc, List.cons_append]
  rw [whole, get_past_hyphen _ e 23 place (by simp [first, second, third, fourth]) not23,
    without23, get_past_hyphen _ (d ++ e) 18 _ (by simp [first, second, third]) apart18,
    without18, get_past_hyphen _ (c ++ (d ++ e)) 13 _ (by simp [first, second]) apart13,
    without13, get_past_hyphen a _ 8 _ first apart8]
  simp only [List.append_assoc]
  rfl

theorem digit_index_inside : ∀ place < 36, digitIndex place < 32 := by decide

-- The one spelling in which identifiers of version 3 are written.
structure Canonical (text : String) : Prop where
  length : text.length = 36
  hyphens : ∀ place, text.toList[place]? = some '-' ↔ place ∈ hyphenPlaces
  digits : ∀ place < 36, place ∉ hyphenPlaces → ∃ c ∈ lowerHexDigits, text.toList[place]? = some c
  version : text.toList[14]? = some '3'
  variant : ∃ c ∈ ['8', '9', 'a', 'b'], text.toList[19]? = some c

section Written

variable (u : Uuid)

theorem to_text_length : u.toText.length = 36 := by
  rw [← String.length_toList, toText, String.toList_ofList, hyphenate_length u.digits u.digits_length]

theorem to_text_digit (place : Nat) (free : place ∉ hyphenPlaces) :
    u.toText.toList[place]? = u.digits[digitIndex place]? := by
  rw [toText, String.toList_ofList, hyphenate_digit u.digits u.digits_length place free]

theorem to_text_lower (place : Nat) (c : Char) (free : place ∉ hyphenPlaces)
    (written : u.toText.toList[place]? = some c) : c ∈ lowerHexDigits := by
  rw [to_text_digit u place free] at written
  exact hex_lower _ c (List.mem_of_getElem? written)

theorem to_text_hyphen_iff (place : Nat) : u.toText.toList[place]? = some '-' ↔ place ∈ hyphenPlaces := by
  constructor
  · intro written
    by_contra free
    exact absurd (to_text_lower u place '-' free written) (by decide)
  · intro hyphen
    rw [toText, String.toList_ofList, hyphenate_hyphen u.digits u.digits_length place hyphen]

theorem to_text_digit_some (place : Nat) (inside : place < 36) (free : place ∉ hyphenPlaces) :
    ∃ c ∈ lowerHexDigits, u.toText.toList[place]? = some c := by
  have index : digitIndex place < u.digits.length := by
    rw [digits_length]
    exact digit_index_inside place inside
  have written := to_text_digit u place free
  rw [List.getElem?_eq_getElem index] at written
  exact ⟨_, to_text_lower u place _ free written, written⟩

end Written

-- The version and the variant are the first digits of their octets.
theorem name_based_digit (data : Digest.Bytes) (i : Nat) (inside : i < 16) :
    (nameBased data).digits[2 * i]? =
      some (hexDigit ((stamp i ((Digest.md5.hash data).getD i 0)).toNat / 16)) := by
  rw [digits, hex_high, octet_stamped data i inside, Option.map_some]

theorem stamped_version (octet : UInt8) : hexDigit ((stamp 6 octet).toNat / 16) = '3' := by
  have three : (stamp 6 octet).toNat / 16 = 3 := by
    rw [stamp_value, keptLow, stampedHigh, if_pos rfl, if_pos rfl]
    omega
  rw [three]
  rfl

theorem stamped_variant (octet : UInt8) : hexDigit ((stamp 8 octet).toNat / 16) ∈ ['8', '9', 'a', 'b'] := by
  have digits : ∀ n < 12, 8 ≤ n → hexDigit n ∈ ['8', '9', 'a', 'b'] := by decide
  have value : (stamp 8 octet).toNat = 2 ^ 6 * 2 + octet.toNat % 2 ^ 6 := stamp_value 8 octet
  exact digits _ (by omega) (by omega)

theorem name_based_canonical (data : Digest.Bytes) : Canonical (nameBased data).toText where
  length := to_text_length _
  hyphens := to_text_hyphen_iff _
  digits := to_text_digit_some _
  version := by
    rw [to_text_digit _ 14 (by decide), ← stamped_version ((Digest.md5.hash data).getD 6 0)]
    exact name_based_digit data 6 (by omega)
  variant := by
    refine ⟨_, stamped_variant ((Digest.md5.hash data).getD 8 0), ?_⟩
    rw [to_text_digit _ 19 (by decide)]
    exact name_based_digit data 8 (by omega)

theorem to_text_injective (u v : Uuid) (same : u.toText = v.toText) : u = v := by
  have back := of_text_to_text u
  rw [same, of_text_to_text v] at back
  exact (Option.some.inj back).symm

end Uuid

end PairwiseId
