import Mathlib.Data.List.DropRight
import PairwiseId.Text.Bytes

/- The bytes of a text determine it. Zero bytes behind them are the bytes of the
   same text with null characters behind it, and the byte of an ASCII character
   stands only where the character stands. -/
namespace PairwiseId.Text

set_option autoImplicit false

theorem encode_injective (cs ds : List Char)
    (same : cs.flatMap String.utf8EncodeChar = ds.flatMap String.utf8EncodeChar) : cs = ds := by
  have encoded : cs.utf8Encode = ds.utf8Encode := by
    rw [List.utf8Encode, List.utf8Encode, same]
  have decoded := congrArg ByteArray.utf8Decode? encoded
  rw [List.utf8Decode?_utf8Encode, List.utf8Decode?_utf8Encode] at decoded
  simpa using decoded

theorem utf8_injective (s t : String) (same : utf8 s = utf8 t) : s = t :=
  String.toList_inj.mp (encode_injective _ _ same)

-- Two texts one after the other are read alike if one of the second texts begins with what the
-- first text before it lacks.
theorem append_eq_iff (a b c d : String) :
    a ++ b = c ++ d ↔ (∃ rest, c = a ++ rest ∧ b = rest ++ d) ∨ ∃ rest, a = c ++ rest ∧ d = rest ++ b := by
  have back : ∀ (s t : String) (cs : List Char), s.toList = t.toList ++ cs ↔ s = t ++ String.ofList cs := by
    intro s t cs
    rw [← String.toList_inj, String.toList_append, String.toList_ofList]
  rw [← String.toList_inj, String.toList_append, String.toList_append, List.append_eq_append_iff]
  constructor
  · rintro (⟨rest, longer, shorter⟩ | ⟨rest, longer, shorter⟩)
    · exact .inl ⟨String.ofList rest, (back c a rest).mp longer, String.toList_inj.mp (by simpa using shorter)⟩
    · exact .inr ⟨String.ofList rest, (back a c rest).mp longer, String.toList_inj.mp (by simpa using shorter)⟩
  · rintro (⟨rest, rfl, rfl⟩ | ⟨rest, rfl, rfl⟩)
    · exact .inl ⟨rest.toList, String.toList_append, String.toList_append⟩
    · exact .inr ⟨rest.toList, String.toList_append, String.toList_append⟩

-- The text without the null characters at its end.
def unpadded (s : String) : List Char := s.toList.rdropWhile (· == '\x00')

theorem rdrop_while_replicate {α : Type} (p : α → Bool) (x : α) (matching : p x = true) (n : Nat) (xs : List α) :
    (xs ++ List.replicate n x).rdropWhile p = xs.rdropWhile p := by
  induction n with
  | zero => simp
  | succ n ih => rw [List.replicate_succ', ← List.append_assoc, List.rdropWhile_concat_pos p _ x matching, ih]

theorem unpadded_split (s : String) :
    ∃ n, s.toList = unpadded s ++ List.replicate n '\x00' := by
  refine ⟨(s.toList.rtakeWhile (· == '\x00')).length, ?_⟩
  have nulls : s.toList.rtakeWhile (· == '\x00') =
      List.replicate (s.toList.rtakeWhile (· == '\x00')).length '\x00' :=
    List.eq_replicate_length.mpr fun c member => by
      simpa using List.mem_rtakeWhile_imp member
  rw [← nulls]
  exact (List.rdropWhile_append_rtakeWhile).symm

theorem encode_replicate (n : Nat) :
    (List.replicate n '\x00').flatMap String.utf8EncodeChar = List.replicate n 0 := by
  induction n with
  | zero => rfl
  | succ n ih =>
      rw [List.replicate_succ, List.flatMap_cons, ih]
      rfl

theorem encode_char_beyond (c : Char) (beyond : 128 ≤ c.toNat) :
    ∀ b ∈ String.utf8EncodeChar c, 128 ≤ b.toNat := by
  rw [Char.toNat] at beyond
  simp only [String.utf8EncodeChar, if_neg (show ¬ c.val.toNat ≤ 127 by omega)]
  split
  · simp only [List.forall_mem_cons, UInt8.toNat_ofNat']
    exact ⟨by omega, by omega, by simp⟩
  · split
    · simp only [List.forall_mem_cons, UInt8.toNat_ofNat']
      exact ⟨by omega, by omega, by omega, by simp⟩
    · simp only [List.forall_mem_cons, UInt8.toNat_ofNat']
      exact ⟨by omega, by omega, by omega, by omega, by simp⟩

-- An ASCII character is its own byte, and no part of another one.
theorem encode_char_ascii (c d : Char) (ascii : c.toNat < 128)
    (member : UInt8.ofNat c.toNat ∈ String.utf8EncodeChar d) : d = c := by
  have code : (UInt8.ofNat c.toNat).toNat = c.toNat := by
    rw [UInt8.toNat_ofNat']
    omega
  by_cases beyond : 128 ≤ d.toNat
  · have large := encode_char_beyond d beyond _ member
    omega
  · rw [String.utf8EncodeChar, if_pos (show d.val.toNat ≤ 127 by rw [Char.toNat] at beyond; omega),
      List.mem_singleton] at member
    have same := congrArg UInt8.toNat member
    rw [code, UInt8.toNat_ofNat'] at same
    refine Char.ext (UInt32.toNat_inj.mp ?_)
    rw [Char.toNat] at same beyond
    omega

theorem of_utf8_some (bytes : Digest.Bytes) (cs : List Char) (read : ofUtf8? bytes = some cs) :
    cs.flatMap String.utf8EncodeChar = bytes := by
  obtain ⟨s, decoded, rfl⟩ := Option.map_eq_some_iff.mp read
  have whole : s.toByteArray = ByteArray.mk bytes.toArray := by
    simp only [String.fromUTF8?] at decoded
    split at decoded
    case isFalse => cases decoded
    case isTrue valid => rw [← Option.some.inj decoded, String.fromUTF8]
  rw [← String.utf8Encode_toList, List.utf8Encode] at whole
  have listed := congrArg (fun b : ByteArray => b.data.toList) whole
  simpa using listed

theorem mem_of_utf8 (c : Char) (ascii : c.toNat < 128) (bytes : Digest.Bytes) (cs : List Char)
    (read : ofUtf8? bytes = some cs) (member : UInt8.ofNat c.toNat ∈ bytes) : c ∈ cs := by
  rw [← of_utf8_some bytes cs read] at member
  obtain ⟨d, inText, inChar⟩ := List.mem_flatMap.mp member
  exact encode_char_ascii c d ascii inChar ▸ inText

end PairwiseId.Text
