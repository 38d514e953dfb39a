import Mathlib.Data.Nat.Bitwise
import PairwiseId.Uuid

/- The bits of a name-based identifier. Six of them are the version and the variant. The others
   are those of the digest, and they are all that the identifier depends on. -/
namespace PairwiseId

set_option autoImplicit false

-- The bits of some bytes, the highest one of each byte first.
def Digest.bitAt (bytes : Digest.Bytes) (k : Nat) : Bool := (bytes.getD (k / 8) 0).toNat.testBit (7 - k % 8)

namespace Uuid

open Digest

def bit (u : Uuid) (k : Nat) : Bool := bitAt u.octets.toList k

-- The places of the version and of the variant.
def stampedBits : List Nat := [48, 49, 50, 51, 64, 65]

def keptBits : List Nat := (List.range 128).filter fun k => k ∉ stampedBits

theorem kept_bits_count : keptBits.length = 122 := by decide +kernel

-- An octet keeps its low bits, and the bits above them become a fixed number.
def keptLow (index : Nat) : Nat := if index = 6 then 4 else if index = 8 then 6 else 8

def stampedHigh (index : Nat) : Nat := if index = 6 then 3 else if index = 8 then 2 else 0

theorem stamp_value (index : Nat) (octet : UInt8) :
    (stamp index octet).toNat = 2 ^ keptLow index * stampedHigh index + octet.toNat % 2 ^ keptLow index := by
  have stamped (low high : Nat) : octet.toNat &&& (2 ^ low - 1) ||| 2 ^ low * high =
      2 ^ low * high + octet.toNat % 2 ^ low := by
    rw [Nat.and_two_pow_sub_one_eq_mod, Nat.lor_comm,
      ← Nat.two_pow_add_eq_or_of_lt (Nat.mod_lt _ (Nat.two_pow_pos low))]
  unfold stamp keptLow stampedHigh
  split
  · exact stamped 4 3
  · split
    · exact stamped 6 2
    · have bound := octet.toNat_lt
      omega

theorem stamp_bit (index j : Nat) (octet : UInt8) :
    (stamp index octet).toNat.testBit j =
      if j < keptLow index then octet.toNat.testBit j else (stampedHigh index).testBit (j - keptLow index) := by
  rw [stamp_value, Nat.testBit_two_pow_mul_add _ (Nat.mod_lt _ (Nat.two_pow_pos _)), Nat.testBit_mod_two_pow]
  by_cases low : j < keptLow index
  · simp [low]
  · simp [low]

-- In the order of the bits the high ones of an octet come first.
theorem kept_place (i j : Nat) (inside : i < 16) (low : j < keptLow i) :
    8 * i + (7 - j) ∈ keptBits ∧ (8 * i + (7 - j)) / 8 = i ∧ 7 - (8 * i + (7 - j)) % 8 = j := by
  unfold keptLow at low
  have kept : 8 * i + (7 - j) ∉ stampedBits := by
    simp only [stampedBits, List.mem_cons, List.not_mem_nil, or_false]
    split at low
    · omega
    · split at low
      · omega
      · omega
  have small : j < 8 := by
    split at low
    · omega
    · split at low
      · omega
      · omega
  refine ⟨List.mem_filter.mpr ⟨List.mem_range.mpr ?_, decide_eq_true kept⟩, ?_, ?_⟩
  · omega
  · omega
  · omega

theorem kept_low (k : Nat) (kept : k ∈ keptBits) : k / 8 < 16 ∧ 7 - k % 8 < keptLow (k / 8) := by
  obtain ⟨inside, free⟩ := List.mem_filter.mp kept
  have bound := List.mem_range.mp inside
  have apart : k ∉ stampedBits := of_decide_eq_true free
  simp only [stampedBits, List.mem_cons, List.not_mem_nil, or_false] at apart
  refine ⟨by omega, ?_⟩
  unfold keptLow
  split
  · omega
  · split
    · omega
    · omega

section NameBased

variable (data : Bytes)

theorem octet_stamped (i : Nat) (inside : i < 16) :
    (nameBased data).octets.toList[i]? = some (stamp i ((md5.hash data).getD i 0)) := by
  rw [nameBased, Vector.toList_ofFn, List.getElem?_ofFn, dif_pos inside]

theorem bit_kept (k : Nat) (kept : k ∈ keptBits) : (nameBased data).bit k = bitAt (md5.hash data) k := by
  obtain ⟨inside, low⟩ := kept_low k kept
  rw [bit, bitAt, List.getD_eq_getElem?_getD, octet_stamped data (k / 8) inside, Option.getD_some, stamp_bit,
    if_pos low, bitAt]

end NameBased

theorem name_based_eq_iff (first second : Bytes) :
    nameBased first = nameBased second ↔
      ∀ k ∈ keptBits, bitAt (md5.hash first) k = bitAt (md5.hash second) k := by
  constructor
  · intro same k kept
    rw [← bit_kept first k kept, same, bit_kept second k kept]
  · intro agree
    have octets (i : Fin 16) :
        stamp i ((md5.hash first).getD i 0) = stamp i ((md5.hash second).getD i 0) := by
      refine UInt8.toNat_inj.mp (Nat.eq_of_testBit_eq fun j => ?_)
      rw [stamp_bit, stamp_bit]
      by_cases low : j < keptLow i
      · obtain ⟨kept, octet, place⟩ := kept_place i j i.isLt low
        have same := agree _ kept
        rw [bitAt, bitAt, octet, place] at same
        rw [if_pos low, if_pos low, same]
      · rw [if_neg low, if_neg low]
    exact congrArg (fun octet : Fin 16 → UInt8 => (⟨Vector.ofFn octet⟩ : Uuid)) (funext octets)

end Uuid

end PairwiseId
