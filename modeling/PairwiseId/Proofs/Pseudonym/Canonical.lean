import PairwiseId.Proofs.Mapping.Derivation
import PairwiseId.Proofs.Uuid.Layout

/- A pseudonym is written in the one spelling that identifiers of version 3 have, and it keeps all
   of the digest of its keyed hash that such an identifier has room for. -/
namespace PairwiseId.Pseudonym

set_option autoImplicit false

open Digest

-- The keyed hash behind a pseudonym.
def macOf (algorithm : Algorithm) (key : KeyMaterial) (sector : Sector) (localId : String) :
    Except AlgorithmError Bytes :=
  match key with
  | .salt bytes => Mac.hmac algorithm bytes [sector.bytes, Text.utf8 localId]
  | .sector => Mac.hmac algorithm sector.bytes [Text.utf8 localId]

theorem mac_computed (algorithm : Algorithm) (key : KeyMaterial) (sector : Sector) (localId : String) :
    ∃ mac, macOf algorithm key sector localId = .ok mac := by
  cases key with
  | salt bytes => exact ⟨_, Mac.hmac_eq algorithm bytes _⟩
  | sector => exact ⟨_, Mac.hmac_eq algorithm sector.bytes _⟩

theorem generate_of_mac (algorithm : Algorithm) (key : KeyMaterial) (sector : Sector) (localId : String)
    (mac : Bytes) (usable : key ≠ .salt []) (computed : macOf algorithm key sector localId = .ok mac) :
    generate algorithm key sector localId = .ok (ofMac mac) := by
  have prepared : generate algorithm key sector localId =
      (macOf algorithm key sector localId).mapError Fault.ofAlgorithmError >>= fun mac => .ok (ofMac mac) := by
    cases key with
    | salt bytes =>
        cases bytes with
        | nil => exact absurd rfl usable
        | cons first rest => rfl
    | sector => rfl
  rw [prepared, computed]
  rfl

-- The digests differ in no bit that an identifier keeps.
def SameKeptBits (first second : Bytes) : Prop :=
  ∀ k ∈ Uuid.keptBits, bitAt (md5.hash first) k = bitAt (md5.hash second) k

theorem texts_equal_iff (first second : Bytes) :
    (ofMac first).text = (ofMac second).text ↔ SameKeptBits first second := by
  rw [SameKeptBits, ← Uuid.name_based_eq_iff]
  exact ⟨Uuid.to_text_injective _ _, congrArg Uuid.toText⟩

theorem pseudonym_keeps_digest (algorithm : Algorithm) (key : KeyMaterial) (sector : Sector) (localId : String)
    (usable : key ≠ .salt []) :
    (∃ mac p u, macOf algorithm key sector localId = .ok mac ∧
        generate algorithm key sector localId = .ok p ∧ p = ofMac mac ∧
        Uuid.Canonical p.text ∧ Uuid.ofText? p.text = some u ∧ u.toText = p.text ∧
        ∀ k ∈ Uuid.keptBits, u.bit k = bitAt (md5.hash mac) k) ∧
      Uuid.keptBits.length = 122 ∧
      ∀ first second : Bytes, (ofMac first).text = (ofMac second).text ↔ SameKeptBits first second := by
  obtain ⟨mac, computed⟩ := mac_computed algorithm key sector localId
  have generated := generate_of_mac algorithm key sector localId mac usable computed
  refine ⟨⟨mac, _, _, computed, generated, rfl, ?_, ?_, rfl, ?_⟩, Uuid.kept_bits_count, texts_equal_iff⟩
  · exact Uuid.name_based_canonical mac
  · exact Uuid.of_text_to_text _
  · exact Uuid.bit_kept mac

def documentSector : Sector :=
  ⟨"http://a-static-url.de/sector_identifiers.json", .staticUri, by decide +kernel⟩

def textSalt : KeyMaterial := .salt (Text.utf8 "P5ZD+fqPLDTW")

theorem sha256_pseudonym_canonical :
    textSalt ≠ .salt [] ∧
      ∃ p, generate .sha256 textSalt documentSector "608b8580-3a2e-4a3d-8b47-5b8d6e3c1f90" = .ok p ∧
        p.text = "3bb29f6e-f531-3af6-a4f3-3d0d677aec5d" ∧ Uuid.Canonical p.text := by
  have usable : textSalt ≠ .salt [] := by decide
  have written : (generate .sha256 textSalt documentSector "608b8580-3a2e-4a3d-8b47-5b8d6e3c1f90").toOption.map
      text = some "3bb29f6e-f531-3af6-a4f3-3d0d677aec5d" := by decide +kernel
  obtain ⟨⟨_, p, _, _, generated, _, canonical, _⟩, _⟩ :=
    pseudonym_keeps_digest .sha256 textSalt documentSector "608b8580-3a2e-4a3d-8b47-5b8d6e3c1f90" usable
  rw [generated] at written
  exact ⟨usable, p, generated, Option.some.inj written, canonical⟩

end PairwiseId.Pseudonym
