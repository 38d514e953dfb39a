import PairwiseId.Proofs.Mapping.Derivation
import PairwiseId.Proofs.Text.Utf8

/- What a sector becomes as the key of a pseudonym. A key that is shorter than a block
   is filled with zero bytes, and a null character is such a byte, so sectors that
   differ only in the null characters at their ends are one key. -/
namespace PairwiseId.Pseudonym

set_option autoImplicit false

-- The key block of all pseudonyms of a sector.
def sectorBlock (algorithm : Algorithm) (s : Sector) : Digest.Bytes := Mac.keyBlock algorithm.digest s.bytes

theorem generate_of_block (algorithm : Algorithm) (s : Sector) (localId : String) :
    generateSectorKeyed algorithm s localId =
      .ok (ofMac (Mac.ofBlock algorithm.digest (sectorBlock algorithm s) (Text.utf8 localId))) := by
  rw [generate_sector_keyed_eq, List.flatten_singleton, Mac.of_message_eq, sectorBlock]

-- The block of a short key is what the text would be with null characters to its end.
theorem key_block_short (h : Digest.BlockHash) (s : String) (fits : (Text.utf8 s).length ≤ h.blockBytes) :
    ∃ n, Mac.keyBlock h (Text.utf8 s) =
      (Text.unpadded s ++ List.replicate n '\x00').flatMap String.utf8EncodeChar := by
  obtain ⟨own, split⟩ := Text.unpadded_split s
  refine ⟨own + (h.blockBytes - (Text.utf8 s).length), ?_⟩
  rw [Mac.key_block_padded, if_pos fits, List.rightpad, ← List.replicate_append_replicate,
    ← List.append_assoc, ← split, List.flatMap_append, Text.encode_replicate]
  rfl

theorem key_block_eq_iff (h : Digest.BlockHash) (s t : String) (fits : (Text.utf8 s).length ≤ h.blockBytes)
    (alsoFits : (Text.utf8 t).length ≤ h.blockBytes) :
    Mac.keyBlock h (Text.utf8 s) = Mac.keyBlock h (Text.utf8 t) ↔ Text.unpadded s = Text.unpadded t := by
  obtain ⟨m, first⟩ := key_block_short h s fits
  obtain ⟨n, second⟩ := key_block_short h t alsoFits
  constructor
  · intro same
    rw [first, second] at same
    have dropped := congrArg (List.rdropWhile (· == '\x00')) (Text.encode_injective _ _ same)
    rwa [Text.rdrop_while_replicate _ _ rfl, Text.rdrop_while_replicate _ _ rfl, Text.unpadded, Text.unpadded,
      List.rdropWhile_idempotent, List.rdropWhile_idempotent] at dropped
  · intro same
    -- Both blocks are full, so equal beginnings are filled with equally many null characters.
    have full := congrArg List.length first
    have alsoFull := congrArg List.length second
    rw [Mac.key_block_length h _ (by rwa [if_pos fits]), List.flatMap_append, Text.encode_replicate,
      List.length_append, List.length_replicate] at full
    rw [Mac.key_block_length h _ (by rwa [if_pos alsoFits]), ← same, List.flatMap_append,
      Text.encode_replicate, List.length_append, List.length_replicate] at alsoFull
    have filled : m = n := by omega
    rw [first, second, same, filled]

theorem sector_blocks_equal_iff (algorithm : Algorithm) (s t : Sector)
    (fits : s.bytes.length ≤ algorithm.digest.blockBytes)
    (alsoFits : t.bytes.length ≤ algorithm.digest.blockBytes) :
    (∀ localId,
      generateSectorKeyed algorithm s localId =
        .ok (ofMac (Mac.ofBlock algorithm.digest (sectorBlock algorithm s) (Text.utf8 localId))) ∧
      generateSectorKeyed algorithm t localId =
        .ok (ofMac (Mac.ofBlock algorithm.digest (sectorBlock algorithm t) (Text.utf8 localId)))) ∧
    (sectorBlock algorithm s = sectorBlock algorithm t ↔ Text.unpadded s.value = Text.unpadded t.value) :=
  ⟨fun localId => ⟨generate_of_block algorithm s localId, generate_of_block algorithm t localId⟩,
    key_block_eq_iff algorithm.digest s.value t.value fits alsoFits⟩

def plainName : Sector := ⟨"a", .simple, by decide⟩

def paddedName : Sector := ⟨"a\x00", .simple, by decide⟩

def dividedName : Sector := ⟨"a\x00b", .simple, by decide⟩

-- A null character inside a sector is part of the key.
theorem inner_null_changes_block :
    plainName.bytes.length ≤ Algorithm.sha256.digest.blockBytes ∧
      dividedName.bytes.length ≤ Algorithm.sha256.digest.blockBytes ∧
      sectorBlock .sha256 plainName ≠ sectorBlock .sha256 dividedName := by
  have fits : plainName.bytes.length ≤ Algorithm.sha256.digest.blockBytes := by decide
  have alsoFits : dividedName.bytes.length ≤ Algorithm.sha256.digest.blockBytes := by decide
  have equal := (sector_blocks_equal_iff .sha256 plainName dividedName fits alsoFits).2
  exact ⟨fits, alsoFits, fun same => absurd (equal.mp same) (by decide)⟩

theorem null_at_end_keeps_block :
    ¬ ∀ (algorithm : Algorithm) (s t : Sector), s.mode = .simple → t.mode = .simple → s.value ≠ t.value →
      s.bytes.length ≤ algorithm.digest.blockBytes → t.bytes.length ≤ algorithm.digest.blockBytes →
      sectorBlock algorithm s ≠ sectorBlock algorithm t := by
  intro apart
  have fits : plainName.bytes.length ≤ Algorithm.sha256.digest.blockBytes := by decide
  have alsoFits : paddedName.bytes.length ≤ Algorithm.sha256.digest.blockBytes := by decide
  have same := (key_block_eq_iff Algorithm.sha256.digest plainName.value paddedName.value fits alsoFits).mpr
    (by decide)
  exact apart .sha256 plainName paddedName rfl rfl (by decide) fits alsoFits same

end PairwiseId.Pseudonym
