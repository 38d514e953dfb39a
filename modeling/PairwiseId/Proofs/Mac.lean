import PairwiseId.Mac

/- What the keyed hash reads: the block that the key fills, and the concatenation of
   the message parts. Where one part ends and the next one begins is not hashed. -/
namespace PairwiseId

set_option autoImplicit false

namespace Digest

variable {h : BlockHash}

-- A digest that has read a message: all its full blocks are in the state, the rest is pending.
structure Absorbed (a : Absorbing h) (message : Bytes) : Prop where
  state : a.state = h.absorbBlocks h.initial (message.length / h.blockBytes) message
  pending : a.pending = message.drop (message.length / h.blockBytes * h.blockBytes)
  total : a.total = message.length

theorem start_absorbed : Absorbed (Absorbing.start h) [] where
  state := by simp [Absorbing.start, BlockHash.absorbBlocks]
  pending := by simp [Absorbing.start]
  total := rfl

-- The pending bytes are completed by the piece as if the message had had it from the beginning.
theorem feed_absorbed (a : Absorbing h) (message piece : Bytes) (absorbed : Absorbed a message) :
    Absorbed (a.feed piece) (message ++ piece) := by
  let full := message.length / h.blockBytes
  have fits : full * h.blockBytes ≤ message.length := Nat.div_mul_le_self _ _
  have bytes : a.pending ++ piece = (message ++ piece).drop (full * h.blockBytes) := by
    rw [absorbed.pending, List.drop_append_of_le_length fits]
  have blocks : full + (a.pending ++ piece).length / h.blockBytes =
      (message ++ piece).length / h.blockBytes := by
    rw [bytes, List.length_drop, Nat.mul_comm, Nat.sub_mul_div]
    have more : full ≤ (message ++ piece).length / h.blockBytes := by
      rw [List.length_append]
      exact Nat.div_le_div_right (Nat.le_add_right _ _)
    omega
  refine ⟨?_, ?_, ?_⟩
  · calc (a.feed piece).state
        = h.absorbBlocks a.state ((a.pending ++ piece).length / h.blockBytes) (a.pending ++ piece) := rfl
      _ = h.absorbBlocks (h.absorbBlocks h.initial full (message ++ piece))
            ((a.pending ++ piece).length / h.blockBytes) ((message ++ piece).drop (full * h.blockBytes)) := by
          rw [absorbed.state, h.absorb_blocks_append h.initial full message piece fits, ← bytes]
      _ = h.absorbBlocks h.initial ((message ++ piece).length / h.blockBytes) (message ++ piece) := by
          rw [← h.absorb_blocks_add, blocks]
  · calc (a.feed piece).pending
        = (a.pending ++ piece).drop ((a.pending ++ piece).length / h.blockBytes * h.blockBytes) := rfl
      _ = (message ++ piece).drop ((message ++ piece).length / h.blockBytes * h.blockBytes) := by
          rw [← blocks, Nat.add_mul, ← List.drop_drop, ← bytes]
  · calc (a.feed piece).total = a.total + piece.length := rfl
      _ = (message ++ piece).length := by rw [absorbed.total, List.length_append]

theorem parts_absorbed (parts : List Bytes) (a : Absorbing h) (message : Bytes) (absorbed : Absorbed a message) :
    Absorbed (parts.foldl Absorbing.feed a) (message ++ parts.flatten) := by
  induction parts generalizing a message with
  | nil => simpa using absorbed
  | cons part rest ih =>
      rw [List.foldl_cons, List.flatten_cons, ← List.append_assoc]
      exact ih (a.feed part) (message ++ part) (feed_absorbed a message part absorbed)

-- The padding is one more piece.
theorem finish_absorbed (a : Absorbing h) (message : Bytes) (absorbed : Absorbed a message) :
    a.finish = h.hash message := by
  have padded := feed_absorbed a message (h.padding message.length) absorbed
  calc a.finish = h.output (a.feed (h.padding a.total)).state := rfl
    _ = h.hash message := by
        rw [absorbed.total, padded.state]
        rfl

theorem hash_in_parts (parts : List Bytes) :
    (parts.foldl Absorbing.feed (Absorbing.start h)).finish = h.hash parts.flatten :=
  finish_absorbed _ _ (parts_absorbed parts _ [] start_absorbed)

end Digest

-- The digest that the name of an algorithm says.
def Algorithm.digest : Algorithm → Digest.BlockHash
  | md5 => Digest.md5
  | sha1 => Digest.sha1
  | sha224 => Digest.sha224
  | sha256 => Digest.sha256
  | sha384 => Digest.sha384
  | sha512 => Digest.sha512
  | sha512_224 => Digest.sha512_224
  | sha512_256 => Digest.sha512_256
  | sha3_224 => Digest.sha3_224
  | sha3_256 => Digest.sha3_256
  | sha3_384 => Digest.sha3_384
  | sha3_512 => Digest.sha3_512

namespace Mac

open Digest

variable (h : BlockHash)

def ofMessage (key message : Bytes) : Bytes :=
  let block := keyBlock h key
  h.hash (outerPad block ++ h.hash (innerPad block ++ message))

theorem feed_of_digest (parts : List Bytes) (state : (providerOf h).State) :
    parts.foldl (providerOf h).feed state = (parts.foldl Absorbing.feed state.1, state.2) := by
  induction parts generalizing state with
  | nil => rfl
  | cons part rest ih => exact ih ((providerOf h).feed state part)

theorem compute_of_digest (algorithm : Algorithm) (key : Bytes) (parts : List Bytes) :
    (providerOf h).compute algorithm key parts = .ok (ofMessage h key parts.flatten) := by
  let block := keyBlock h key
  have inner := hash_in_parts (h := h) (innerPad block :: parts)
  have outer := hash_in_parts (h := h) [outerPad block, h.hash (innerPad block ++ parts.flatten)]
  rw [List.flatten_cons] at inner
  simp only [List.flatten_cons, List.flatten_nil, List.append_nil] at outer
  calc (providerOf h).compute algorithm key parts
      = .ok ([outerPad block, ((innerPad block :: parts).foldl Absorbing.feed (Absorbing.start h)).finish].foldl
          Absorbing.feed (Absorbing.start h)).finish := by
        simp only [Provider.compute, feed_of_digest]
        rfl
    _ = .ok (ofMessage h key parts.flatten) := by
        rw [inner, outer]
        rfl

theorem hmac_eq (algorithm : Algorithm) (key : Bytes) (parts : List Bytes) :
    hmac algorithm key parts = .ok (ofMessage algorithm.digest key parts.flatten) := by
  cases algorithm <;> simp only [hmac, compute_of_digest, Algorithm.digest]

theorem key_block_padded (key : Bytes) :
    keyBlock h key = (if key.length ≤ h.blockBytes then key else h.hash key).rightpad h.blockBytes 0 := by
  by_cases fits : key.length ≤ h.blockBytes
  · simp only [keyBlock, if_neg (Nat.not_lt.mpr fits), if_pos fits, List.rightpad]
  · simp only [keyBlock, if_pos (Nat.not_le.mp fits), if_neg fits, List.rightpad]

theorem key_block_length (key : Bytes)
    (room : (if key.length ≤ h.blockBytes then key else h.hash key).length ≤ h.blockBytes) :
    (keyBlock h key).length = h.blockBytes := by
  rw [key_block_padded, List.length_rightpad]
  exact Nat.max_eq_left room

-- The keyed hash of a key that fills its block already.
def ofBlock (block message : Bytes) : Bytes :=
  h.hash (outerPad block ++ h.hash (innerPad block ++ message))

theorem of_message_eq (key message : Bytes) : ofMessage h key message = ofBlock h (keyBlock h key) message := rfl

end Mac

end PairwiseId
