/- A digest takes its message in blocks of a fixed size. The state absorbs one
   block after the other, the padding depends only on the length of the message
   and fills the last block, and the result is cut from the final state.
   `hash` reads a whole message; `Absorbing` takes it in pieces of any size. -/
namespace PairwiseId.Digest

set_option autoImplicit false

abbrev Bytes := List UInt8

structure BlockHash where
  State : Type
  blockBytes : Nat
  blockBytes_pos : 0 < blockBytes
  outputBytes : Nat
  initial : State
  absorb : State → Bytes → State
  padding : Nat → Bytes
  output : State → Bytes
  output_length : ∀ state, (output state).length = outputBytes

namespace BlockHash

def absorbBlocks (h : BlockHash) (state : h.State) (blocks : Nat) (bytes : Bytes) : h.State :=
  match blocks with
  | 0 => state
  | n + 1 => absorbBlocks h (h.absorb state (bytes.take h.blockBytes)) n (bytes.drop h.blockBytes)

def hash (h : BlockHash) (message : Bytes) : Bytes :=
  let padded := message ++ h.padding message.length
  h.output (h.absorbBlocks h.initial (padded.length / h.blockBytes) padded)

theorem hash_length (h : BlockHash) (message : Bytes) :
    (h.hash message).length = h.outputBytes := h.output_length _

end BlockHash

-- A digest under way: the state after the full blocks, the bytes of the block that is not full yet,
-- and how many bytes there were in all.
structure Absorbing (h : BlockHash) where
  state : h.State
  pending : Bytes
  total : Nat

namespace Absorbing

def start (h : BlockHash) : Absorbing h := ⟨h.initial, [], 0⟩

def feed {h : BlockHash} (a : Absorbing h) (piece : Bytes) : Absorbing h :=
  let bytes := a.pending ++ piece
  let blocks := bytes.length / h.blockBytes
  ⟨h.absorbBlocks a.state blocks bytes, bytes.drop (blocks * h.blockBytes), a.total + piece.length⟩

def finish {h : BlockHash} (a : Absorbing h) : Bytes :=
  let padded := a.pending ++ h.padding a.total
  h.output (h.absorbBlocks a.state (padded.length / h.blockBytes) padded)

end Absorbing

namespace BlockHash

theorem absorb_blocks_add (h : BlockHash) (state : h.State) (m n : Nat) (bytes : Bytes) :
    h.absorbBlocks state (m + n) bytes =
      h.absorbBlocks (h.absorbBlocks state m bytes) n (bytes.drop (m * h.blockBytes)) := by
  induction m generalizing state bytes with
  | zero => simp [absorbBlocks]
  | succ m ih =>
    rw [Nat.succ_add, absorbBlocks, absorbBlocks, ih, List.drop_drop]
    congr 2
    rw [Nat.succ_mul]
    omega

-- Full blocks are not affected by what follows them.
theorem absorb_blocks_append (h : BlockHash) (state : h.State) (n : Nat) (bytes rest : Bytes)
    (fits : n * h.blockBytes ≤ bytes.length) :
    h.absorbBlocks state n (bytes ++ rest) = h.absorbBlocks state n bytes := by
  induction n generalizing state bytes with
  | zero => rfl
  | succ n ih =>
    rw [Nat.succ_mul] at fits
    rw [absorbBlocks, absorbBlocks, List.take_append_of_le_length (by omega),
      List.drop_append_of_le_length (by omega), ih]
    simp only [List.length_drop]
    omega

end BlockHash

end PairwiseId.Digest
