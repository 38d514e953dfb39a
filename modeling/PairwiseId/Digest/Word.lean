import PairwiseId.Digest.Block

/- Machine words as bit vectors, written to bytes and read from them in either
   byte order. A read takes as many bytes as it is given. -/
namespace PairwiseId.Digest

set_option autoImplicit false

variable {w : Nat}

def bytesBE (count : Nat) (x : BitVec w) : Bytes :=
  (List.range count).map fun i => UInt8.ofNat (x >>> (8 * (count - 1 - i))).toNat

def bytesLE (count : Nat) (x : BitVec w) : Bytes :=
  (List.range count).map fun i => UInt8.ofNat (x >>> (8 * i)).toNat

def natOfBytesBE (bytes : Bytes) : Nat := bytes.foldl (fun n b => 256 * n + b.toNat) 0

def natOfBytesLE (bytes : Bytes) : Nat := bytes.foldr (fun b n => b.toNat + 256 * n) 0

def words (read : Bytes → Nat) (size count : Nat) (block : Bytes) : List (BitVec w) :=
  (List.range count).map fun i => BitVec.ofNat w (read ((block.drop (size * i)).take size))

-- The words of a block and as many more as are asked for, each from the sixteen before it.
def schedule (next : List (BitVec w) → BitVec w) : Nat → List (BitVec w) → List (BitVec w)
  | count + 1, word :: rest => word :: schedule next count (rest ++ [next (word :: rest)])
  | _, _ => []

-- A one bit, zeros up to the length field, and the bits of the message as a number: the closing of
-- MD5, SHA-1 and SHA-2.
def lengthPadding (blockBytes fieldBytes : Nat) (field : Nat → Bytes) (messageBytes : Nat) :
    Bytes :=
  let used := (messageBytes + 1 + fieldBytes) % blockBytes
  0x80 :: List.replicate ((blockBytes - used) % blockBytes) 0 ++ field (8 * messageBytes)

theorem sixty_four_pos : 0 < 64 := by decide

@[simp] theorem bytes_be_length (count : Nat) (x : BitVec w) :
    (bytesBE count x).length = count := by simp [bytesBE]

@[simp] theorem bytes_le_length (count : Nat) (x : BitVec w) :
    (bytesLE count x).length = count := by simp [bytesLE]

theorem flat_map_length {α : Type} (f : α → Bytes) (n : Nat) (xs : List α)
    (h : ∀ x, (f x).length = n) : (xs.flatMap f).length = xs.length * n := by
  induction xs with
  | nil => simp
  | cons x rest ih => simp [h, ih, Nat.succ_mul, Nat.add_comm]

end PairwiseId.Digest
