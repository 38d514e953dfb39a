import PairwiseId.Digest.Word

/- SHA-3 (FIPS 202): a sponge over twenty-five lanes of 64 bits, in five rows of five columns. -/
namespace PairwiseId.Digest

set_option autoImplicit false

namespace Sha3

abbrev Lane := BitVec 64

structure Five (α : Type) where
  v0 : α
  v1 : α
  v2 : α
  v3 : α
  v4 : α

namespace Five

variable {α β γ : Type}

def map (f : α → β) (v : Five α) : Five β := ⟨f v.v0, f v.v1, f v.v2, f v.v3, f v.v4⟩

def zip (f : α → β → γ) (v : Five α) (w : Five β) : Five γ :=
  ⟨f v.v0 w.v0, f v.v1 w.v1, f v.v2 w.v2, f v.v3 w.v3, f v.v4 w.v4⟩

def left (v : Five α) : Five α := ⟨v.v1, v.v2, v.v3, v.v4, v.v0⟩

def right (v : Five α) : Five α := ⟨v.v4, v.v0, v.v1, v.v2, v.v3⟩

def diagonal (v : Five (Five α)) : Five α := ⟨v.v0.v0, v.v1.v1, v.v2.v2, v.v3.v3, v.v4.v4⟩

def toList (v : Five α) : List α := [v.v0, v.v1, v.v2, v.v3, v.v4]

-- Takes the values from a place on. Those that are missing are zeros.
def ofList [OfNat α 0] (values : List α) (start : Nat) : Five α :=
  ⟨values.getD start 0, values.getD (start + 1) 0, values.getD (start + 2) 0, values.getD (start + 3) 0,
    values.getD (start + 4) 0⟩

end Five

abbrev Row := Five Lane
abbrev State := Five Row

def add (r s : Row) : Row := r.zip (· ^^^ ·) s

def lanes (s : State) : List Lane := s.toList.flatMap Five.toList

def ofLanes (input : List Lane) : State :=
  ⟨.ofList input 0, .ofList input 5, .ofList input 10, .ofList input 15, .ofList input 20⟩

def rotations : Five (Five Nat) :=
  ⟨⟨0, 1, 62, 28, 27⟩, ⟨36, 44, 6, 55, 20⟩, ⟨3, 10, 43, 25, 39⟩, ⟨41, 45, 15, 21, 8⟩, ⟨18, 2, 61, 56, 14⟩⟩

def roundConstants : List Lane :=
  [0x0000000000000001, 0x0000000000008082, 0x800000000000808a, 0x8000000080008000,
   0x000000000000808b, 0x0000000080000001, 0x8000000080008081, 0x8000000000008009,
   0x000000000000008a, 0x0000000000000088, 0x0000000080008009, 0x000000008000000a,
   0x000000008000808b, 0x800000000000008b, 0x8000000000008089, 0x8000000000008003,
   0x8000000000008002, 0x8000000000000080, 0x000000000000800a, 0x800000008000000a,
   0x8000000080008081, 0x8000000000008080, 0x0000000080000001, 0x8000000080008008]

-- Adds to each bit the parities of two neighbouring columns.
def theta (s : State) : State :=
  let parity := add (add (add (add s.v0 s.v1) s.v2) s.v3) s.v4
  let mask := add parity.right (parity.left.map (·.rotateLeft 1))
  s.map (add mask)

def rho (s : State) : State := s.zip (fun row turns => row.zip BitVec.rotateLeft turns) rotations

-- Each row takes a diagonal. From one row to the next the columns have moved by two places.
def pi (s : State) : State :=
  let turn : State → State := Five.map fun row => row.right.right
  ⟨s.diagonal, (turn s).diagonal, (turn (turn s)).diagonal, (turn (turn (turn s))).diagonal,
    (turn (turn (turn (turn s)))).diagonal⟩

def chi (row : Row) : Row := add row (row.left.zip (fun b c => ~~~b &&& c) row.left.left)

def iota (constant : Lane) (s : State) : State := { s with v0 := { s.v0 with v0 := s.v0.v0 ^^^ constant } }

def permute (s : State) : State :=
  roundConstants.foldl (fun t constant => iota constant ((pi (rho (theta t))).map chi)) s

def absorb (rate : Nat) (s : State) (block : Bytes) : State :=
  permute (s.zip add (ofLanes (words natOfBytesLE 8 (rate / 8) block)))

-- The domain bits `01`, a one bit, zeros, and a one bit at the end of the block.
def padding (rate messageBytes : Nat) : Bytes :=
  let gap := rate - messageBytes % rate
  if gap = 1 then [0x86] else 0x06 :: List.replicate (gap - 2) 0 ++ [0x80]

def output (count : Nat) (s : State) : Bytes := ((lanes s).flatMap (bytesLE 8)).take count

theorem output_length (count : Nat) (s : State) (h : count ≤ 200) :
    (output count s).length = count := by
  have all : (lanes s).length = 25 := rfl
  rw [output, List.length_take, flat_map_length _ 8 _ fun x => bytes_le_length 8 x, all]
  omega

-- The member with the given result size. Twice the result is not part of the rate.
def sponge (outputBytes : Nat) (h : 2 * outputBytes < 200) : BlockHash where
  State := State
  blockBytes := 200 - 2 * outputBytes
  blockBytes_pos := by omega
  outputBytes := outputBytes
  initial := ofLanes []
  absorb := absorb (200 - 2 * outputBytes)
  padding := padding (200 - 2 * outputBytes)
  output := output outputBytes
  output_length := fun state => output_length outputBytes state (by omega)

end Sha3

def sha3_224 : BlockHash := Sha3.sponge 28 (by decide)

def sha3_256 : BlockHash := Sha3.sponge 32 (by decide)

def sha3_384 : BlockHash := Sha3.sponge 48 (by decide)

def sha3_512 : BlockHash := Sha3.sponge 64 (by decide)

end PairwiseId.Digest
