import PairwiseId.Proofs.Mac

/- The keyed hash is the one of RFC 2104 over the digest in the name of its algorithm, whatever the
   key and however the message is divided, and it is as long as the catalog says. -/
namespace PairwiseId.Mac

set_option autoImplicit false

open Digest

def xorBytes (a b : Bytes) : Bytes := List.zipWith (· ^^^ ·) a b

-- RFC 2104 over a digest `H` with blocks of `B` bytes.
def rfc2104 (H : Bytes → Bytes) (B : Nat) (K text : Bytes) : Bytes :=
  let block := (if K.length ≤ B then K else H K).rightpad B 0
  let ipad := List.replicate B 0x36
  let opad := List.replicate B 0x5c
  H (xorBytes block opad ++ H (xorBytes block ipad ++ text))

-- The digest `H` that a catalog name stands for, with the bytes of its blocks and of its results.
inductive Standard : String → (Bytes → Bytes) → Nat → Nat → Prop where
  | md5 : Standard "HmacMD5" md5.hash 64 16
  | sha1 : Standard "HmacSHA1" sha1.hash 64 20
  | sha224 : Standard "HmacSHA224" sha224.hash 64 28
  | sha256 : Standard "HmacSHA256" sha256.hash 64 32
  | sha384 : Standard "HmacSHA384" sha384.hash 128 48
  | sha512 : Standard "HmacSHA512" sha512.hash 128 64
  | sha512_224 : Standard "HmacSHA512/224" sha512_224.hash 128 28
  | sha512_256 : Standard "HmacSHA512/256" sha512_256.hash 128 32
  | sha3_224 : Standard "HmacSHA3-224" sha3_224.hash 144 28
  | sha3_256 : Standard "HmacSHA3-256" sha3_256.hash 136 32
  | sha3_384 : Standard "HmacSHA3-384" sha3_384.hash 104 48
  | sha3_512 : Standard "HmacSHA3-512" sha3_512.hash 72 64

variable (algorithm : Algorithm)

theorem digest_standard :
    Standard algorithm.name algorithm.digest.hash algorithm.digest.blockBytes algorithm.digest.outputBytes := by
  cases algorithm <;> constructor

theorem digest_output : algorithm.digest.outputBytes = algorithm.outputBytes := by
  cases algorithm <;> rfl

-- A key that had to be hashed has room in its block.
theorem digest_narrow : algorithm.digest.outputBytes ≤ algorithm.digest.blockBytes := by
  cases algorithm <;> decide

theorem xor_replicate (block : Bytes) (c : UInt8) :
    xorBytes block (List.replicate block.length c) = block.map (· ^^^ c) := by
  induction block with
  | nil => rfl
  | cons b rest ih => exact congrArg (List.cons (b ^^^ c)) ih

theorem key_block_full (h : BlockHash) (key : Bytes) (narrow : h.outputBytes ≤ h.blockBytes) :
    (keyBlock h key).length = h.blockBytes := by
  apply key_block_length
  split
  · assumption
  · rw [h.hash_length]
    exact narrow

theorem of_message_standard (h : BlockHash) (key message : Bytes) (narrow : h.outputBytes ≤ h.blockBytes) :
    ofMessage h key message = rfc2104 h.hash h.blockBytes key message := by
  have full := key_block_full h key narrow
  rw [ofMessage, rfc2104, ← key_block_padded, ← full, xor_replicate, xor_replicate]
  rfl

theorem hmac_standard (key : Bytes) (parts : List Bytes) :
    hmac algorithm key parts =
      .ok (rfc2104 algorithm.digest.hash algorithm.digest.blockBytes key parts.flatten) := by
  rw [hmac_eq, of_message_standard _ key _ (digest_narrow algorithm)]

theorem rfc2104_length (h : BlockHash) (key message : Bytes) :
    (rfc2104 h.hash h.blockBytes key message).length = h.outputBytes :=
  h.hash_length _

end PairwiseId.Mac
