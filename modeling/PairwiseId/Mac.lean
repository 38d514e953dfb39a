import PairwiseId.Algorithm
import PairwiseId.Digest.Md5
import PairwiseId.Digest.Sha1
import PairwiseId.Digest.Sha2
import PairwiseId.Digest.Sha3

/- The keyed hash of RFC 2104. A key longer than a block is replaced by its
   digest, and the key fills a block with zeros. The message may come in parts;
   only their concatenation counts. -/
namespace PairwiseId.Mac

set_option autoImplicit false

open Digest

-- The key as it fills one block.
def keyBlock (h : BlockHash) (key : Bytes) : Bytes :=
  let short := if h.blockBytes < key.length then h.hash key else key
  short ++ List.replicate (h.blockBytes - short.length) 0

def innerPad (block : Bytes) : Bytes := block.map (· ^^^ 0x36)

def outerPad (block : Bytes) : Bytes := block.map (· ^^^ 0x5c)

-- What computes keyed hashes. It may refuse a key, and then it gives the reason.
structure Provider where
  State : Type
  ofKey : Bytes → Except String State
  feed : State → Bytes → State
  finish : State → Bytes

-- The inner digest is under way and the outer one waits for its result. There is no key that
-- cannot be made to fill a block.
def providerOf (h : BlockHash) : Provider where
  State := Absorbing h × Absorbing h
  ofKey key :=
    let block := keyBlock h key
    .ok ((Absorbing.start h).feed (innerPad block), (Absorbing.start h).feed (outerPad block))
  feed state part := (state.1.feed part, state.2)
  finish state := (state.2.feed state.1.finish).finish

-- A refused key is reported with the algorithm that it was meant for.
def Provider.compute (provider : Provider) (algorithm : Algorithm) (key : Bytes) (parts : List Bytes) :
    Except AlgorithmError Bytes :=
  match provider.ofKey key with
  | .ok state => .ok (provider.finish (parts.foldl provider.feed state))
  | .error reason => .error (.invalidKey algorithm reason)

def hmac (algorithm : Algorithm) (key : Bytes) (parts : List Bytes) : Except AlgorithmError Bytes :=
  match algorithm with
  | .md5 => (providerOf md5).compute algorithm key parts
  | .sha1 => (providerOf sha1).compute algorithm key parts
  | .sha224 => (providerOf sha224).compute algorithm key parts
  | .sha256 => (providerOf sha256).compute algorithm key parts
  | .sha384 => (providerOf sha384).compute algorithm key parts
  | .sha512 => (providerOf sha512).compute algorithm key parts
  | .sha512_224 => (providerOf sha512_224).compute algorithm key parts
  | .sha512_256 => (providerOf sha512_256).compute algorithm key parts
  | .sha3_224 => (providerOf sha3_224).compute algorithm key parts
  | .sha3_256 => (providerOf sha3_256).compute algorithm key parts
  | .sha3_384 => (providerOf sha3_384).compute algorithm key parts
  | .sha3_512 => (providerOf sha3_512).compute algorithm key parts

end PairwiseId.Mac
