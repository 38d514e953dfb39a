import PairwiseId.Text.Basic

/- The closed catalog of keyed hashes. Stored configurations name an algorithm by
   its catalog name; a name typed by an administrator may differ in ASCII case
   and stand between blanks. -/
namespace PairwiseId

set_option autoImplicit false

inductive Algorithm where
  | md5
  | sha1
  | sha224
  | sha256
  | sha384
  | sha512
  | sha512_224
  | sha512_256
  | sha3_224
  | sha3_256
  | sha3_384
  | sha3_512
deriving DecidableEq, Inhabited

inductive AlgorithmError where
  | unknown (name : String)
  | invalidKey (algorithm : Algorithm) (reason : String)
deriving DecidableEq

namespace Algorithm

def all : List Algorithm :=
  [md5, sha1, sha224, sha256, sha384, sha512, sha512_224, sha512_256, sha3_224, sha3_256,
    sha3_384, sha3_512]

-- Used where a configuration names no algorithm.
def standard : Algorithm := sha256

def name : Algorithm → String
  | md5 => "HmacMD5"
  | sha1 => "HmacSHA1"
  | sha224 => "HmacSHA224"
  | sha256 => "HmacSHA256"
  | sha384 => "HmacSHA384"
  | sha512 => "HmacSHA512"
  | sha512_224 => "HmacSHA512/224"
  | sha512_256 => "HmacSHA512/256"
  | sha3_224 => "HmacSHA3-224"
  | sha3_256 => "HmacSHA3-256"
  | sha3_384 => "HmacSHA3-384"
  | sha3_512 => "HmacSHA3-512"

def outputBytes : Algorithm → Nat
  | md5 => 16
  | sha1 => 20
  | sha224 | sha512_224 | sha3_224 => 28
  | sha256 | sha512_256 | sha3_256 => 32
  | sha384 | sha3_384 => 48
  | sha512 | sha3_512 => 64

def isLegacy : Algorithm → Bool
  | md5 | sha1 => true
  | _ => false

def ofExactName? (name : String) : Option Algorithm := all.find? fun a => a.name == name

theorem of_exact_name (algorithm : Algorithm) : ofExactName? algorithm.name = some algorithm := by
  cases algorithm <;> decide +kernel

def ofName? (name : String) : Option Algorithm :=
  all.find? fun a => Text.sameIgnoringAsciiCase a.name (Text.trim name)

-- An unknown name is reported as it was given.
def resolve (name : String) : Except AlgorithmError Algorithm :=
  match ofName? name with
  | some algorithm => .ok algorithm
  | none => .error (.unknown name)

end Algorithm

def AlgorithmError.message : AlgorithmError → String
  | unknown name => "unknown algorithm: " ++ name
  | invalidKey algorithm reason => "invalid key for " ++ algorithm.name ++ ": " ++ reason

end PairwiseId
