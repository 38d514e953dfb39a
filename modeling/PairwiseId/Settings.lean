import PairwiseId.Algorithm
import PairwiseId.Json.Basic

/- The defaults that apply when a pairwise mapper is saved. -/
namespace PairwiseId

set_option autoImplicit false

structure Settings where
  defaultAlgorithm : Algorithm := .standard
  -- The length in bytes of a fresh salt.
  saltLength : Nat := 24
deriving DecidableEq

namespace Settings

-- No salt is shorter, whatever length is asked for.
def minSaltBytes : Nat := 16

def saltBytes (length : Nat) : Nat := max length minSaltBytes

def algorithmOfJson? (j : Json) : Option Algorithm := do Algorithm.ofExactName? (← j.asChoice?)

def ofJson? (j : Json) : Option Settings := do
  let fields ← j.asRecord? ["default_algorithm", "salt_length"] 0
  let algorithm ←
    Json.withDefault "default_algorithm" algorithmOfJson? Algorithm.standard fields
  let length ← Json.withDefault "salt_length" Json.asNat? 24 fields
  return ⟨algorithm, length⟩

def toJson (s : Settings) : Json :=
  .obj [("default_algorithm", .str s.defaultAlgorithm.name), ("salt_length", .int s.saltLength)]

end Settings

end PairwiseId
