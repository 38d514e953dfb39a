import PairwiseId.Pseudonym

/- A pseudonym from typed inputs: the one that a mapper with this configuration
   issues. -/
namespace PairwiseId

set_option autoImplicit false

def Convention.name : Convention → String
  | salted => "salted"
  | sectorKeyed => "sector-keyed"

def Convention.ofName? (name : String) : Option Convention :=
  [salted, sectorKeyed].find? fun c => c.name == name

namespace Console

structure Derivation where
  convention : Convention := .salted
  algorithm : Option String := none
  salt : Option String := none
  sector : String
  localId : String
deriving DecidableEq

namespace Derivation

def resolvedAlgorithm (d : Derivation) (fallback : Algorithm) : Except Fault Algorithm :=
  match d.algorithm with
  | none => .ok fallback
  | some name => (Algorithm.resolve name).mapError Fault.ofAlgorithmError

-- The algorithm is resolved first, then the sector. A salt that is not used does no harm.
def compute (d : Derivation) (fallback : Algorithm) : Except Fault (Algorithm × Pseudonym) := do
  let algorithm ← d.resolvedAlgorithm fallback
  let sector ← Sector.resolve (some d.sector) d.convention.sectorMode
  let pseudonym ←
    match d.convention with
    | .salted => Pseudonym.generateSalted algorithm d.salt sector d.localId
    | .sectorKeyed => Pseudonym.generateSectorKeyed algorithm sector d.localId
  return (algorithm, pseudonym)

end Derivation

end Console

end PairwiseId
