import PairwiseId.Mac
import PairwiseId.Sector
import PairwiseId.Uuid

/- A pseudonym is the version 3 identifier of a keyed hash. In the salted
   convention the salt is the key, and sector and local identifier are the
   message, in this order. In the sector-keyed convention the sector is the key
   and the local identifier the message. -/
namespace PairwiseId

set_option autoImplicit false

inductive Convention where
  | salted
  | sectorKeyed
deriving DecidableEq

def Convention.sectorMode : Convention → SectorMode
  | salted => .staticUri
  | sectorKeyed => .simple

structure Pseudonym where
  id : Uuid
deriving DecidableEq

namespace Pseudonym

def text (p : Pseudonym) : String := p.id.toText

inductive KeyMaterial where
  | salt (bytes : Digest.Bytes)
  | sector
deriving DecidableEq

structure MacInput where
  key : Digest.Bytes
  parts : List Digest.Bytes
deriving DecidableEq

-- An empty salt is no key.
def macInput (key : KeyMaterial) (sector : Sector) (localId : String) : Except Fault MacInput :=
  match key with
  | .salt [] => .error .missingSalt
  | .salt (b :: bs) => .ok ⟨b :: bs, [sector.bytes, Text.utf8 localId]⟩
  | .sector => .ok ⟨sector.bytes, [Text.utf8 localId]⟩

def ofMac (mac : Digest.Bytes) : Pseudonym := ⟨Uuid.nameBased mac⟩

def generate (algorithm : Algorithm) (key : KeyMaterial) (sector : Sector) (localId : String) :
    Except Fault Pseudonym := do
  let input ← macInput key sector localId
  let mac ← (Mac.hmac algorithm input.key input.parts).mapError Fault.ofAlgorithmError
  return ofMac mac

-- Refuses a salt that is absent or blank.
def generateSalted (algorithm : Algorithm) (salt : Option String) (sector : Sector)
    (localId : String) : Except Fault Pseudonym :=
  match salt with
  | none => .error .missingSalt
  | some text =>
    if Text.isBlank text then .error .missingSalt
    else generate algorithm (.salt (Text.utf8 text)) sector localId

def generateSectorKeyed (algorithm : Algorithm) (sector : Sector) (localId : String) :
    Except Fault Pseudonym :=
  generate algorithm .sector sector localId

end Pseudonym

end PairwiseId
