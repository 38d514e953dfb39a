import PairwiseId.Fault
import PairwiseId.Text.Bytes
import PairwiseId.Uri.Absolute

/- A sector identifier groups the clients that see the same pseudonym of a user.
   It is either an absolute URI with a host or any text that is not blank, and in
   both modes it is used exactly as it was configured. -/
namespace PairwiseId

set_option autoImplicit false

inductive SectorMode where
  | staticUri
  | simple
deriving DecidableEq

def SectorMode.name : SectorMode → String
  | staticUri => "static_uri"
  | simple => "simple"

def SectorMode.ofName? (name : String) : Option SectorMode :=
  [staticUri, simple].find? fun mode => mode.name == name

def SectorMode.accepts (mode : SectorMode) (value : String) : Bool :=
  !Text.isBlank value &&
    match mode with
    | staticUri => Uri.isAbsoluteWithHost value
    | simple => true

structure Sector where
  value : String
  mode : SectorMode
  accepted : mode.accepts value = true
deriving DecidableEq

namespace Sector

def resolve (raw : Option String) (mode : SectorMode) : Except Fault Sector :=
  match raw with
  | none => .error .missingSector
  | some value =>
    if Text.isBlank value then .error .missingSector
    else if accepted : mode.accepts value = true then .ok ⟨value, mode, accepted⟩
    else .error (.malformedSector value)

def bytes (s : Sector) : Digest.Bytes := Text.utf8 s.value

end Sector

end PairwiseId
