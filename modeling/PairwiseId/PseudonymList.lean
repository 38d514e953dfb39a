import PairwiseId.Mapper.Spi
import PairwiseId.Mapping.Basic

/- A pseudonym list tells one client the pseudonyms that other clients receive for
   the same user. Each of them is computed from the single static-sector mapper of
   the other client. -/
namespace PairwiseId

set_option autoImplicit false

structure PseudonymList where
  claimName : String
  clients : List String
deriving DecidableEq

namespace PseudonymList

def mapperType : String := "oidc-hmac-pairwise-list-mapper"

-- Keeps the first of equal texts.
def withoutRepeats : List String → List String
  | [] => []
  | s :: rest => s :: (withoutRepeats rest).filter (· != s)

-- Trimmed texts between doubled number signs, without empty ones and repetitions.
def clientsOf (text : String) : List String :=
  let pieces := (Text.splitAtDouble '#' text.toList).map fun p => Text.trim (String.ofList p)
  withoutRepeats (pieces.filter (· != ""))

def separator : String := "##"

def ofConfig (config : MapperConfig) : PseudonymList :=
  ⟨(config.getNonBlank? OptionKey.claimName).getD "",
    clientsOf ((config.get? OptionKey.clients).getD "")⟩

def isStaticSector (config : MapperConfig) : Bool :=
  config.mapperType == Variant.staticSector.mapperType

-- The static-sector mapper of a client that exists and has exactly one.
def findStaticSector? (lookup : Lookup) (client : String) : Option MapperConfig := do
  match (← lookup client).filter isStaticSector with
  | [config] => some config
  | _ => none

-- Collects the entries of some clients. A client without a usable mapper is skipped.
def collect (lookup : Lookup) (user : User) :
    List String → KeyMap Json → Except Fault (KeyMap Json)
  | [], done => .ok done
  | client :: rest, done =>
    match findStaticSector? lookup client with
    | none => collect lookup user rest done
    | some config => do
      let derivation ← SaltedDerivation.ofConfig config
      match ← derivation.pseudonymFor user with
      | some p => collect lookup user rest (done.put client (.str p.text))
      | none => collect lookup user rest done

def pseudonyms (list : PseudonymList) (lookup : Lookup) (user : User) :
    Except Fault (KeyMap Json) :=
  collect lookup user list.clients KeyMap.empty

-- A list needs a client to belong to, a claim, and usable mappers of all its clients.
def check (owner : Owner) (lookup : Lookup) (config : MapperConfig) : Except Fault Unit :=
  let list := ofConfig config
  if owner = .realm then .error .notOnClient
  else if list.claimName = "" then .error .targetClaimNotSet
  else
    match list.clients.find? fun client => (findStaticSector? lookup client).isNone with
    | some client => .error (.clientDoesNotExist client)
    | none => .ok ()

variable {C : Type} [ClaimSet C]

def apply (list : PseudonymList) (lookup : Lookup) (user : User) (claims : C) :
    Except Fault C := do
  if list.claimName = "" then return claims
  else
    let entries ← list.pseudonyms lookup user
    if entries.isEmpty then return claims
    else
      return ClaimSet.setOther claims (Claims.merge (ClaimSet.other claims) list.claimName entries)

end PseudonymList

end PairwiseId
