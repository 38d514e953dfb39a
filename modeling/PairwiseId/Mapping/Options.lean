import PairwiseId.Mapper.Config
import PairwiseId.Pseudonym
import PairwiseId.Salt
import PairwiseId.Parties

/- The options of the pairwise mappers and how they are read. -/
namespace PairwiseId

set_option autoImplicit false

namespace OptionKey

def algorithm : String := "pairwise.algorithm"

def salt : String := "pairwise.salt"

def sector : String := "pairwise.sectorIdentifier"

def localIdAttribute : String := "user.attribute"

def claimName : String := "claim.name"

def emailDomain : String := "pairwise.email.domain"

def clients : String := "pairwise.clients"

end OptionKey

inductive Variant where
  | staticSector
  | simpleSector
  | email
  | namedClaim
deriving DecidableEq

namespace Variant

def all : List Variant := [staticSector, simpleSector, email, namedClaim]

def mapperType : Variant → String
  | staticSector => "oidc-hmac-pairwise-subject-mapper"
  | simpleSector => "oidc-hmac-simple-pairwise-subject-mapper"
  | email => "oidc-hmac-pairwise-email-mapper"
  | namedClaim => "oidc-hmac-pairwise-claim-mapper"

def convention : Variant → Convention
  | staticSector | email => .salted
  | simpleSector | namedClaim => .sectorKeyed

def isSalted (v : Variant) : Bool := v.convention == .salted

def sectorMode (v : Variant) : SectorMode := v.convention.sectorMode

end Variant

inductive LocalSource where
  | userId
  | userAttribute (name : String)
deriving DecidableEq

namespace LocalSource

def userIdMarker : String := "id"

def ofConfig (config : MapperConfig) : LocalSource :=
  match config.getNonBlank? OptionKey.localIdAttribute with
  | none => userId
  | some name => if name = userIdMarker then userId else userAttribute name

-- An attribute whose first value is empty counts as absent.
def resolve (user : User) : LocalSource → Option String
  | userId => some user.id.toText
  | userAttribute name =>
    match user.attribute? name with
    | some value => if value = "" then none else some value
    | none => none

end LocalSource

namespace MapperConfig

-- The salt exactly as it is stored, unless it is blank.
def salt? (c : MapperConfig) : Option String :=
  (c.get? OptionKey.salt).bind fun s => if Text.isBlank s then none else some s

-- A stored name that is not in the catalog cannot be evaluated any more.
def storedAlgorithm (c : MapperConfig) : Except Fault Algorithm :=
  match c.getNonBlank? OptionKey.algorithm with
  | none => .ok .standard
  | some name =>
    match Algorithm.ofName? name with
    | some a => .ok a
    | none => .error (.unresolvableAlgorithm name)

-- A submitted name has to be in the catalog.
def submittedAlgorithm (c : MapperConfig) (fallback : Algorithm) : Except Fault Algorithm :=
  match c.getNonBlank? OptionKey.algorithm with
  | none => .ok fallback
  | some name =>
    match Algorithm.ofName? name with
    | some a => .ok a
    | none => .error (.unknownAlgorithm name)

def sector (c : MapperConfig) (mode : SectorMode) : Except Fault Sector :=
  Sector.resolve (c.get? OptionKey.sector) mode

-- The configured domain without leading at signs; this may leave nothing.
def emailDomain? (c : MapperConfig) : Option String :=
  (c.getNonBlank? OptionKey.emailDomain).map fun d =>
    String.ofList (d.toList.dropWhile (· == '@'))

end MapperConfig

end PairwiseId
