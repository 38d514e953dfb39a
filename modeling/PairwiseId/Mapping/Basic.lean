import PairwiseId.Claims.Basic
import PairwiseId.Claims.Path
import PairwiseId.Mapping.Options
import PairwiseId.Settings

/- A pairwise mapping derives the pseudonym of a user and writes it: in place of
   the subject, in front of an email domain, or into a claim of its own. A user
   without a local identifier has no pseudonym and keeps all claims.

   Before a configuration is stored a salted variant gets a salt if it has none, the
   algorithm gets its catalog name, and the result must be one from which tokens can
   be issued. The fresh salt is handed in. Whoever draws it reads the salt length of
   the settings, and the random bytes that it asks for are taken to be available,
   however many they are. -/
namespace PairwiseId

set_option autoImplicit false

structure SaltedDerivation where
  algorithm : Algorithm
  salt : String
  sector : Sector
  source : LocalSource
deriving DecidableEq

namespace SaltedDerivation

def ofConfig (config : MapperConfig) : Except Fault SaltedDerivation := do
  let salt ←
    match config.salt? with
    | some salt => .ok salt
    | none => .error .missingSalt
  let algorithm ← config.storedAlgorithm
  let sector ← config.sector .staticUri
  return ⟨algorithm, salt, sector, LocalSource.ofConfig config⟩

def pseudonymFor (d : SaltedDerivation) (user : User) : Except Fault (Option Pseudonym) :=
  match d.source.resolve user with
  | none => .ok none
  | some localId => some <$> Pseudonym.generateSalted d.algorithm (some d.salt) d.sector localId

end SaltedDerivation

structure SectorKeyedDerivation where
  algorithm : Algorithm
  sector : Sector
  source : LocalSource
deriving DecidableEq

namespace SectorKeyedDerivation

def ofConfig (config : MapperConfig) : Except Fault SectorKeyedDerivation := do
  let algorithm ← config.storedAlgorithm
  let sector ← config.sector .simple
  return ⟨algorithm, sector, LocalSource.ofConfig config⟩

def pseudonymFor (d : SectorKeyedDerivation) (user : User) : Except Fault (Option Pseudonym) :=
  match d.source.resolve user with
  | none => .ok none
  | some localId => some <$> Pseudonym.generateSectorKeyed d.algorithm d.sector localId

end SectorKeyedDerivation

inductive Mapping where
  | staticSector (derivation : SaltedDerivation)
  | simpleSector (derivation : SectorKeyedDerivation)
  | email (derivation : SaltedDerivation) (domain : Option String)
  | namedClaim (derivation : SectorKeyedDerivation) (claimName : String)
deriving DecidableEq

namespace Mapping

def ofConfig (variant : Variant) (config : MapperConfig) : Except Fault Mapping :=
  match variant with
  | .staticSector => staticSector <$> SaltedDerivation.ofConfig config
  | .simpleSector => simpleSector <$> SectorKeyedDerivation.ofConfig config
  | .email => do return email (← SaltedDerivation.ofConfig config) config.emailDomain?
  | .namedClaim => do
    let derivation ← SectorKeyedDerivation.ofConfig config
    match config.getNonBlank? OptionKey.claimName with
    | some claimName => return namedClaim derivation claimName
    | none => .error .targetClaimNotSet

def pseudonymFor (user : User) : Mapping → Except Fault (Option Pseudonym)
  | staticSector d | email d _ => d.pseudonymFor user
  | simpleSector d | namedClaim d _ => d.pseudonymFor user

-- What follows the last at sign, if anything does.
def domainOf? (address : String) : Option String :=
  let cs := address.toList
  if cs.contains '@' then
    let domain := (cs.reverse.takeWhile (· ≠ '@')).reverse
    if domain = [] then none else some (String.ofList domain)
  else none

variable {C : Type} [ClaimSet C]

-- The configured domain, or the one of the email claim, or the one of the user.
def targetDomain? (configured : Option String) (user : User) (claims : C) : Option String :=
  match configured with
  | some domain => some domain
  | none =>
    match ClaimSet.email claims with
    | some address => domainOf? address
    | none => user.email.bind domainOf?

def write (p : Pseudonym) (user : User) (claims : C) : Mapping → C
  | staticSector _ | simpleSector _ => ClaimSet.setSubject claims p.text
  | email _ configured =>
    match targetDomain? configured user claims with
    | some domain => ClaimSet.setEmail claims (p.text ++ "@" ++ domain)
    | none => claims
  | namedClaim _ claimName =>
    ClaimSet.setOther claims (Claims.set (ClaimSet.other claims) claimName (.str p.text))

def apply (m : Mapping) (user : User) (claims : C) : Except Fault C := do
  match ← m.pseudonymFor user with
  | some p => return m.write p user claims
  | none => return claims

-- A salt that is not blank is never replaced.
def withSalt (variant : Variant) (fresh : Salt) (config : MapperConfig) : MapperConfig :=
  if variant.isSalted ∧ config.salt? = none then config.put OptionKey.salt fresh.text else config

-- The fresh salt has been drawn already, so the salt length of the settings is not read here.
def normalize (variant : Variant) (settings : Settings) (fresh : Salt) (config : MapperConfig) :
    Except Fault MapperConfig := do
  let config := withSalt variant fresh config
  let algorithm ← config.submittedAlgorithm settings.defaultAlgorithm
  let config := config.put OptionKey.algorithm algorithm.name
  let _ ← config.sector variant.sectorMode
  let _ ← ofConfig variant config
  return config

end Mapping

end PairwiseId
