import PairwiseId.LogFilter
import PairwiseId.Settings
import PairwiseId.Toml.Parse

/- The configuration that all programs share: the settings of the pairwise mappers
   and how to log. A document may leave out any part of it. -/
namespace PairwiseId

set_option autoImplicit false

inductive ConfigurationError where
  | malformed (detail : String)
  | outOfRange (detail : String)
  | unreadable (detail : String)
deriving DecidableEq

namespace ConfigurationError

def message : ConfigurationError → String
  | malformed detail => "configuration error: " ++ detail
  | outOfRange detail => "validation error: " ++ detail
  | unreadable detail => "I/O error: " ++ detail

-- Tells a mistake of the operator from a failure of the machine.
def isConfigError : ConfigurationError → Bool
  | malformed _ | outOfRange _ => true
  | unreadable _ => false

def notADocument : ConfigurationError := malformed "failed to parse"

def shortSalt (length : Nat) : ConfigurationError :=
  outOfRange
    ("pairwise.salt_length must be at least " ++ toString Settings.minSaltBytes ++ " bytes, got " ++
      toString length)

def invalidLevel (level : String) : ConfigurationError :=
  malformed ("invalid logging.level '" ++ level ++ "'")

end ConfigurationError

def Settings.check (s : Settings) : Except ConfigurationError Unit :=
  if s.saltLength < Settings.minSaltBytes then .error (.shortSalt s.saltLength) else .ok ()

structure Logging where
  level : String := "info"
  ansi : Bool := true
deriving DecidableEq

def Logging.check (filters : LogFilter.Language) (l : Logging) : Except ConfigurationError Unit :=
  if filters.accepts l.level then .ok () else .error (.invalidLevel l.level)

structure Configuration where
  pairwise : Settings := {}
  logging : Logging := {}
deriving DecidableEq

namespace Configuration

def check (filters : LogFilter.Language) (c : Configuration) : Except ConfigurationError Unit := do
  c.pairwise.check
  c.logging.check filters

def settingsOfToml? (t : Toml) : Option Settings := do
  let fields ← t.asRecord? ["default_algorithm", "salt_length"]
  let algorithm ← Toml.withDefault "default_algorithm"
    (fun t => do Algorithm.ofExactName? (← t.asChoice?)) Algorithm.standard fields
  let length ← Toml.withDefault "salt_length" Toml.asNat? 24 fields
  return ⟨algorithm, length⟩

def loggingOfToml? (t : Toml) : Option Logging := do
  let fields ← t.asRecord? ["level", "ansi"]
  let level ← Toml.withDefault "level" Toml.asText? "info" fields
  let ansi ← Toml.withDefault "ansi" Toml.asBool? true fields
  return ⟨level, ansi⟩

-- Keys that are not known are passed over.
def ofFields? (fields : List (String × Toml)) : Option Configuration := do
  let pairwise ← Toml.withDefault "pairwise" settingsOfToml? {} fields
  let logging ← Toml.withDefault "logging" loggingOfToml? {} fields
  return ⟨pairwise, logging⟩

def ofText (filters : LogFilter.Language) (text : String) : Except ConfigurationError Configuration :=
  match (Toml.parse? text).bind ofFields? with
  | none => .error .notADocument
  | some c => do
    c.check filters
    return c

def fields (c : Configuration) : List (String × Json) :=
  [("pairwise", c.pairwise.toJson),
    ("logging", .obj [("level", .str c.logging.level), ("ansi", .bool c.logging.ansi)])]

def toJson (c : Configuration) : Json := .obj c.fields

end Configuration

end PairwiseId
