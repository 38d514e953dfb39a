import PairwiseId.Console.Basic
import PairwiseId.Toml.Quoted

/- The configuration file of the console: the shared configuration and the format of
   the output. Single values are set by their dotted keys. A value that is rejected
   only by the check of the whole stays set. -/
namespace PairwiseId.Console

set_option autoImplicit false

inductive Format where
  | table
  | json
  | quiet
deriving DecidableEq

namespace Format

def all : List Format := [table, json, quiet]

def name : Format → String
  | table => "table"
  | json => "json"
  | quiet => "quiet"

def ofName? (name : String) : Option Format := all.find? fun f => f.name == name

-- A typed name may differ in case. No letter outside ASCII has one of theirs as lower case.
def ofTypedName? (name : String) : Option Format :=
  all.find? fun f => Text.sameIgnoringAsciiCase f.name name

end Format

structure Preferences where
  format : Format := .table
  shared : Configuration := {}
deriving DecidableEq

namespace Preferences

def formatOfToml? (t : Toml) : Option Format := do Format.ofName? (← t.asChoice?)

-- The shared part is read and checked before the format.
def ofText (filters : LogFilter.Language) (text : String) : Except Failure Preferences := do
  let shared ← (Configuration.ofText filters text).mapError .settings
  let fields := (Toml.parse? text).getD []
  match Toml.withDefault "output_format" formatOfToml? Format.table fields with
  | some format => return ⟨format, shared⟩
  | none => .error (.configuration "failed to parse config")

-- A file that is missing holds the defaults.
def ofFile (filters : LogFilter.Language) : Option String → Except Failure Preferences
  | none => .ok {}
  | some text => ofText filters text

def toJson (p : Preferences) : Json :=
  .obj (("output_format", .str p.format.name) :: p.shared.fields)

def boolText (b : Bool) : String := if b then "true" else "false"

def lines (p : Preferences) : List String :=
  ["output_format = " ++ Toml.quoted p.format.name,
    "",
    "[pairwise]",
    "default_algorithm = " ++ Toml.quoted p.shared.pairwise.defaultAlgorithm.name,
    "salt_length = " ++ toString p.shared.pairwise.saltLength,
    "",
    "[logging]",
    "level = " ++ Toml.quoted p.shared.logging.level,
    "ansi = " ++ boolText p.shared.logging.ansi]

-- The document of a file. It has no greater numbers than those of 64 bits with sign.
def toText (p : Preferences) : Except Failure String :=
  if p.shared.pairwise.saltLength < Text.signBound then
    .ok (String.join (p.lines.map fun line => line ++ "\n"))
  else .error (.configuration "failed to serialize config")

inductive Setting where
  | format
  | algorithm
  | saltLength
  | level
  | ansi
deriving DecidableEq

namespace Setting

-- Two of the settings have a short key besides the full one.
def ofKey? (key : String) : Option Setting :=
  if key = "output_format" ∨ key = "output" then some format
  else if key = "pairwise.default_algorithm" ∨ key = "algorithm" then some algorithm
  else if key = "pairwise.salt_length" then some saltLength
  else if key = "logging.level" then some level
  else if key = "logging.ansi" then some ansi
  else none

end Setting

def unknownKey (key : String) : Failure :=
  .invalidArgument
    ("unknown configuration key: " ++ key ++ ". Known keys: output_format, " ++
      "pairwise.default_algorithm, pairwise.salt_length, logging.level, logging.ansi")

def withSettings (p : Preferences) (change : Settings → Settings) : Preferences :=
  { p with shared := { p.shared with pairwise := change p.shared.pairwise } }

def withLogging (p : Preferences) (change : Logging → Logging) : Preferences :=
  { p with shared := { p.shared with logging := change p.shared.logging } }

def assign (p : Preferences) (setting : Setting) (value : String) : Except Failure Preferences :=
  match setting with
  | .format =>
    match Format.ofTypedName? value with
    | some format => .ok { p with format }
    | none =>
      .error (.invalidArgument
        ("unknown output format: " ++ value ++ ". Supported: table, json, quiet"))
  | .algorithm =>
    match Algorithm.resolve value with
    | .ok algorithm => .ok (p.withSettings fun s => { s with defaultAlgorithm := algorithm })
    | .error e => .error (.invalidArgument e.message)
  | .saltLength =>
    match Text.word? value.toList with
    | some length => .ok (p.withSettings fun s => { s with saltLength := length })
    | none => .error (.invalidArgument ("salt length must be a number: " ++ value))
  | .level => .ok (p.withLogging fun l => { l with level := value })
  | .ansi =>
    if value = "true" then .ok (p.withLogging fun l => { l with ansi := true })
    else if value = "false" then .ok (p.withLogging fun l => { l with ansi := false })
    else .error (.invalidArgument ("logging.ansi must be true or false: " ++ value))

def set (filters : LogFilter.Language) (p : Preferences) (key value : String) : Preferences × Option Failure :=
  match Setting.ofKey? key with
  | none => (p, some (unknownKey key))
  | some setting =>
    match p.assign setting value with
    | .error failure => (p, some failure)
    | .ok after =>
      match after.shared.check filters with
      | .ok () => (after, none)
      | .error error => (after, some (.settings error))

end Preferences

end PairwiseId.Console
