import PairwiseId.Console.Arguments
import PairwiseId.Console.Basic
import PairwiseId.Console.Layout
import PairwiseId.Export
import PairwiseId.Json.Parse

/- Runs the commands of the console. A command reads the configuration first, and
   ends with its output or a failure. -/
namespace PairwiseId.Console

set_option autoImplicit false

structure Ending where
  output : String := ""
  warnings : List String := []
  failure : Option Failure := none
deriving DecidableEq

namespace Ending

def ofFailure (failure : Failure) : Ending := { failure := some failure }

def exitCode (e : Ending) : Nat := if e.failure.isSome then 1 else 0

def complaints (e : Ending) : List String :=
  e.warnings.map ("⚠ " ++ ·) ++ (e.failure.map fun f => "✗ " ++ f.message).toList

end Ending

def Stop.exitCode : Stop → Nat
  | .usage => 2
  | .help | .version _ => 0

def Stop.output : Stop → String
  | .usage | .help => ""
  | .version program => program ++ " 0.1.0\n"

def info (text : String) : String := "ℹ " ++ text ++ "\n"

def success (text : String) : String := "✓ " ++ text ++ "\n"

-- A single document. There is nothing of it that quiet output would show.
def shown (format : Format) (document : Json) : String :=
  match format with
  | .table => outline 0 document.canonical
  | .json => document.pretty ++ "\n"
  | .quiet => ""

def tableText (header : List String) (rows : List (List String)) : String :=
  if rows.isEmpty then info "No results found." else Table.text ⟨header, rows⟩

def linesText (lines : List String) : String := String.join (lines.map fun line => line ++ "\n")

def unreadableFile (path : String) : Failure := .file ("cannot read " ++ path)

def unwritableFile (path : String) : Failure := .file ("cannot write " ++ path)

def noHome : Failure := .configuration "could not determine home directory"

def inFolder (folder name : String) : String :=
  if folder = "" ∨ folder.endsWith "/" then folder ++ name else folder ++ "/" ++ name

def preferencesPath (env : Environment) (config : Option String) : Except Failure String :=
  match config, env.home with
  | some path, _ => .ok path
  | none, some home => .ok (inFolder (inFolder home ".keycloak") "kc-pairwise.toml")
  | none, none => .error noHome

def preferencesOf (filters : LogFilter.Language) (path : String) : FileState → Except Failure Preferences
  | .missing => Preferences.ofFile filters none
  | .unreadable => .error (unreadableFile path)
  | .text content => Preferences.ofFile filters (some content)

def logVariable : String := "RUST_LOG"

-- Verbose output has a filter of its own.
def checkLogFilter (filters : LogFilter.Language) (env : Environment) (verbose : Bool) : Except Failure Unit :=
  match env.logFilter with
  | none => .ok ()
  | some filter =>
    if verbose ∨ filters.accepts filter then .ok ()
    else .error (.configuration ("invalid " ++ logVariable ++ " '" ++ filter ++ "'"))

def algorithmRow (chosen a : Algorithm) : List String :=
  [a.name, toString (8 * a.outputBytes), Preferences.boolText a.isLegacy,
    Preferences.boolText (a == chosen)]

def algorithmJson (chosen a : Algorithm) : Json :=
  .obj [("name", .str a.name), ("digest_bits", .int (8 * a.outputBytes)),
    ("legacy", .bool a.isLegacy), ("default", .bool (a == chosen))]

def showAlgorithms (format : Format) (chosen : Algorithm) : String :=
  match format with
  | .table =>
    tableText ["Algorithm", "Digest bits", "Legacy", "Default"]
      (Algorithm.all.map (algorithmRow chosen))
  | .json => shown .json (.arr (Algorithm.all.map (algorithmJson chosen)))
  | .quiet => linesText (Algorithm.all.map Algorithm.name)

def showSalt (format : Format) (salt : String) (length : Nat) : String :=
  match format with
  | .quiet => salt ++ "\n"
  | _ => shown format (.obj [("salt", .str salt), ("bytes", .int length)])

def shortSalt : Failure :=
  .invalidArgument ("salt length must be at least " ++ toString Settings.minSaltBytes ++ " bytes")

def showDerivation (format : Format) (d : Derivation) (algorithm : Algorithm)
    (pseudonym : Pseudonym) : String :=
  match format with
  | .quiet => pseudonym.text ++ "\n"
  | _ =>
    shown format
      (.obj [("pseudonym", .str pseudonym.text), ("algorithm", .str algorithm.name),
        ("convention", .str d.convention.name), ("sector", .str d.sector)])

def derive (d : Derivation) (format : Format) (fallback : Algorithm) : Ending :=
  match d.compute fallback with
  | .ok (algorithm, pseudonym) => { output := showDerivation format d algorithm pseudonym }
  | .error fault => .ofFailure (.pairwise fault)

def reportRow (row : Row) : List String :=
  [row.owner.display, row.config.name, row.config.mapperType, row.result, row.detail]

def quietRow (row : Row) : String :=
  row.owner.display ++ "\t" ++ row.config.name ++ "\t" ++ row.result

-- Tables have their salts masked; the document has them, so that it can be imported.
def showReport (format : Format) (report : Report) : String :=
  match format with
  | .table =>
    tableText ["Owner", "Mapper", "Type", "Result", "Detail"] (report.rows.map reportRow) ++
      "\n" ++ shown .table report.normalized.masked.toJson
  | .json => shown .json report.normalized.toJson
  | .quiet => linesText (report.rows.map quietRow)

def endingOfReport (format : Format) (report : Report) : Ending :=
  let output := showReport format report
  let total := toString report.rows.length
  if report.failures = 0 then
    let note := if format = .table then success (total ++ " mapper(s) valid") else ""
    { output := output ++ note }
  else
    { output
      warnings := [toString report.failures ++ " of " ++ total ++ " mapper(s) rejected"]
      failure := some (.rejected report.failures) }

def exportOfText (path : String) : FileState → Except Failure Export
  | .text content =>
    match (Json.parse? content).bind Export.ofJson? with
    | some e => .ok e
    | none => .error (.document "not an export")
  | _ => .error (unreadableFile path)

def showPreferences (format : Format) (path : String) (p : Preferences) : Except Failure String :=
  match format with
  | .quiet => p.toText
  | .table => .ok (info ("Configuration file: " ++ path) ++ "\n" ++ shown .table p.toJson)
  | .json => .ok (shown .json p.toJson)

section Commands

variable {m : Type → Type} [Monad m] (filters : LogFilter.Language)

def freshSalt (machine : Machine m) (length : Nat) : m Salt := do
  return saltOfBytes (← machine.random (Settings.saltBytes length))

-- Salts for the saves with the numbers 0 to `last`, each of them another one.
def freshSalts (machine : Machine m) (length : Nat) : Nat → m (Nat → Salt)
  | 0 => do
    let salt ← freshSalt machine length
    return fun _ => salt
  | last + 1 => do
    let salt ← freshSalt machine length
    let later ← freshSalts machine length last
    return fun
      | 0 => salt
      | n + 1 => later n

def makeSalt (machine : Machine m) (format : Format) (length : Nat) : m Ending := do
  if length < Settings.minSaltBytes then return .ofFailure shortSalt
  else return { output := showSalt format (← freshSalt machine length).text length }

def validate (machine : Machine m) (format : Format) (settings : Settings) (path : String) :
    m Ending := do
  match exportOfText path (← machine.read path) with
  | .error failure => return .ofFailure failure
  | .ok e =>
    let fresh ← freshSalts machine settings.saltLength e.owned.length
    return endingOfReport format (Report.ofExport settings fresh e)

-- Writes the configuration file. Its folders are made even if the rest fails.
def save (machine : Machine m) (path : String) (p : Preferences) : m (Except Failure Unit) := do
  if ← machine.makeFolders path then
    match p.toText with
    | .error failure => return .error failure
    | .ok content =>
      if ← machine.write path content then return .ok ()
      else return .error (unwritableFile path)
  else return .error (unwritableFile path)

def saveWith (machine : Machine m) (path : String) (p : Preferences) (note : String) :
    m Ending := do
  match ← save machine path p with
  | .ok () => return { output := success note }
  | .error failure => return .ofFailure failure

def setPreference (machine : Machine m) (path : String) (p : Preferences) (key value : String) :
    m Ending :=
  match p.set filters key value with
  | (_, some failure) => return .ofFailure failure
  | (after, none) => saveWith machine path after ("Set " ++ key ++ " = " ++ value)

def perform (machine : Machine m) (path : String) (p : Preferences) (format : Format)
    (command : Command) : m Ending :=
  let settings := p.shared.pairwise
  match command with
  | .algorithms => return { output := showAlgorithms format settings.defaultAlgorithm }
  | .salt length => makeSalt machine format (length.getD settings.saltLength)
  | .generate d => return derive d format settings.defaultAlgorithm
  | .validate file => validate machine format settings file
  | .showPreferences =>
    match showPreferences format path p with
    | .ok output => return { output }
    | .error failure => return .ofFailure failure
  | .setPreference key value => setPreference filters machine path p key value
  | .resetPreferences => saveWith machine path {} "Configuration reset to defaults"
  | .preferencesPath => return { output := path ++ "\n" }

def Invocation.run (machine : Machine m) (env : Environment) (i : Invocation) : m Ending := do
  match preferencesPath env i.config with
  | .error failure => return .ofFailure failure
  | .ok path =>
    match preferencesOf filters path (← machine.read path) with
    | .error failure => return .ofFailure failure
    | .ok p =>
      match checkLogFilter filters env i.verbose with
      | .error failure => return .ofFailure failure
      | .ok () => perform filters machine path p (i.output.getD p.format) i.command

end Commands

end PairwiseId.Console
