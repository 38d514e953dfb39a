import PairwiseId.Console.Derivation
import PairwiseId.Console.Preferences

/- The command line. Options may stand at their command or, if all commands know
   them, at any command on the way to it; there the innermost one counts. An option
   takes its value from behind an equals sign, from the rest of a group of short
   options or from the next argument. In the last case the value is read when the
   next option or word comes, so a command that ends in such an option is entered
   before the value is looked at. -/
namespace PairwiseId.Console

set_option autoImplicit false

inductive Level where
  | root
  | algorithms
  | salt
  | generate
  | validate
  | config
  | display
  | assign
  | reset
  | path
deriving DecidableEq

inductive Flag where
  | config
  | output
  | verbose
  | help
  | version
  | length
  | convention
  | algorithm
  | salt
  | sector
  | localId
deriving DecidableEq

namespace Flag

def long : Flag → String
  | config => "config"
  | output => "output"
  | verbose => "verbose"
  | help => "help"
  | version => "version"
  | length => "length"
  | convention => "convention"
  | algorithm => "algorithm"
  | salt => "salt"
  | sector => "sector"
  | localId => "local-id"

def short? : Flag → Option Char
  | config => some 'c'
  | output => some 'o'
  | verbose => some 'v'
  | help => some 'h'
  | version => some 'V'
  | length => some 'l'
  | algorithm => some 'a'
  | convention | salt | sector | localId => none

def takesValue : Flag → Bool
  | verbose | help | version => false
  | _ => true

end Flag

namespace Level

def name : Level → String
  | root => "kc-pairwise"
  | algorithms => "algorithms"
  | salt => "salt"
  | generate => "generate"
  | validate => "validate"
  | config => "config"
  | display => "show"
  | assign => "set"
  | reset => "reset"
  | path => "path"

-- The commands below a command. One that has any is not complete without.
def commands : Level → List Level
  | root => [algorithms, salt, generate, validate, config]
  | config => [display, assign, reset, path]
  | _ => []

def command? (level : Level) (name : String) : Option Level :=
  level.commands.find? fun c => c.name == name

def wordCount : Level → Nat
  | validate => 1
  | assign => 2
  | _ => 0

def flags (level : Level) : List Flag :=
  [.config, .output, .verbose, .help, .version] ++
    match level with
    | salt => [.length]
    | generate => [.convention, .algorithm, .salt, .sector, .localId]
    | _ => []

def longFlag? (level : Level) (name : String) : Option Flag :=
  level.flags.find? fun f => f.long == name

def shortFlag? (level : Level) (c : Char) : Option Flag :=
  level.flags.find? fun f => f.short? == some c

def program (level : Level) : String :=
  match level with
  | root => root.name
  | display | assign | reset | path => root.name ++ "-" ++ config.name ++ "-" ++ level.name
  | _ => root.name ++ "-" ++ level.name

end Level

inductive Stop where
  | usage
  | help
  | version (program : String)
deriving DecidableEq

structure Options where
  config : Option String := none
  output : Option Format := none
  verbose : Bool := false
  length : Option Nat := none
  convention : Option Convention := none
  algorithm : Option String := none
  salt : Option String := none
  sector : Option String := none
  localId : Option String := none
deriving DecidableEq

-- The path of a file is never empty.
def path? (text : String) : Option String := if text = "" then none else some text

namespace Options

-- Gives an option its value. No option is given twice.
def once {α : Type} (old new : Option α) : Option (Option α) :=
  match old, new with
  | none, some value => some (some value)
  | _, _ => none

def add? (o : Options) (flag : Flag) (value : String) : Option Options := do
  match flag with
  | .config => return { o with config := ← once o.config (path? value) }
  | .output => return { o with output := ← once o.output (Format.ofName? value) }
  | .verbose => if o.verbose then none else return { o with verbose := true }
  | .help | .version => return o
  | .length => return { o with length := ← once o.length (Text.word? value.toList) }
  | .convention =>
    return { o with convention := ← once o.convention (Convention.ofName? value) }
  | .algorithm => return { o with algorithm := ← once o.algorithm (some value) }
  | .salt => return { o with salt := ← once o.salt (some value) }
  | .sector => return { o with sector := ← once o.sector (some value) }
  | .localId => return { o with localId := ← once o.localId (some value) }

end Options

structure Frame where
  level : Level
  options : Options := {}
  -- An option that is not yet counted among `options`, with its value if it has come.
  pending : Option (Flag × Option String) := none
  words : List String := []
  -- Set by two hyphens: whatever follows is a word.
  wordsOnly : Bool := false
deriving DecidableEq

namespace Frame

def add (f : Frame) (flag : Flag) (value : String) : Except Stop Frame :=
  match f.options.add? flag value with
  | some options => .ok { f with options, pending := none }
  | none => .error .usage

def settle (f : Frame) : Except Stop Frame :=
  match f.pending with
  | none => .ok f
  | some (_, none) => .error .usage
  | some (flag, some value) => f.add flag value

-- An option whose value does not come from the next argument.
def give (f : Frame) (flag : Flag) (value : String) : Except Stop Frame := do
  let f ← f.settle
  match flag with
  | .help => .error .help
  | .version => .error (.version f.level.program)
  | _ => f.add flag value

def await (f : Frame) (flag : Flag) : Except Stop Frame := do
  return { (← f.settle) with pending := some (flag, none) }

def isAwaiting (f : Frame) : Bool :=
  match f.pending with
  | some (_, none) => true
  | _ => false

def word (f : Frame) (text : String) : Except Stop Frame := do
  let f ← f.settle
  if f.words.length < f.level.wordCount ∧ (f.level ≠ .validate ∨ text ≠ "") then
    return { f with words := f.words ++ [text] }
  else .error .usage

def nameAndValue (cs : List Char) : String × Option String :=
  let name := cs.takeWhile (· != '=')
  match cs.dropWhile (· != '=') with
  | [] => (String.ofList name, none)
  | _ :: value => (String.ofList name, some (String.ofList value))

def longOption (f : Frame) (cs : List Char) : Except Stop Frame :=
  let (name, value) := nameAndValue cs
  match f.level.longFlag? name, value with
  | none, _ => .error .usage
  | some flag, none => if flag.takesValue then f.await flag else f.give flag ""
  | some flag, some value => if flag.takesValue then f.give flag value else .error .usage

def shortOptions (f : Frame) : List Char → Except Stop Frame
  | [] => .ok f
  | c :: rest =>
    match f.level.shortFlag? c with
    | none => .error .usage
    | some flag =>
      if flag.takesValue then
        match rest with
        | [] => f.await flag
        | '=' :: value => f.give flag (String.ofList value)
        | value => f.give flag (String.ofList value)
      else
        match f.give flag "" with
        | .ok after => shortOptions after rest
        | .error stop => .error stop

def take (f : Frame) (arg : String) : Except Stop Frame :=
  if f.wordsOnly then f.word arg
  else
    match arg.toList with
    | ['-', '-'] => .ok { f with wordsOnly := true }
    | '-' :: '-' :: cs => f.longOption cs
    | '-' :: c :: cs => f.shortOptions (c :: cs)
    | _ =>
      match f.pending with
      | some (flag, none) => .ok { f with pending := some (flag, some arg) }
      | _ => f.word arg

def acceptsCommand (f : Frame) : Bool := !f.wordsOnly && !f.isAwaiting

-- What is left must be a complete command.
def close (f : Frame) (isInnermost : Bool) : Except Stop Frame := do
  let f ← f.settle
  if isInnermost ∧ (f.level.commands ≠ [] ∨ f.words.length ≠ f.level.wordCount) then
    .error .usage
  else return f

end Frame

def helpWord : String := "help"

-- Help exists for the commands and, where there are any, for itself.
def explain (level : Level) : List String → Stop
  | [] => .help
  | name :: rest =>
    match level.command? name with
    | some inner => explain inner rest
    | none => if name = helpWord ∧ level.commands ≠ [] ∧ rest = [] then .help else .usage

-- Reads the arguments of a command below the commands `outer`, innermost first.
def readArguments (outer : List Frame) (f : Frame) : List String → Except Stop (List Frame)
  | [] => .ok (f :: outer)
  | arg :: rest =>
    match if f.acceptsCommand then f.level.command? arg else none with
    | some level => readArguments (f :: outer) { level } rest
    | none =>
      if f.acceptsCommand ∧ f.level.commands ≠ [] ∧ arg = helpWord then
        .error (explain f.level rest)
      else
        match f.take arg with
        | .ok after => readArguments outer after rest
        | .error stop => .error stop

inductive Command where
  | algorithms
  | salt (length : Option Nat)
  | generate (derivation : Derivation)
  | validate (file : String)
  | showPreferences
  | setPreference (key value : String)
  | resetPreferences
  | preferencesPath
deriving DecidableEq

structure Invocation where
  config : Option String
  output : Option Format
  verbose : Bool
  command : Command
deriving DecidableEq

structure Environment where
  home : Option String := none
  config : Option String := none
  salt : Option String := none
  logFilter : Option String := none

def commandOf? (env : Environment) (f : Frame) : Option Command :=
  match f.level, f.words with
  | .algorithms, _ => some .algorithms
  | .salt, _ => some (.salt f.options.length)
  | .generate, _ => do
    let sector ← f.options.sector
    let localId ← f.options.localId
    return .generate
      { convention := f.options.convention.getD .salted
        algorithm := f.options.algorithm
        salt := f.options.salt <|> env.salt
        sector
        localId }
  | .validate, [file] => some (.validate file)
  | .display, _ => some .showPreferences
  | .assign, [key, value] => some (.setPreference key value)
  | .reset, _ => some .resetPreferences
  | .path, _ => some .preferencesPath
  | _, _ => none

def closeAll : List Frame → Except Stop (List Frame)
  | [] => .ok []
  | f :: outer => do
    let f ← f.close true
    let outer ← outer.mapM fun frame => frame.close false
    return f :: outer

-- The environment stands in where a command has no option. There it may not be empty.
def configPath (env : Environment) (frames : List Frame) : Except Stop (Option String) :=
  if env.config = some "" ∧ frames.any (fun f => f.options.config.isNone) then .error .usage
  else .ok ((frames.findSome? fun f => f.options.config) <|> env.config)

def Invocation.ofArguments (env : Environment) (args : List String) : Except Stop Invocation := do
  let frames ← closeAll (← readArguments [] { level := .root } args)
  let config ← configPath env frames
  match frames.head?.bind (commandOf? env) with
  | none => .error .usage
  | some command =>
    return {
      config
      output := frames.findSome? fun f => f.options.output
      verbose := frames.any fun f => f.options.verbose
      command }

end PairwiseId.Console
