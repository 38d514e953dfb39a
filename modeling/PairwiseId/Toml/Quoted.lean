import PairwiseId.Text.Bytes

/- How a text is written in a TOML document: between the plainest quotes that can
   hold it. Texts with line breaks and texts with quotes of both kinds are written
   between tripled quotes. Literal quotes know no escapes, so a text that needs one
   is written between double quotes. -/
namespace PairwiseId.Toml

set_option autoImplicit false

inductive Style where
  | basic
  | literal
  | basicLines
  | literalLines
deriving DecidableEq

-- Characters that are written as escapes wherever they stand.
def needsEscape (c : Char) : Bool := (c < ' ' && c != '\t' && c != '\n') || c == '\x7f'

-- The length of the longest run of a character; `current` is the one before the text.
def longestRun (quote : Char) (current : Nat) : List Char → Nat
  | [] => current
  | c :: rest =>
    if c = quote then longestRun quote (current + 1) rest
    else max current (longestRun quote 0 rest)

def styleOf (cs : List Char) : Style :=
  let escapes := cs.any needsEscape
  let breaks := cs.contains '\n'
  let doubles := longestRun '"' 0 cs
  let singles := longestRun '\'' 0 cs
  let plain := !escapes && !cs.contains '\\'
  if plain ∧ ¬ breaks ∧ doubles = 0 then .basic
  else if ¬ escapes ∧ ¬ breaks ∧ singles = 0 then .literal
  else if plain ∧ doubles ≤ 2 then .basicLines
  else if ¬ escapes ∧ singles ≤ 2 then .literalLines
  else if breaks then .basicLines
  else .basic

def upperHexDigit (n : Nat) : Char := (Text.hexDigit n).toUpper

def escaped (c : Char) : List Char :=
  if c = '\x08' then ['\\', 'b']
  else if c = '\t' then ['\\', 't']
  else if c = '\x0c' then ['\\', 'f']
  else if c = '\x0d' then ['\\', 'r']
  else if c = '\\' then ['\\', '\\']
  else if needsEscape c then
    ['\\', 'u', '0', '0', upperHexDigit (c.toNat / 16), upperHexDigit (c.toNat % 16)]
  else [c]

def basicChar (c : Char) : List Char :=
  if c = '"' then ['\\', '"'] else if c = '\n' then ['\\', 'n'] else escaped c

-- Between tripled quotes two quotes in a row stand for themselves, and a third is escaped.
def basicLinesChars (run : Nat) : List Char → List Char
  | [] => []
  | c :: rest =>
    if c = '"' then
      if run < 2 then '"' :: basicLinesChars (run + 1) rest
      else '\\' :: '"' :: basicLinesChars 0 rest
    else if c = '\n' then '\n' :: basicLinesChars 0 rest
    else escaped c ++ basicLinesChars 0 rest

-- A text that has line breaks begins on a line of its own.
def leadingBreak (cs : List Char) : List Char := if cs.contains '\n' then ['\n'] else []

def quotedChars (cs : List Char) : List Char :=
  match styleOf cs with
  | .basic => '"' :: cs.flatMap basicChar ++ ['"']
  | .literal => '\'' :: cs ++ ['\'']
  | .basicLines =>
    ['"', '"', '"'] ++ leadingBreak cs ++ basicLinesChars 0 cs ++ ['"', '"', '"']
  | .literalLines => ['\'', '\'', '\''] ++ leadingBreak cs ++ cs ++ ['\'', '\'', '\'']

def quoted (s : String) : String := String.ofList (quotedChars s.toList)

end PairwiseId.Toml
