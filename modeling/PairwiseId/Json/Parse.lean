import PairwiseId.Json.Basic
import PairwiseId.Text.Bytes
import PairwiseId.Text.Basic

/- Reads JSON texts. Nothing but white space may follow the document. The fuel of
   the recursion is the length of the text, which each nested value shortens.

   Every value is read in full before a record looks at its keys. A reader that skips
   the values of keys it does not know accepts more there, an escape of a lone
   surrogate for one, which no text can hold and which is refused here everywhere.
   Where a reader has limits this one has none: a number beyond the range of floating
   point, such as `1e400`, keeps its text, and values are nested to any depth. -/
namespace PairwiseId.Json

set_option autoImplicit false

def skipSpace : List Char → List Char
  | c :: rest =>
    if c = ' ' ∨ c = '\t' ∨ c = '\n' ∨ c = '\x0d' then skipSpace rest else c :: rest
  | [] => []

def unit? : List Char → Option (Nat × List Char)
  | a :: b :: c :: d :: rest => do
    let high := 16 * (← Text.hexValue? a) + (← Text.hexValue? b)
    let low := 16 * (← Text.hexValue? c) + (← Text.hexValue? d)
    return (256 * high + low, rest)
  | _ => none

-- The character after `\u`: one unit, or two that form a surrogate pair.
def unicodeEscape? (cs : List Char) : Option (Char × List Char) := do
  let (first, rest) ← unit? cs
  if 0xD800 ≤ first ∧ first < 0xDC00 then
    match rest with
    | '\\' :: 'u' :: more =>
      let (second, rest) ← unit? more
      if 0xDC00 ≤ second ∧ second < 0xE000 then
        return (Char.ofNat (0x10000 + (first - 0xD800) * 0x400 + (second - 0xDC00)), rest)
      else none
    | _ => none
  else if 0xDC00 ≤ first ∧ first < 0xE000 then none
  else return (Char.ofNat first, rest)

def simpleEscape? : Char → Option Char
  | '"' => some '"'
  | '\\' => some '\\'
  | '/' => some '/'
  | 'b' => some '\x08'
  | 'f' => some '\x0c'
  | 'n' => some '\n'
  | 'r' => some '\x0d'
  | 't' => some '\t'
  | _ => none

-- The text up to the closing quote; `done` is what was read, reversed.
def string? : Nat → List Char → List Char → Option (String × List Char)
  | 0, _, _ => none
  | fuel + 1, done, cs =>
    match cs with
    | '"' :: rest => some (String.ofList done.reverse, rest)
    | '\\' :: 'u' :: rest => do
      let (c, rest) ← unicodeEscape? rest
      string? fuel (c :: done) rest
    | '\\' :: e :: rest => do
      let c ← simpleEscape? e
      string? fuel (c :: done) rest
    | c :: rest => if c < ' ' then none else string? fuel (c :: done) rest
    | [] => none

-- A minus sign, digits without a leading zero, a fraction and an exponent.
def number? (cs : List Char) : Option (Json × List Char) := do
  let (negative, cs) := match cs with
    | '-' :: rest => (true, rest)
    | _ => (false, cs)
  let whole := cs.takeWhile Char.isDigit
  let afterWhole := cs.dropWhile Char.isDigit
  if whole = [] ∨ (whole.head? = some '0' ∧ whole.length ≠ 1) then none
  let (fraction, rest) ← match afterWhole with
    | '.' :: more =>
      let ds := more.takeWhile Char.isDigit
      if ds = [] then none else some ('.' :: ds, more.dropWhile Char.isDigit)
    | _ => some ([], afterWhole)
  let (exponent, rest) ← match rest with
    | e :: more =>
      if e = 'e' ∨ e = 'E' then
        let (sign, more) := match more with
          | '+' :: r => (['+'], r)
          | '-' :: r => (['-'], r)
          | _ => ([], more)
        let ds := more.takeWhile Char.isDigit
        if ds = [] then none else some (e :: sign ++ ds, more.dropWhile Char.isDigit)
      else some ([], rest)
    | [] => some ([], [])
  let magnitude := Text.natOfDigits whole
  let text := String.ofList ((if negative then ['-'] else []) ++ whole ++ fraction ++ exponent)
  if fraction = [] ∧ exponent = [] then
    if negative then
      if 0 < magnitude ∧ magnitude ≤ Text.signBound then return (int (-(magnitude : Int)), rest)
      else return (decimal text, rest)
    else if magnitude < Text.wordCount then return (int magnitude, rest)
    else return (decimal text, rest)
  else return (decimal text, rest)

def literal? (word : String) (value : Json) (cs : List Char) : Option (Json × List Char) :=
  if word.toList.isPrefixOf cs then some (value, cs.drop word.length) else none

mutual
def value? : Nat → List Char → Option (Json × List Char)
  | 0, _ => none
  | fuel + 1, cs =>
    match skipSpace cs with
    | '\x7b' :: rest =>
      match skipSpace rest with
      | '\x7d' :: rest => some (obj [], rest)
      | rest => fields? fuel [] rest
    | '[' :: rest =>
      match skipSpace rest with
      | ']' :: rest => some (arr [], rest)
      | rest => items? fuel [] rest
    | '"' :: rest => do
      let (s, rest) ← string? (rest.length + 1) [] rest
      return (str s, rest)
    | 't' :: rest => literal? "true" (bool true) ('t' :: rest)
    | 'f' :: rest => literal? "false" (bool false) ('f' :: rest)
    | 'n' :: rest => literal? "null" null ('n' :: rest)
    | rest => number? rest

def items? : Nat → List Json → List Char → Option (Json × List Char)
  | 0, _, _ => none
  | fuel + 1, done, cs => do
    let (item, rest) ← value? fuel cs
    match skipSpace rest with
    | ',' :: rest => items? fuel (item :: done) rest
    | ']' :: rest => some (arr (item :: done).reverse, rest)
    | _ => none

def fields? : Nat → List (String × Json) → List Char → Option (Json × List Char)
  | 0, _, _ => none
  | fuel + 1, done, cs =>
    match skipSpace cs with
    | '"' :: rest => do
      let (key, rest) ← string? (rest.length + 1) [] rest
      match skipSpace rest with
      | ':' :: rest =>
        let (value, rest) ← value? fuel rest
        match skipSpace rest with
        | ',' :: rest => fields? fuel ((key, value) :: done) rest
        | '\x7d' :: rest => some (obj ((key, value) :: done).reverse, rest)
        | _ => none
      | _ => none
    | _ => none
end

def parse? (text : String) : Option Json := do
  let cs := text.toList
  let (value, rest) ← value? (cs.length + 1) cs
  if skipSpace rest = [] then some value else none

end PairwiseId.Json
