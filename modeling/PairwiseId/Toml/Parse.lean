import PairwiseId.Text.Bytes
import PairwiseId.Text.Basic
import PairwiseId.Toml.Tables

/- Reads TOML documents. Every reader takes the characters that are left and gives
   back those after what it has read. The fuel of the recursion is the length of
   the document, which each nested value shortens. -/
namespace PairwiseId.Toml

set_option autoImplicit false

open Text

abbrev Reader (α : Type) := List Char → Option (α × List Char)

def isSpace (c : Char) : Bool := c == ' ' || c == '\t'

def skipSpace (cs : List Char) : List Char := cs.dropWhile isSpace

-- Controls other than the tabulator stand neither in comments nor in texts.
def isControl (c : Char) : Bool := (c < ' ' && c != '\t') || c == '\x7f'

def lineEnd? : Reader Unit
  | [] => some ((), [])
  | '\n' :: rest => some ((), rest)
  | '\x0d' :: '\n' :: rest => some ((), rest)
  | _ => none

def isCommentChar (c : Char) : Bool := !isControl c

def lineTail? (cs : List Char) : Option (Unit × List Char) :=
  match skipSpace cs with
  | '#' :: rest => lineEnd? (rest.dropWhile isCommentChar)
  | rest => lineEnd? rest

/-! Texts -/

def codePoint? (digits : Nat) (cs : List Char) : Option (Char × List Char) := do
  let values ← (cs.take digits).mapM hexValue?
  let n := values.foldl (fun n d => 16 * n + d) 0
  if values.length = digits ∧ n < 0x110000 ∧ ¬ (0xD800 ≤ n ∧ n < 0xE000) then
    return (Char.ofNat n, cs.drop digits)
  else none

def escape? : Reader Char
  | 'b' :: rest => some ('\x08', rest)
  | 't' :: rest => some ('\t', rest)
  | 'n' :: rest => some ('\n', rest)
  | 'f' :: rest => some ('\x0c', rest)
  | 'r' :: rest => some ('\x0d', rest)
  | '"' :: rest => some ('"', rest)
  | '\\' :: rest => some ('\\', rest)
  | 'u' :: rest => codePoint? 4 rest
  | 'U' :: rest => codePoint? 8 rest
  | _ => none

-- A text up to its closing quote, with escapes. `done` is what was read, reversed.
def basic? : Nat → List Char → Reader String
  | 0, _, _ => none
  | fuel + 1, done, cs =>
    match cs with
    | '"' :: rest => some (String.ofList done.reverse, rest)
    | '\\' :: rest => do
      let (c, rest) ← escape? rest
      basic? fuel (c :: done) rest
    | c :: rest => if isControl c then none else basic? fuel (c :: done) rest
    | [] => none

def literal? (done : List Char) : Reader String
  | '\'' :: rest => some (String.ofList done.reverse, rest)
  | c :: rest => if isControl c then none else literal? (c :: done) rest
  | [] => none

-- Skips blanks and line breaks, of which the first comes before anything else.
def skipBreak? (cs : List Char) : Option (List Char) :=
  match skipSpace cs with
  | '\n' :: rest => some (skipAll rest)
  | '\x0d' :: '\n' :: rest => some (skipAll rest)
  | _ => none
where
  skipAll : List Char → List Char
    | '\x0d' :: '\n' :: rest => skipAll rest
    | c :: rest => if c == '\n' || isSpace c then skipAll rest else c :: rest
    | [] => []

-- Ends a text of several lines at three to five quotes; those before the last three belong to the
-- text.
def closing? (quote : Char) (done cs : List Char) : Option (String × List Char) :=
  let run := cs.takeWhile (· == quote)
  if 3 ≤ run.length then
    let kept := min (run.length - 3) 2
    some (String.ofList (done.reverse ++ List.replicate kept quote), cs.drop (kept + 3))
  else none

-- The rest of a text of several lines; escapes and joined lines only if `escapes`.
def lines? (quote : Char) (escapes : Bool) : Nat → List Char → Reader String
  | 0, _, _ => none
  | fuel + 1, done, cs =>
    match closing? quote done cs with
    | some result => some result
    | none =>
      match cs with
      | '\x0d' :: '\n' :: rest => lines? quote escapes fuel ('\n' :: done) rest
      | '\n' :: rest => lines? quote escapes fuel ('\n' :: done) rest
      | '\\' :: rest =>
        if escapes then
          match skipBreak? rest with
          | some rest => lines? quote escapes fuel done rest
          | none => do
            let (c, rest) ← escape? rest
            lines? quote escapes fuel (c :: done) rest
        else lines? quote escapes fuel ('\\' :: done) rest
      | c :: rest => if isControl c then none else lines? quote escapes fuel (c :: done) rest
      | [] => none

-- A line break right after the opening quotes is no part of the text.
def skipFirstBreak : List Char → List Char
  | '\n' :: rest => rest
  | '\x0d' :: '\n' :: rest => rest
  | cs => cs

def text? : Reader String
  | '"' :: '"' :: '"' :: rest => lines? '"' true (rest.length + 1) [] (skipFirstBreak rest)
  | '\'' :: '\'' :: '\'' :: rest => lines? '\'' false (rest.length + 1) [] (skipFirstBreak rest)
  | '"' :: rest => basic? (rest.length + 1) [] rest
  | '\'' :: rest => literal? [] rest
  | _ => none

/-! Keys -/

def isBareKeyChar (c : Char) : Bool := c.isAlphanum || c == '-' || c == '_'

def simpleKey? (cs : List Char) : Option (String × List Char) :=
  match cs with
  | '"' :: rest => basic? (rest.length + 1) [] rest
  | '\'' :: rest => literal? [] rest
  | _ =>
    let bare := cs.takeWhile isBareKeyChar
    if bare = [] then none else some (String.ofList bare, cs.drop bare.length)

-- Paths are shorter than this, and values nest less deeply.
def depthLimit : Nat := 80

-- At most so many keys between dots, each of which may stand between blanks.
def keys? : Nat → Reader (List String)
  | 0, _ => none
  | count + 1, cs => do
    let (key, rest) ← simpleKey? (skipSpace cs)
    match skipSpace rest with
    | '.' :: rest => do
      let (keys, rest) ← keys? count rest
      return (key :: keys, rest)
    | rest => return ([key], rest)

def path? (cs : List Char) : Option (List String × List Char) := keys? (depthLimit - 1) cs

/-! Numbers and dates -/

-- More digits, with single underscores between them.
def moreDigits? (digit : Char → Bool) : Reader (List Char)
  | '_' :: d :: rest =>
    if digit d then do
      let (ds, rest) ← moreDigits? digit rest
      return (d :: ds, rest)
    else none
  | d :: rest =>
    if d = '_' then none
    else if digit d then do
      let (ds, rest) ← moreDigits? digit rest
      return (d :: ds, rest)
    else some ([], d :: rest)
  | [] => some ([], [])

def digits? (digit : Char → Bool) : Reader (List Char)
  | d :: rest =>
    if digit d then do
      let (ds, rest) ← moreDigits? digit rest
      return (d :: ds, rest)
    else none
  | [] => none

def sign : List Char → Bool × List Char
  | '-' :: rest => (true, rest)
  | '+' :: rest => (false, rest)
  | rest => (false, rest)

def signText (negative : Bool) : List Char := if negative then ['-'] else []

-- Digits of which the first is zero only if it is the only one.
def wholeDigits? : Reader (List Char)
  | '0' :: rest => some (['0'], rest)
  | cs => digits? Char.isDigit cs

def fraction? : Reader (List Char)
  | '.' :: rest => digits? Char.isDigit rest
  | _ => none

def exponent? : Reader (Bool × List Char)
  | e :: rest =>
    if e = 'e' ∨ e = 'E' then do
      let (negative, rest) := sign rest
      let (ds, rest) ← digits? Char.isDigit rest
      return ((negative, ds), rest)
    else none
  | [] => none

-- Digits with a point before the last `places` of them, and a power of ten.
structure Decimal where
  digits : List Char
  places : Nat := 0
  powerNegative : Bool := false
  power : List Char := []

namespace Decimal

def lastPower (d : Decimal) : Int :=
  let power : Int := natOfDigits d.power
  (if d.powerNegative then -power else power) - d.places

-- Half a step above the greatest number of 64 bits with a fraction.
def bound : Nat := Nat.pow 2 1024 - Nat.pow 2 970

-- A number of 64 bits comes near enough.
def isFinite (d : Decimal) : Bool :=
  let n := natOfDigits d.digits
  match d.lastPower with
  | .ofNat power => n == 0 || (power ≤ 400 && n * Nat.pow 10 power < bound)
  | .negSucc power =>
    d.digits.length ≤ power || n < bound * Nat.pow 10 (power + 1)

def toText (d : Decimal) : List Char :=
  let whole := d.digits.length - d.places
  d.digits.take whole ++ (if d.places = 0 then [] else '.' :: d.digits.drop whole) ++
    if d.power = [] then [] else 'e' :: signText d.powerNegative ++ d.power

end Decimal

def unsignedDecimal? (cs : List Char) : Option (Decimal × List Char) := do
  let (whole, rest) ← wholeDigits? cs
  match fraction? rest with
  | some (fraction, rest) =>
    match exponent? rest with
    | some ((negative, power), rest) =>
      return (⟨whole ++ fraction, fraction.length, negative, power⟩, rest)
    | none => return ({ digits := whole ++ fraction, places := fraction.length }, rest)
  | none => do
    let ((negative, power), rest) ← exponent? rest
    return (⟨whole, 0, negative, power⟩, rest)

def keyword? (word : String) (cs : List Char) : Option (List Char) :=
  if word.toList.isPrefixOf cs then some (cs.drop word.length) else none

def decimal? (cs : List Char) : Option (Toml × List Char) :=
  let (negative, cs) := sign cs
  let number := do
    let (d, rest) ← unsignedDecimal? cs
    if negative ∨ d.isFinite then
      return (decimal (String.ofList (signText negative ++ d.toText)), rest)
    else none
  let named (name : String) : Option (Toml × List Char) := do
    return (decimal (String.ofList (signText negative) ++ name), ← keyword? name cs)
  number <|> named "inf" <|> named "nan"

def natOfBase (base : Nat) (ds : List Char) : Nat :=
  ds.foldl (fun n d => base * n + (hexValue? d).getD 0) 0

def inRange? (n : Int) : Option Toml :=
  if -(signBound : Int) ≤ n ∧ n < (signBound : Int) then some (int n) else none

def based? (base : Nat) (digit : Char → Bool) (cs : List Char) : Option (Toml × List Char) := do
  let (ds, rest) ← digits? digit cs
  return (← inRange? (natOfBase base ds), rest)

def integer? : Reader Toml
  | '0' :: 'x' :: rest => based? 16 isHexDigit rest
  | '0' :: 'o' :: rest => based? 8 (fun c => '0' ≤ c && c ≤ '7') rest
  | '0' :: 'b' :: rest => based? 2 (fun c => c == '0' || c == '1') rest
  | cs => do
    let (negative, rest) := sign cs
    let (ds, rest) ← wholeDigits? rest
    let n : Int := natOfDigits ds
    return (← inRange? (if negative then -n else n), rest)

def bounded? (count low high : Nat) (cs : List Char) : Option (Nat × List Char) :=
  let ds := cs.take count
  if ds.length = count ∧ ds.all Char.isDigit ∧ low ≤ natOfDigits ds ∧ natOfDigits ds ≤ high then
    some (natOfDigits ds, cs.drop count)
  else none

def isLeapYear (year : Nat) : Bool := year % 4 == 0 && (year % 100 != 0 || year % 400 == 0)

def daysOf (year month : Nat) : Nat :=
  if month = 2 then if isLeapYear year then 29 else 28
  else if month = 4 ∨ month = 6 ∨ month = 9 ∨ month = 11 then 30
  else 31

def char? (c : Char) : List Char → Option (List Char)
  | d :: rest => if c = d then some rest else none
  | [] => none

def date? (cs : List Char) : Option (List Char) := do
  let (year, rest) ← bounded? 4 0 9999 cs
  let (month, rest) ← bounded? 2 1 12 (← char? '-' rest)
  let (_, rest) ← bounded? 2 1 (daysOf year month) (← char? '-' rest)
  return rest

def time? (cs : List Char) : Option (List Char) := do
  let (_, rest) ← bounded? 2 0 23 cs
  let (_, rest) ← bounded? 2 0 59 (← char? ':' rest)
  let (_, rest) ← bounded? 2 0 60 (← char? ':' rest)
  match rest with
  | '.' :: more =>
    if more.head?.any Char.isDigit then return more.dropWhile Char.isDigit else none
  | _ => return rest

def offset? : List Char → Option (List Char)
  | c :: rest =>
    if c = 'Z' ∨ c = 'z' then some rest
    else if c = '+' ∨ c = '-' then do
      let (_, rest) ← bounded? 2 0 23 rest
      let (_, rest) ← bounded? 2 0 59 (← char? ':' rest)
      return rest
    else none
  | [] => none

def afterDate (cs : List Char) : List Char :=
  match cs with
  | c :: rest =>
    if c = 'T' ∨ c = 't' ∨ c = ' ' then
      match time? rest with
      | some rest => (offset? rest).getD rest
      | none => cs
    else cs
  | [] => []

def moment? (cs : List Char) : Option (Toml × List Char) := do
  let rest ← (afterDate <$> date? cs) <|> time? cs
  return (moment (String.ofList (cs.take (cs.length - rest.length))), rest)

/-! Values -/

-- Skips blanks, line breaks and comments, as between the items of a list.
def skipLines : Nat → List Char → List Char
  | 0, cs => cs
  | fuel + 1, cs =>
    match skipSpace cs with
    | '\n' :: rest => skipLines fuel rest
    | '\x0d' :: '\n' :: rest => skipLines fuel rest
    | '#' :: rest => skipLines fuel (rest.dropWhile isCommentChar)
    | rest => rest

def isSignOrDigit (c : Char) : Bool := c.isDigit || c == '+' || c == '-'

mutual
-- A value, in which lists and tables may nest so deeply.
def value? : Nat → Nat → Reader Toml
  | 0, _, _ => none
  | fuel + 1, depth, cs =>
    match cs, depth with
    | '[' :: _, 0 | '\x7b' :: _, 0 => none
    | '[' :: rest, depth + 1 => items? fuel depth [] rest
    | '\x7b' :: rest, depth + 1 =>
      match skipSpace rest with
      | '\x7d' :: rest => some (table [], rest)
      | rest => pairs? fuel depth [] rest
    | c :: rest, _ =>
      if c = '"' ∨ c = '\'' then do
        let (s, rest) ← text? cs
        return (str s, rest)
      else if isSignOrDigit c then moment? cs <|> decimal? cs <|> integer? cs
      else if c = 'i' ∨ c = 'n' then decimal? cs
      else
        (do return (bool true, ← keyword? "true" (c :: rest))) <|>
          (do return (bool false, ← keyword? "false" (c :: rest)))
    | [], _ => none

def items? : Nat → Nat → List Toml → Reader Toml
  | 0, _, _, _ => none
  | fuel + 1, depth, done, cs =>
    match skipLines cs.length cs with
    | ']' :: rest => some (arr done.reverse, rest)
    | cs => do
      let (item, rest) ← value? fuel depth cs
      match skipLines rest.length rest with
      | ',' :: rest => items? fuel depth (item :: done) rest
      | ']' :: rest => some (arr (item :: done).reverse, rest)
      | _ => none

def pairs? : Nat → Nat → List (List String × Toml) → Reader Toml
  | 0, _, _, _ => none
  | fuel + 1, depth, done, cs => do
    let (path, rest) ← path? cs
    let (v, rest) ← value? fuel depth (skipSpace (← char? '=' rest))
    match skipSpace rest with
    | ',' :: rest => pairs? fuel depth ((path, v) :: done) rest
    | '\x7d' :: rest => return (← ofPairs? ((path, v) :: done).reverse, rest)
    | _ => none
end

/-! Documents -/

def pair? (cs : List Char) : Option (Line × List Char) := do
  let (path, rest) ← path? cs
  let (v, rest) ← value? (rest.length + 1) (depthLimit - 1) (skipSpace (← char? '=' rest))
  let (_, rest) ← lineTail? rest
  return (.pair path v, rest)

def header? (cs : List Char) : Option (Line × List Char) := do
  let (path, rest) ← path? cs
  let (_, rest) ← lineTail? (← char? ']' rest)
  return (.header path, rest)

def elementHeader? (cs : List Char) : Option (Line × List Char) := do
  let (path, rest) ← path? cs
  let (_, rest) ← lineTail? (← char? ']' (← char? ']' rest))
  return (.elementHeader path, rest)

def document? : Nat → List Char → Option (List Line)
  | 0, _ => none
  | fuel + 1, cs =>
    match skipSpace cs with
    | [] => some []
    | '\n' :: rest => document? fuel rest
    | '\x0d' :: '\n' :: rest => document? fuel rest
    | '#' :: rest => do
      let (_, rest) ← lineEnd? (rest.dropWhile isCommentChar)
      document? fuel rest
    | '[' :: '[' :: rest => do
      let (line, rest) ← elementHeader? rest
      return line :: (← document? fuel rest)
    | '[' :: rest => do
      let (line, rest) ← header? rest
      return line :: (← document? fuel rest)
    | cs => do
      let (line, rest) ← pair? cs
      return line :: (← document? fuel rest)

-- A byte order mark may come first.
def withoutMark : List Char → List Char
  | '\uFEFF' :: rest => rest
  | cs => cs

def parse? (text : String) : Option (List (String × Toml)) := do
  let cs := withoutMark text.toList
  ofLines? (← document? (cs.length + 1) cs)

end PairwiseId.Toml
