import PairwiseId.Text.Basic
import PairwiseId.Text.Bytes

/- The two forms of numeric hosts. A dotted address has four bytes: a part is decimal,
   octal after a leading zero, or hexadecimal after `0x`, and the last part fills all
   bytes that are left. The other form has eight groups of four hexadecimal digits:
   one run of zero groups may be written `::`, and the last two groups may be a
   dotted address. -/
namespace PairwiseId.Uri

set_option autoImplicit false

def isOctalDigit (c : Char) : Bool := '0' ≤ c && c ≤ '7'

def natOfBase (base : Nat) (ds : List Char) : Nat :=
  ds.foldl (fun n d => base * n + (Text.hexValue? d).getD 0) 0

namespace Ipv4

def number? (part : List Char) : Option Nat :=
  match part with
  | [] => none
  | '0' :: 'x' :: ds => if ds.all Text.isHexDigit then some (natOfBase 16 ds) else none
  | '0' :: 'X' :: ds => if ds.all Text.isHexDigit then some (natOfBase 16 ds) else none
  | '0' :: d :: ds =>
    if (d :: ds).all isOctalDigit then some (natOfBase 8 (d :: ds)) else none
  | ds => if ds.all Char.isDigit then some (natOfBase 10 ds) else none

-- The parts of a name, without an empty part at its end.
def parts (name : List Char) : List (List Char) :=
  let all := Text.splitAt '.' name
  if all.getLast? = some [] then all.dropLast else all

-- A name whose last part is a number is an address or nothing.
def endsInNumber (name : List Char) : Bool :=
  match (parts name).getLast? with
  | none => false
  | some last => (last ≠ [] && last.all Char.isDigit) || (number? last).isSome

def address? (name : List Char) : Option Nat := do
  let numbers ← (parts name).mapM number?
  let last ← numbers.getLast?
  let leading := numbers.dropLast
  if 4 < numbers.length then none
  else if leading.any fun n => 255 < n then none
  else if Nat.pow 256 (4 - leading.length) ≤ last then none
  else some (leading.zipIdx.foldl (fun sum n => sum + n.1 * Nat.pow 256 (3 - n.2)) last)

end Ipv4

namespace Ipv6

-- Four decimal numbers up to 255 without leading zeros.
def isDotted (cs : List Char) : Bool :=
  let parts := Text.splitAt '.' cs
  parts.length == 4 && parts.all fun part =>
    part ≠ [] && part.all Char.isDigit && (part.length == 1 || part.head? != some '0') &&
      natOfBase 10 part ≤ 255

-- Reads groups after `count` others. The fuel is the length of the text.
def groups : Nat → Nat → Bool → List Char → Bool
  | 0, _, _, _ => false
  | fuel + 1, count, compressed, cs =>
    match cs with
    | [] => count == 8 || (compressed && count ≤ 8)
    | ':' :: rest => count < 8 && !compressed && groups fuel (count + 1) true rest
    | _ :: _ =>
      let digits := (cs.take 4).takeWhile Text.isHexDigit
      count < 8 &&
        match cs.drop digits.length with
        | [] => groups fuel (count + 1) compressed []
        | ':' :: rest => rest ≠ [] && groups fuel (count + 1) compressed rest
        | '.' :: _ =>
          count ≤ 6 && isDotted cs && groups fuel (count + 2) compressed []
        | _ => false

def isAddress (cs : List Char) : Bool :=
  match cs with
  | ':' :: ':' :: rest => groups (cs.length + 1) 1 true rest
  | ':' :: _ => false
  | [] => false
  | [_] => false
  | _ => groups (cs.length + 1) 0 false cs

end Ipv6

end PairwiseId.Uri
