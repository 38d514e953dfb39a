import PairwiseId.Text.Basic

/- Sets of characters and replacements of characters, written as tables. A table of
   a set has lines of hexadecimal ranges, `lo-hi` or a single code point. In a table
   of replacements an entry `first-last/step>a+b` replaces every `step`-th character
   of the range; the first character of the replacement moves along with the range. -/
namespace PairwiseId.Unicode

set_option autoImplicit false

def hexNat (cs : List Char) : Nat :=
  cs.foldl
    (fun n c => 16 * n + (if c.isDigit then c.toNat - 48 else c.toNat - 87)) 0

structure Range where
  first : Nat
  last : Nat

def Range.ofText (cs : List Char) : Range :=
  match Text.splitAt '-' cs with
  | [first, last] => ⟨hexNat first, hexNat last⟩
  | _ => ⟨hexNat cs, hexNat cs⟩

def Range.has (r : Range) (c : Char) : Bool := r.first ≤ c.toNat && c.toNat ≤ r.last

abbrev Ranges := List Range

def Ranges.ofText (lines : List String) : Ranges :=
  lines.flatMap fun line => (Text.splitAt ' ' line.toList).map Range.ofText

def Ranges.has (rs : Ranges) (c : Char) : Bool := rs.any fun r => r.has c

structure Replacement where
  source : Range
  step : Nat
  target : List Nat

def Replacement.ofText (cs : List Char) : Replacement :=
  match Text.splitAt '>' cs with
  | [source, target] =>
    let codes := (Text.splitAt '+' target).map hexNat
    match Text.splitAt '/' source with
    | [range, step] => ⟨Range.ofText range, hexNat step, codes⟩
    | _ => ⟨Range.ofText source, 1, codes⟩
  | _ => ⟨⟨1, 0⟩, 1, []⟩

abbrev Mapping := List Replacement

def Mapping.ofText (lines : List String) : Mapping :=
  lines.flatMap fun line => (Text.splitAt ' ' line.toList).map Replacement.ofText

def Mapping.find? (m : Mapping) (c : Char) : Option (List Char) := do
  let r ← List.find? (fun r => r.source.has c && (c.toNat - r.source.first) % r.step == 0) m
  match r.target with
  | first :: rest =>
    some ((first + (c.toNat - r.source.first)) :: rest |>.map Char.ofNat)
  | [] => none

end PairwiseId.Unicode
