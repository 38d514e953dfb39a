import PairwiseId.Uri.Address
import PairwiseId.Uri.Punycode
import PairwiseId.Unicode.Composition
import PairwiseId.Unicode.Direction
import PairwiseId.Unicode.HostNames
import PairwiseId.Unicode.Joining

/- Internationalized domain names. A name is mapped character by character and
   composed, and every label must then be valid: made of permitted characters,
   not beginning with a mark, with joiners only where they have an effect, and,
   if any label runs from right to left, each label in one direction. A label
   that begins with `xn--` is checked in its decoded form. -/
namespace PairwiseId.Uri.DomainName

set_option autoImplicit false

open Unicode

def isAscii (c : Char) : Bool := c.toNat < 128

def isDenied (c : Char) : Bool :=
  c ≤ ' ' || c == '\x7f' || "%#/:<>?@[\\]^|".toList.contains c

def mapChar (c : Char) : Option (List Char) :=
  if isAscii c then some [c.toLower]
  else if hostValid.has c then some [c]
  else if hostIgnored.has c then some []
  else hostReplaced.find? c

def map (cs : List Char) : Option (List Char) := do
  let mapped := (← cs.mapM mapChar).flatten
  return if mapped.all isAscii then mapped else normalize mapped

def isPermitted (c : Char) : Bool := if isAscii c then !isDenied c else hostValid.has c

def joiner : Char := '\u200d'

def nonJoiner : Char := '\u200c'

-- Both joiners may follow a virama. The other one may also stand between two letters that would
-- join without it. `before` is reversed.
def joinersHold (before : List Char) : List Char → Bool
  | [] => true
  | c :: rest =>
    (if c == joiner || c == nonJoiner then
      (match before with
        | b :: _ => virama.has b
        | [] => false) ||
      (c == nonJoiner &&
        (match before.dropWhile transparent.has with
          | b :: _ => joinsLeft.has b || joinsBoth.has b
          | [] => false) &&
        (match rest.dropWhile transparent.has with
          | a :: _ => joinsRight.has a || joinsBoth.has a
          | [] => false))
    else true) && joinersHold (c :: before) rest

def isRightward (d : Direction) : Bool := d == .right || d == .arabicLetter || d == .arabicNumber

def isNeutral (d : Direction) : Bool :=
  match d with
  | .europeanNumber | .europeanSeparator | .commonSeparator | .europeanTerminator
  | .otherNeutral | .boundaryNeutral | .mark => true
  | _ => false

-- The rule for one label of a name that has a label from right to left.
def directionHolds (label : List Char) : Bool :=
  let ds := label.map direction
  let closing := (ds.reverse.dropWhile (· == .mark)).head?
  match ds with
  | [] => true
  | .left :: _ =>
    ds.all (fun d => d == .left || isNeutral d) &&
      (closing == some .left || closing == some .europeanNumber)
  | first :: _ =>
    (first == .right || first == .arabicLetter) &&
      ds.all (fun d => isRightward d || isNeutral d) &&
      closing.any (fun d => isRightward d || d == .europeanNumber) &&
      !(ds.contains .europeanNumber && ds.contains .arabicNumber)

-- What every label satisfies that is not all ASCII.
def isLabel (label : List Char) : Bool :=
  label.all isPermitted && !(label.head?.any marks.has) && joinersHold [] label

def encodedLead : List Char := ['x', 'n', '-', '-']

def readLabel? (label : List Char) : Option (List Char) :=
  if encodedLead.isPrefixOf label then do
    let decoded ← Punycode.decode? (label.drop 4)
    if decoded ≠ [] ∧ ¬ decoded.all isAscii ∧ isNormal decoded ∧ isLabel decoded then some decoded
    else none
  else if label.all isAscii then
    if label.all isPermitted then some label else none
  else if isLabel label then some label
  else none

def labels? (cs : List Char) : Option (List (List Char)) := do
  let labels ← (Text.splitAt '.' (← map cs)).mapM readLabel?
  let mixed := labels.any fun label =>
    !label.all isAscii && label.any fun c => isRightward (direction c)
  if mixed ∧ ¬ labels.all directionHolds then none else some labels

end PairwiseId.Uri.DomainName
