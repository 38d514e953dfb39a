import PairwiseId.Digest.Md5
import PairwiseId.Text.Bytes

/- Universally unique identifiers. They are written in lower case with hyphens
   and read in four forms: 32 digits, hyphenated, hyphenated in braces, and
   hyphenated as a URN. -/
namespace PairwiseId

set_option autoImplicit false

structure Uuid where
  octets : Vector UInt8 16
deriving DecidableEq

namespace Uuid

open Text

def zero : Uuid := ⟨Vector.replicate 16 0⟩

instance : Inhabited Uuid := ⟨zero⟩

def digits (u : Uuid) : List Char := hexOfBytes u.octets.toList

def hyphenate (ds : List Char) : List Char :=
  ds.take 8 ++ '-' :: (ds.drop 8).take 4 ++ '-' :: (ds.drop 12).take 4 ++
    '-' :: (ds.drop 16).take 4 ++ '-' :: ds.drop 20

def toText (u : Uuid) : String := String.ofList (hyphenate u.digits)

def ofDigits? (ds : List Char) : Option Uuid := do
  let bytes ← bytesOfHex? ds
  if h : bytes.length = 16 then
    return ⟨⟨bytes.toArray, by simpa using h⟩⟩
  else none

def ofHyphenated? (cs : List Char) : Option Uuid :=
  if [8, 13, 18, 23].all fun i => cs[i]? == some '-' then
    ofDigits? (cs.take 8 ++ (cs.drop 9).take 4 ++ (cs.drop 14).take 4 ++
      (cs.drop 19).take 4 ++ cs.drop 24)
  else none

def urnLeads : List (List Char) := ["urn:uuid:".toList, "URN:UUID:".toList]

def ofText? (s : String) : Option Uuid :=
  let cs := s.toList
  match cs.length with
  | 32 => ofDigits? cs
  | 36 => ofHyphenated? cs
  | 38 =>
    if cs.head? = some '\x7b' ∧ cs.getLast? = some '\x7d' then ofHyphenated? (cs.tail.dropLast)
    else none
  | 45 => if urnLeads.contains (cs.take 9) then ofHyphenated? (cs.drop 9) else none
  | _ => none

-- Sets the four version bits to 3 and the two variant bits to `10`.
def stamp (index : Nat) (octet : UInt8) : UInt8 :=
  if index = 6 then (octet &&& 0x0f) ||| 0x30
  else if index = 8 then (octet &&& 0x3f) ||| 0x80
  else octet

-- The version 3 identifier of some bytes: their MD5 digest, stamped.
def nameBased (data : Digest.Bytes) : Uuid :=
  let digest := Digest.md5.hash data
  ⟨Vector.ofFn fun i => stamp i.val (digest.getD i.val 0)⟩

def version (u : Uuid) : Nat := (u.octets[6] >>> 4).toNat

end Uuid

end PairwiseId
