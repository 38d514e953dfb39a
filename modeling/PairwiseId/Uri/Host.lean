import PairwiseId.Text.Bytes
import PairwiseId.Uri.DomainName
import PairwiseId.Uri.Address

/- The host of a URI. A host in brackets is an address of eight groups. Under the
   schemes of the web a host is otherwise a domain name, with escapes decoded, or
   a dotted address; under other schemes it is an opaque text. -/
namespace PairwiseId.Uri

set_option autoImplicit false

inductive Host where
  | name (labels : List (List Char))
  | dotted (address : Nat)
  | groups (text : List Char)
  | registered (text : List Char)
deriving DecidableEq

-- Decodes the escapes of an ASCII text; a percent sign that begins no escape stands for itself.
def unescape : List Char → Digest.Bytes
  | '%' :: a :: b :: rest =>
    match Text.hexValue? a, Text.hexValue? b with
    | some high, some low => UInt8.ofNat (16 * high + low) :: unescape rest
    | _, _ => UInt8.ofNat '%'.toNat :: unescape (a :: b :: rest)
  | c :: rest => UInt8.ofNat c.toNat :: unescape rest
  | [] => []

namespace Host

def bracketed? (text : List Char) : Option Host :=
  match text.reverse with
  | ']' :: inner => if Ipv6.isAddress inner.reverse then some (groups inner.reverse) else none
  | _ => none

def ofWebText? (text : List Char) : Option Host :=
  match text with
  | '[' :: rest => bracketed? rest
  | _ => do
    let characters ← if text.contains '%' then Text.ofUtf8? (unescape text) else some text
    let labels ← DomainName.labels? characters
    let joined := List.intercalate ['.'] labels
    if joined = [] then none
    else if Ipv4.endsInNumber joined then (Ipv4.address? joined).map dotted
    else some (name labels)

-- Characters that end or garble an opaque host.
def isForbidden (c : Char) : Bool :=
  c == '\x00' || c == '\t' || c == '\n' || c == '\x0d' || " #/:<>?@[\\]^|".toList.contains c

def ofOpaqueText? (text : List Char) : Option Host :=
  match text with
  | '[' :: rest => bracketed? rest
  | [] => none
  | _ => if text.any isForbidden then none else some (registered text)

end Host

end PairwiseId.Uri
