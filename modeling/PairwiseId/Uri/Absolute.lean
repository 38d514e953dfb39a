import PairwiseId.Uri.Host

/- Absolute URIs with a scheme, `://` and a host. The text may hold only the
   characters of RFC 3986; within these the rules of the web apply. -/
namespace PairwiseId.Uri

set_option autoImplicit false

-- Letters, digits, and the marks that are unreserved, delimit, or begin an escape.
def isUriChar (c : Char) : Bool :=
  c.isAlphanum || "-._~:/?#[]@!$&'()*+,;=%".toList.contains c

def isSchemeChar (c : Char) : Bool := c.isAlphanum || c == '+' || c == '-' || c == '.'

-- The scheme in lower case and what follows `://`.
def splitScheme? (cs : List Char) : Option (List Char × List Char) :=
  match cs with
  | c :: _ =>
    if c.isAlpha then
      match cs.dropWhile isSchemeChar with
      | ':' :: '/' :: '/' :: rest => some ((cs.takeWhile isSchemeChar).map Char.toLower, rest)
      | _ => none
    else none
  | [] => none

def isWebScheme (scheme : List Char) : Bool :=
  ["http", "https", "ws", "wss", "ftp"].any fun s => s.toList == scheme

def isDelimiter (c : Char) : Bool := c == '/' || c == '?' || c == '#'

def authority (cs : List Char) : List Char := cs.takeWhile fun c => !isDelimiter c

def afterAuthority (cs : List Char) : List Char := cs.dropWhile fun c => !isDelimiter c

def withoutUser (cs : List Char) : List Char := (cs.reverse.takeWhile (· ≠ '@')).reverse

-- Divides an authority at the first colon outside brackets.
def splitPort (bracketed : Bool) : List Char → List Char × List Char
  | [] => ([], [])
  | c :: rest =>
    if c = ':' ∧ ¬ bracketed then ([], c :: rest)
    else
      let inside := if c = '[' then true else if c = ']' then false else bracketed
      let split := splitPort inside rest
      (c :: split.1, split.2)

-- Nothing, or a colon and a number of 16 bits that may be left out.
def isPort (cs : List Char) : Bool :=
  match cs with
  | [] => true
  | _ :: digits => digits.all Char.isDigit && natOfBase 10 digits ≤ 65535

def authorityHost? (read : List Char → Option Host) (authority : List Char) : Option Host :=
  let split := splitPort false (withoutUser authority)
  if isPort split.2 then read split.1 else none

def isDriveLetter (cs : List Char) : Bool :=
  match cs with
  | [c, mark] => c.isAlpha && (mark == ':' || mark == '|')
  | _ => false

-- A path segment of one or two dots, written plainly or escaped.
def dots (segment : List Char) : Nat :=
  let lower := String.ofList (segment.map Char.toLower)
  if lower = "." ∨ lower = "%2e" then 1
  else if lower = ".." ∨ lower = ".%2e" ∨ lower = "%2e." ∨ lower = "%2e%2e" then 2
  else 0

-- A path that leads to a drive letter belongs to this machine, whatever host is written.
def leadsToDrive (depth : Nat) : List (List Char) → Bool
  | [] => false
  | segment :: rest =>
    match dots segment with
    | 1 => leadsToDrive depth rest
    | 2 => leadsToDrive (depth - 1) rest
    | _ => (depth == 0 && isDriveLetter segment) || leadsToDrive (depth + 1) rest

-- The host of a file, unless it is this machine.
def fileHost? (rest : List Char) : Option Host := do
  let text := authority rest
  let path := (afterAuthority rest).takeWhile fun c => c ≠ '?' ∧ c ≠ '#'
  if text = [] ∨ isDriveLetter text then none
  else
    let host ← Host.ofWebText? text
    if host = .name ["localhost".toList] then none
    else if leadsToDrive 0 (Text.splitAt '/' (path.drop 1)) then none
    else some host

def host? (s : String) : Option Host := do
  let cs := s.toList
  let (scheme, rest) ← splitScheme? cs
  if ¬ cs.all isUriChar then none
  else if isWebScheme scheme then
    authorityHost? Host.ofWebText? (authority (rest.dropWhile (· = '/')))
  else if scheme = "file".toList then fileHost? rest
  else authorityHost? Host.ofOpaqueText? (authority rest)

def isAbsoluteWithHost (s : String) : Bool := (host? s).isSome

end PairwiseId.Uri
