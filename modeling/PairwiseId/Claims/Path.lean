import PairwiseId.Json.Basic
import PairwiseId.Text.Basic

/- Claims at dotted paths. Each segment but the last names an object inside the
   one before it. Writing replaces whatever is in the way by an object; reading
   goes through objects only. -/
namespace PairwiseId.Claims

set_option autoImplicit false

-- The segments of a path, empty ones included. There is at least one.
def segments (path : String) : List String :=
  (Text.splitAt '.' path.toList).map String.ofList

def fieldsOf : Option Json → List (String × Json)
  | some (.obj fields) => fields
  | _ => []

def getIn (fields : List (String × Json)) : List String → Option Json
  | [] => none
  | [key] => Entries.get? key fields
  | key :: rest =>
    match Entries.get? key fields with
    | some (.obj inner) => getIn inner rest
    | _ => none

def setIn (fields : List (String × Json)) (value : Json) : List String → List (String × Json)
  | [] => fields
  | [key] => Entries.put key value fields
  | key :: rest =>
    Entries.put key (.obj (setIn (fieldsOf (Entries.get? key fields)) value rest)) fields

theorem set_in_ordered (fields : List (String × Json)) (value : Json) (path : List String)
    (h : Entries.Ordered fields) : Entries.Ordered (setIn fields value path) := by
  match path with
  | [] => exact h
  | [_] => exact Entries.ordered_put _ _ _ h
  | _ :: _ :: _ => exact Entries.ordered_put _ _ _ h

def get? (claims : KeyMap Json) (path : String) : Option Json :=
  getIn claims.entries (segments path)

def set (claims : KeyMap Json) (path : String) (value : Json) : KeyMap Json :=
  ⟨setIn claims.entries value (segments path), set_in_ordered _ _ _ claims.ordered⟩

-- Adds entries to the object at a path; anything else there is replaced.
def merge (claims : KeyMap Json) (path : String) (entries : KeyMap Json) : KeyMap Json :=
  let existing :=
    match get? claims path with
    | some (.obj fields) => fields
    | _ => []
  set claims path
    (.obj (entries.entries.foldl (fun fields e => Entries.put e.1 e.2 fields) existing))

end PairwiseId.Claims
