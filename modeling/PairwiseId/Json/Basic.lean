import PairwiseId.KeyMap
import PairwiseId.Text.Basic

/- JSON documents. An object keeps its fields as they stand in the text, the
   repeated ones included; `canonical` orders them and lets the last of equal
   keys win, which is how a map is read from a document. A number that is no
   integer of 64 bits keeps its text. -/
namespace PairwiseId

set_option autoImplicit false

inductive Json where
  | null
  | bool (value : Bool)
  | int (value : Int)
  | decimal (text : String)
  | str (value : String)
  | arr (items : List Json)
  | obj (fields : List (String × Json))
deriving Inhabited

namespace Json

mutual
def canonical : Json → Json
  | arr items => arr (canonicalItems items)
  | obj fields => obj (canonicalFields fields)
  | other => other

def canonicalItems : List Json → List Json
  | [] => []
  | item :: rest => canonical item :: canonicalItems rest

def canonicalFields : List (String × Json) → List (String × Json)
  | [] => []
  | (key, value) :: rest =>
    let later := canonicalFields rest
    if Entries.has key later then later else Entries.place key (canonical value) later
end

-- The field of a key, if any; fails on a key that stands twice.
def field (key : String) (fields : List (String × Json)) : Option (Option Json) :=
  match fields.filter fun f => f.1 == key with
  | [] => some none
  | [(_, value)] => some (some value)
  | _ => none

def asText? : Json → Option String
  | str s => some s
  | _ => none

def asBool? : Json → Option Bool
  | bool b => some b
  | _ => none

def asInt? : Json → Option Int
  | int n => some n
  | _ => none

def asInt64? : Json → Option Int
  | int n =>
    if -(Text.signBound : Int) ≤ n ∧ n < (Text.signBound : Int) then some n else none
  | _ => none

def asNat? : Json → Option Nat
  | int n => n.toNat?
  | _ => none

def asItems? : Json → Option (List Json)
  | arr items => some items
  | _ => none

def asFields? : Json → Option (List (String × Json))
  | obj fields => some fields
  | _ => none

-- The fields of a record: those of an object, or the items of a list in the order of `keys`. A list
-- may leave out its last items, but not the first `least`.
def asRecord? (keys : List String) (least : Nat) : Json → Option (List (String × Json))
  | obj fields => some fields
  | arr items =>
    if least ≤ items.length ∧ items.length ≤ keys.length then some (keys.zip items) else none
  | _ => none

-- The name of a choice, written as a text or as the only key of an object.
def asChoice? : Json → Option String
  | str s => some s
  | obj [(s, null)] => some s
  | _ => none

def isContainer : Json → Bool
  | arr _ | obj _ => true
  | _ => false

def ofTexts (texts : List String) : Json := arr (texts.map str)

def asTexts? (j : Json) : Option (List String) := do (← j.asItems?).mapM asText?

def required {α : Type} (key : String) (read : Json → Option α) (fields : List (String × Json)) :
    Option α := do
  read (← (← field key fields))

-- A field that may be left out, but not be null.
def withDefault {α : Type} (key : String) (read : Json → Option α) (fallback : α)
    (fields : List (String × Json)) : Option α := do
  match ← field key fields with
  | none => some fallback
  | some value => read value

-- A field that may be left out or null.
def optional {α : Type} (key : String) (read : Json → Option α) (fields : List (String × Json)) :
    Option (Option α) := do
  match ← field key fields with
  | none | some null => some none
  | some value => (read value).map some

def present (key : String) : Option Json → List (String × Json)
  | some value => [(key, value)]
  | none => []

-- A map with text keys, the last of equal keys winning.
def asMap? {α : Type} (read : Json → Option α) (j : Json) : Option (KeyMap α) := do
  let entries ← (← j.asFields?).mapM fun f => do return (f.1, ← read f.2)
  return KeyMap.ofEntries entries

def ofMap {α : Type} (write : α → Json) (m : KeyMap α) : Json :=
  obj (m.entries.map fun entry => (entry.1, write entry.2))

end Json

end PairwiseId
