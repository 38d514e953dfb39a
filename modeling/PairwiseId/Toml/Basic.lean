import PairwiseId.KeyMap

/- TOML documents. A key stands in a table at most once. Numbers with a fraction
   or an exponent and dates keep their text. -/
namespace PairwiseId

set_option autoImplicit false

inductive Toml where
  | bool (value : Bool)
  | int (value : Int)
  | decimal (text : String)
  | moment (text : String)
  | str (value : String)
  | arr (items : List Toml)
  | table (fields : List (String × Toml))
deriving Inhabited

namespace Toml

def asText? : Toml → Option String
  | str s => some s
  | _ => none

def asBool? : Toml → Option Bool
  | bool b => some b
  | _ => none

def asNat? : Toml → Option Nat
  | int n => n.toNat?
  | _ => none

-- The fields of a record: those of a table, or the items of a list in the order of `keys`. A date
-- has no field that anyone reads.
def asRecord? (keys : List String) : Toml → Option (List (String × Toml))
  | table fields => some fields
  | arr items => some (keys.zip items)
  | moment _ => some []
  | _ => none

def asChoice? : Toml → Option String
  | str s => some s
  | table [(s, table [])] => some s
  | table [(s, arr [])] => some s
  | _ => none

def withDefault {α : Type} (key : String) (read : Toml → Option α) (fallback : α)
    (fields : List (String × Toml)) : Option α :=
  match Entries.get? key fields with
  | none => some fallback
  | some value => read value

end Toml

end PairwiseId
