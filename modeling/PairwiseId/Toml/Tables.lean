import PairwiseId.Toml.Basic

/- How the lines of a document fill its tables. A table has one origin: its header,
   the dotted keys that go through it, or the headers of tables inside it. Keys may
   be added through dotted keys only to a table that came from dotted keys, and a
   header may come after the headers of the tables inside it, but not twice. -/
namespace PairwiseId.Toml

set_option autoImplicit false

inductive Origin where
  | header
  | dotted
  | inner
deriving DecidableEq

inductive Node where
  | value (v : Toml)
  | table (origin : Origin) (fields : List (String × Node))
  | tables (elements : List (List (String × Node)))
deriving Inhabited

mutual
def Node.toToml : Node → Toml
  | .value v => v
  | .table _ fields => table (fieldsToToml fields)
  | .tables elements => arr (elementsToToml elements)

def fieldsToToml : List (String × Node) → List (String × Toml)
  | [] => []
  | (key, node) :: rest => (key, node.toToml) :: fieldsToToml rest

def elementsToToml : List (List (String × Node)) → List Toml
  | [] => []
  | fields :: rest => table (fieldsToToml fields) :: elementsToToml rest
end

abbrev Fields := List (String × Node)

def changeLast (change : Fields → Option Fields) : List Fields → Option (List Fields)
  | [] => none
  | [last] => do return [← change last]
  | first :: rest => do return first :: (← changeLast change rest)

-- Adds a new key at the end of a dotted path. `allowed` tells whether this table may get keys.
def addValue (v : Toml) (allowed : Bool) : List String → Fields → Option Fields
  | [], _ => none
  | [key], fields =>
    if allowed ∧ ¬ Entries.has key fields then some (fields ++ [(key, .value v)]) else none
  | key :: rest, fields =>
    match Entries.get? key fields with
    | none => do return fields ++ [(key, .table .dotted (← addValue v true rest []))]
    | some (.table .header _) => none
    | some (.table origin inner) => do
      let inner ← addValue v (origin == .dotted) rest inner
      return Entries.overwrite key (.table origin inner) fields
    | some (.tables elements) => do
      let elements ← changeLast (addValue v false rest) elements
      return Entries.overwrite key (.tables elements) fields
    | some (.value _) => none

-- Changes the table that the path of a header leads to. The last of several tables counts.
def changeAt (change : Fields → Option Fields) : List String → Fields → Option Fields
  | [], fields => change fields
  | key :: rest, fields =>
    match Entries.get? key fields with
    | none => do return fields ++ [(key, .table .inner (← changeAt change rest []))]
    | some (.table origin inner) => do
      let inner ← changeAt change rest inner
      return Entries.overwrite key (.table origin inner) fields
    | some (.tables elements) => do
      let elements ← changeLast (changeAt change rest) elements
      return Entries.overwrite key (.tables elements) fields
    | some (.value _) => none

-- Begins a table, which may have tables inside already.
def openTable (key : String) (fields : Fields) : Option Fields :=
  match Entries.get? key fields with
  | none => some (fields ++ [(key, .table .header [])])
  | some (.table .inner inner) => some (Entries.overwrite key (.table .header inner) fields)
  | some _ => none

def openElement (key : String) (fields : Fields) : Option Fields :=
  match Entries.get? key fields with
  | none => some (fields ++ [(key, .tables [[]])])
  | some (.tables elements) => some (Entries.overwrite key (.tables (elements ++ [[]])) fields)
  | some _ => none

inductive Line where
  | pair (path : List String) (v : Toml)
  | header (path : List String)
  | elementHeader (path : List String)

structure Draft where
  root : Fields := []
  current : List String := []

namespace Draft

def begin? (d : Draft) (enter : String → Fields → Option Fields) (path : List String) :
    Option Draft := do
  let key ← path.getLast?
  let root ← changeAt (enter key) path.dropLast d.root
  return ⟨root, path⟩

def add? (d : Draft) : Line → Option Draft
  | .pair path v => do return { d with root := ← changeAt (addValue v true path) d.current d.root }
  | .header path => d.begin? openTable path
  | .elementHeader path => d.begin? openElement path

end Draft

def ofLines? (lines : List Line) : Option (List (String × Toml)) := do
  return fieldsToToml (← lines.foldlM Draft.add? {}).root

def ofPairs? (pairs : List (List String × Toml)) : Option Toml := do
  let fields ← pairs.foldlM (fun fields p => addValue p.2 true p.1 fields) []
  return table (fieldsToToml fields)

end PairwiseId.Toml
