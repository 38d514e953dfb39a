import PairwiseId.Console.Basic
import PairwiseId.Text.Basic

/- A machine in memory: files and folders by their way from the root. Its random
   bytes are all zero. -/
namespace PairwiseId.Console

set_option autoImplicit false

inductive Node where
  | folder
  | file (content : String)
deriving DecidableEq

abbrev Place := List String

structure Disk where
  start : Place := []
  nodes : List (Place × Node) := []

namespace Disk

def node? (d : Disk) (place : Place) : Option Node :=
  if place = [] then some .folder else d.nodes.lookup place

def put (d : Disk) (place : Place) (node : Node) : Disk :=
  { d with nodes := (place, node) :: d.nodes.filter fun n => n.1 != place }

def steps (path : String) : List String := (Text.splitAt '/' path.toList).map String.ofList

def origin (d : Disk) (path : String) : Place := if path.startsWith "/" then [] else d.start

def move (place : Place) (name : String) : Place :=
  if name = "" ∨ name = "." then place
  else if name = ".." then place.dropLast
  else place ++ [name]

-- Follows a path. All steps start in folders.
def follow (d : Disk) : Place → List String → Option Place
  | place, [] => some place
  | place, name :: rest =>
    if d.node? place = some .folder then d.follow (move place name) rest else none

def place? (d : Disk) (path : String) : Option Place := d.follow (d.origin path) (steps path)

def read (d : Disk) (path : String) : FileState :=
  match (d.place? path).bind d.node? with
  | none => .missing
  | some .folder => .unreadable
  | some (.file content) => .text content

-- Makes the folders that a path leads through, as far as no file is in the way.
def makeAll (d : Disk) : Place → List String → Bool × Disk
  | _, [] => (true, d)
  | place, name :: rest =>
    let next := move place name
    match d.node? next with
    | some .folder => d.makeAll next rest
    | some (.file _) => (false, d)
    | none => (d.put next .folder).makeAll next rest

def stepsToParent (path : String) : List String :=
  ((steps path).filter fun name => name ≠ "" ∧ name ≠ ".").dropLast

def makeFolders (d : Disk) (path : String) : Bool × Disk :=
  d.makeAll (d.origin path) (stepsToParent path)

def write (d : Disk) (path content : String) : Bool × Disk :=
  match d.place? path with
  | none => (false, d)
  | some place =>
    if d.node? place = some .folder then (false, d) else (true, d.put place (.file content))

def machine : Machine (StateM Disk) where
  read path := fun d => (d.read path, d)
  makeFolders path := fun d => d.makeFolders path
  write path content := fun d => d.write path content
  random count := fun d => (Vector.replicate count 0, d)

def addFile (d : Disk) (path content : String) : Disk :=
  ((d.makeFolders path).2.write path content).2

end Disk

end PairwiseId.Console
