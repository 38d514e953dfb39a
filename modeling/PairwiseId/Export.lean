import PairwiseId.Store

/- Mapper configurations of a realm and its clients in one document. A document is
   validated by saving its configurations one by one into an empty store. Lists come
   last, so that the mappers they name are there. -/
namespace PairwiseId

set_option autoImplicit false

structure Export where
  realm : List MapperConfig := []
  clients : KeyMap (List MapperConfig) := KeyMap.empty
deriving DecidableEq

namespace Export

def configsOfJson? (j : Json) : Option (List MapperConfig) := do
  (← j.asItems?).mapM MapperConfig.ofJson?

def ofJson? (j : Json) : Option Export := do
  let fields ← j.asRecord? ["realm", "clients"] 0
  let realm ← Json.withDefault "realm" configsOfJson? [] fields
  let clients ← Json.withDefault "clients" (Json.asMap? configsOfJson?) KeyMap.empty fields
  return ⟨realm, clients⟩

def configsToJson (configs : List MapperConfig) : Json := .arr (configs.map MapperConfig.toJson)

def toJson (e : Export) : Json :=
  .obj [("realm", configsToJson e.realm), ("clients", Json.ofMap configsToJson e.clients)]

-- All configurations with their owners, the realm first.
def owned (e : Export) : List (Owner × MapperConfig) :=
  e.realm.map (fun c => (.realm, c)) ++
    e.clients.entries.flatMap fun entry => entry.2.map fun c => (.client entry.1, c)

def isList (config : MapperConfig) : Bool := config.mapperType == PseudonymList.mapperType

-- The order of the saves: that of the document, but lists last.
def saveOrder (e : Export) : List (Owner × MapperConfig) :=
  e.owned.filter (fun pair => !isList pair.2) ++ e.owned.filter fun pair => isList pair.2

def mask : String := "********"

def maskedConfig (config : MapperConfig) : MapperConfig :=
  match config.get? OptionKey.salt with
  | some _ => config.put OptionKey.salt mask
  | none => config

def masked (e : Export) : Export :=
  ⟨e.realm.map maskedConfig, e.clients.map fun configs => configs.map maskedConfig⟩

end Export

namespace Store

-- A store in which the clients of an export have no mappers yet.
def forExport (settings : Settings) (e : Export) : Store :=
  e.clients.keys.foldl (fun st id => (st.createClient id).2) (empty Registry.pairwise settings)

def contents (st : Store) : Export := ⟨st.realm, st.clients⟩

end Store

structure Row where
  owner : Owner
  config : MapperConfig
  refusal : Option Refusal
deriving DecidableEq

namespace Row

def isAccepted (row : Row) : Bool := row.refusal.isNone

def result (row : Row) : String :=
  match row.refusal with
  | none => "ok"
  | some refusal =>
    match refusal.fault? with
    | some fault => fault.messageKey
    | none => refusal.code

def detail (row : Row) : String :=
  match row.refusal with
  | none => ""
  | some refusal =>
    match refusal.fault? with
    | some fault => ", ".intercalate fault.parameters
    | none => refusal.message

end Row

structure Report where
  rows : List Row
  normalized : Export
deriving DecidableEq

namespace Report

def failures (report : Report) : Nat := report.rows.countP fun row => !row.isAccepted

-- Saves one configuration after another. A refused one changes nothing.
def replay (fresh : Nat → Salt) :
    Nat → Store → List (Owner × MapperConfig) → List Row × Store
  | _, st, [] => ([], st)
  | n, st, (owner, config) :: rest =>
    match st.save owner config (fresh n) with
    | .ok (_, after) =>
      let (rows, last) := replay fresh (n + 1) after rest
      (⟨owner, config, none⟩ :: rows, last)
    | .error refusal =>
      let (rows, last) := replay fresh (n + 1) st rest
      (⟨owner, config, some refusal⟩ :: rows, last)

-- The save with number `n` may use the salt `fresh n`.
def ofExport (settings : Settings) (fresh : Nat → Salt) (e : Export) : Report :=
  let (rows, last) := replay fresh 0 (Store.forExport settings e) e.saveOrder
  ⟨rows, last.contents⟩

end Report

end PairwiseId
