import PairwiseId.Mapper.Pairwise

/- Stored mapper configurations of a realm and its clients. Each owner has a list
   in which an id stands at most once. What is saved is checked first, and a salt
   that is stored once stays. -/
namespace PairwiseId

set_option autoImplicit false

structure Store where
  registry : Registry
  settings : Settings
  realm : List MapperConfig
  clients : KeyMap (List MapperConfig)

namespace Store

def empty (registry : Registry) (settings : Settings) : Store :=
  ⟨registry, settings, [], KeyMap.empty⟩

-- The mappers of an owner that exists. The realm always does.
def mappers? (st : Store) : Owner → Option (List MapperConfig)
  | .realm => some st.realm
  | .client id => st.clients.get? id

def list (st : Store) (owner : Owner) : List MapperConfig := (st.mappers? owner).getD []

def get? (st : Store) (owner : Owner) (id : Uuid) : Option MapperConfig :=
  (st.list owner).find? fun c => c.id == id

def lookup (st : Store) : Lookup := st.clients.get?

def withMappers (st : Store) (owner : Owner) (configs : List MapperConfig) : Store :=
  match owner with
  | .realm => { st with realm := configs }
  | .client id => { st with clients := st.clients.put id configs }

-- Tells whether the client is new. One that exists keeps its mappers.
def createClient (st : Store) (id : String) : Bool × Store :=
  match st.clients.get? id with
  | some _ => (false, st)
  | none => (true, st.withMappers (.client id) [])

-- Tells how many mappers the client had.
def deleteClient (st : Store) (id : String) : Option Nat × Store :=
  match st.clients.get? id with
  | none => (none, st)
  | some configs => (some configs.length, { st with clients := st.clients.erase id })

-- Whatever salt is submitted, a stored one is used again.
def keepSalt (stored : Option MapperConfig) (config : MapperConfig) : MapperConfig :=
  match stored.bind MapperConfig.salt? with
  | some salt => if config.salt? = some salt then config else config.put OptionKey.salt salt
  | none => config

-- Puts a configuration in the place of the one with its id, or at the end.
def upsert (config : MapperConfig) : List MapperConfig → List MapperConfig
  | [] => [config]
  | c :: rest => if c.id = config.id then config :: rest else c :: upsert config rest

def missingOwner (owner : Owner) : Refusal :=
  .invalidRequest (owner.display ++ " does not exist")

def save (st : Store) (owner : Owner) (config : MapperConfig) (fresh : Salt) :
    Except Refusal (MapperConfig × Store) :=
  match st.mappers? owner with
  | none => .error (missingOwner owner)
  | some configs => do
    let config := keepSalt (st.get? owner config.id) config
    let config ← st.registry.checkSave ⟨owner, st.lookup, st.settings, fresh⟩ config
    return (config, st.withMappers owner (upsert config configs))

-- Tells whether there was such a configuration.
def delete (st : Store) (owner : Owner) (id : Uuid) : Bool × Store :=
  match st.mappers? owner with
  | none => (false, st)
  | some configs =>
    let kept := configs.filter fun c => c.id != id
    (kept.length != configs.length, st.withMappers owner kept)

def issue (st : Store) (owner : Owner) (s : Surface) (user : Option User)
    (client : Option String) (claims : s.Claims) : Outcome s.Claims :=
  st.registry.issue s { user, client, lookup := some st.lookup } (st.list owner) claims

inductive Op where
  | createClient (client : String)
  | deleteClient (client : String)
  | save (owner : Owner) (config : MapperConfig) (fresh : Salt)
  | delete (owner : Owner) (id : Uuid)

def step (st : Store) : Op → Store
  | .createClient client => (st.createClient client).2
  | .deleteClient client => (st.deleteClient client).2
  | .save owner config fresh =>
    match st.save owner config fresh with
    | .ok (_, after) => after
    | .error _ => st
  | .delete owner id => (st.delete owner id).2

def run (st : Store) (ops : List Op) : Store := ops.foldl step st

end Store

end PairwiseId
