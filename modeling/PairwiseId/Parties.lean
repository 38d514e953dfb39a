import PairwiseId.Json.Basic
import PairwiseId.Uuid

/- The user a token is issued for, and what a mapper is attached to: the realm or one
   client. -/
namespace PairwiseId

set_option autoImplicit false

structure User where
  id : Uuid
  username : String
  email : Option String := none
  attributes : KeyMap (List String) := KeyMap.empty
deriving DecidableEq

namespace User

def attributeValues? (u : User) (name : String) : Option (List String) := u.attributes.get? name

def attribute? (u : User) (name : String) : Option String :=
  (u.attributeValues? name).bind List.head?

end User

inductive Owner where
  | realm
  | client (id : String)
deriving DecidableEq

namespace Owner

def clientId? : Owner → Option String
  | realm => none
  | client id => some id

def display : Owner → String
  | realm => "realm"
  | client id => "client:" ++ id

def ofJson? (j : Json) : Option Owner := do
  let fields ← j.asRecord? ["kind", "client_id"] 2
  let kind ← Json.required "kind" Json.asChoice? fields
  let id ← Json.optional "client_id" some fields
  match kind, id with
  | "realm", none => some realm
  | "client", some (.str id) => some (client id)
  | _, _ => none

def toJson : Owner → Json
  | realm => .obj [("kind", .str "realm")]
  | client id => .obj [("kind", .str "client"), ("client_id", .str id)]

end Owner

end PairwiseId
