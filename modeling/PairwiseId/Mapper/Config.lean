import PairwiseId.Json.Basic
import PairwiseId.Text.Basic
import PairwiseId.Uuid

/- The stored configuration of one mapper: what it is called, which mapper it
   configures, and its options as texts. -/
namespace PairwiseId

set_option autoImplicit false

inductive Surface where
  | accessToken
  | idToken
  | userinfo
deriving DecidableEq

namespace Surface

def optionKey : Surface → String
  | accessToken => "access.token.claim"
  | idToken => "id.token.claim"
  | userinfo => "userinfo.token.claim"

end Surface

def standardProtocol : String := "openid-connect"

structure MapperConfig where
  id : Uuid
  name : String
  mapperType : String
  protocol : String := standardProtocol
  options : KeyMap String := KeyMap.empty
deriving DecidableEq

namespace MapperConfig

def get? (c : MapperConfig) (key : String) : Option String := c.options.get? key

def put (c : MapperConfig) (key value : String) : MapperConfig :=
  { c with options := c.options.put key value }

-- The trimmed option, if anything is left of it.
def getNonBlank? (c : MapperConfig) (key : String) : Option String :=
  (c.get? key).bind fun value => if Text.isBlank value then none else some (Text.trim value)

-- Only the exact words are read as a truth value.
def getBool? (c : MapperConfig) (key : String) : Option Bool :=
  (c.get? key).bind fun value =>
    if value = "true" then some true else if value = "false" then some false else none

-- A mapper is included unless its option says `false`.
def isIncluded (s : Surface) (c : MapperConfig) : Bool := (c.getBool? s.optionKey).getD true

def uuidOfJson? (j : Json) : Option Uuid := do Uuid.ofText? (← j.asText?)

def ofJson? (j : Json) : Option MapperConfig := do
  let fields ← j.asRecord? ["id", "name", "mapper_type", "protocol", "config"] 3
  let id ← Json.required "id" uuidOfJson? fields
  let name ← Json.required "name" Json.asText? fields
  let mapperType ← Json.required "mapper_type" Json.asText? fields
  let protocol ← Json.withDefault "protocol" Json.asText? standardProtocol fields
  let options ← Json.withDefault "config" (Json.asMap? Json.asText?) KeyMap.empty fields
  return ⟨id, name, mapperType, protocol, options⟩

def toJson (c : MapperConfig) : Json :=
  .obj [("id", .str c.id.toText), ("name", .str c.name), ("mapper_type", .str c.mapperType),
    ("protocol", .str c.protocol), ("config", Json.ofMap .str c.options)]

theorem get?_put_self (c : MapperConfig) (key value : String) :
    (c.put key value).get? key = some value := by
  simp [get?, put]

theorem get?_put_other (c : MapperConfig) (key other value : String) (h : other ≠ key) :
    (c.put key value).get? other = c.get? other :=
  KeyMap.get?_put_other c.options key other value h

end MapperConfig

end PairwiseId
