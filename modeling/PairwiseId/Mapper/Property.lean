import PairwiseId.Json.Basic

/- How an admin console asks for one option of a mapper. -/
namespace PairwiseId

set_option autoImplicit false

inductive PropertyType where
  | text
  | boolean
  | choice
  | multivalued
  | password
deriving DecidableEq

namespace PropertyType

def name : PropertyType → String
  | text => "STRING"
  | boolean => "BOOLEAN"
  | choice => "LIST"
  | multivalued => "MULTIVALUED_STRING"
  | password => "PASSWORD"

def ofName? (name : String) : Option PropertyType :=
  [text, boolean, choice, multivalued, password].find? fun t => t.name == name

end PropertyType

structure Property where
  name : String
  label : String
  type : PropertyType
  helpText : Option String := none
  default? : Option String := none
  required : Bool := false
  secret : Bool := false
  choices : List String := []
deriving DecidableEq

namespace Property

def ofText (name label : String) : Property := { name, label, type := .text }

-- Unticked unless another default is given.
def ofBoolean (name label : String) : Property :=
  { name, label, type := .boolean, default? := some "false" }

def ofChoices (name label : String) (choices : List String) : Property :=
  { name, label, type := .choice, choices }

def ofMultivalued (name label : String) : Property := { name, label, type := .multivalued }

def ofSecret (name label : String) : Property := { name, label, type := .password, secret := true }

def withHelp (p : Property) (text : String) : Property := { p with helpText := some text }

def withDefault (p : Property) (value : String) : Property := { p with default? := some value }

def asRequired (p : Property) : Property := { p with required := true }

def typeOfJson? (j : Json) : Option PropertyType := do PropertyType.ofName? (← j.asChoice?)

def keys : List String :=
  ["name", "label", "help_text", "property_type", "default_value", "required", "secret", "options"]

def ofJson? (j : Json) : Option Property := do
  let fields ← j.asRecord? keys 5
  let name ← Json.required "name" Json.asText? fields
  let label ← Json.required "label" Json.asText? fields
  let helpText ← Json.optional "help_text" Json.asText? fields
  let type ← Json.required "property_type" typeOfJson? fields
  let default? ← Json.optional "default_value" Json.asText? fields
  let required ← Json.withDefault "required" Json.asBool? false fields
  let secret ← Json.withDefault "secret" Json.asBool? false fields
  let choices ← Json.withDefault "options" Json.asTexts? [] fields
  return { name, label, type, helpText, default?, required, secret, choices }

def toJson (p : Property) : Json :=
  .obj ([("name", .str p.name), ("label", .str p.label)] ++
    Json.present "help_text" (p.helpText.map .str) ++ [("property_type", .str p.type.name)] ++
    Json.present "default_value" (p.default?.map .str) ++
    [("required", .bool p.required), ("secret", .bool p.secret)] ++
    if p.choices = [] then [] else [("options", Json.ofTexts p.choices)])

end Property

end PairwiseId
