import PairwiseId.Console.Run
import PairwiseId.Proofs.Json.Fields
import PairwiseId.Proofs.Json.Text
import PairwiseId.Proofs.Uuid
import PairwiseId.Proofs.Mapping.Normal

/- Exports are read from what is written of them, as documents and as texts. What a
   document leaves out or spells in another way is settled by the first reading. -/
namespace PairwiseId

set_option autoImplicit false

namespace MapperConfig

-- The documents of a configuration, which list its options in any order.
def Written (c : MapperConfig) (j : Json) : Prop :=
  ∃ options, Json.WrittenMap (fun text value => .str text = value) c.options options ∧
    j = .obj [("id", .str c.id.toText), ("name", .str c.name), ("mapper_type", .str c.mapperType),
      ("protocol", .str c.protocol), ("config", options)]

theorem written_own (c : MapperConfig) : c.Written c.toJson :=
  ⟨_, Json.map_written Json.str (fun _ => rfl) c.options, rfl⟩

theorem uuid_back (id : Uuid) : uuidOfJson? (.str id.toText) = some id := by
  simp [uuidOfJson?, Json.asText?, Uuid.of_text_to_text]

theorem written_read (c : MapperConfig) (j : Json) (written : c.Written j) : ofJson? j = some c := by
  obtain ⟨options, whole, rfl⟩ := written
  have read : Json.asMap? Json.asText? options = some c.options :=
    Json.map_read (fun text value same => same ▸ Json.as_text_back text) c.options options whole
  simp [ofJson?, Json.asRecord?, Json.required, Json.withDefault, Json.field, uuid_back, Json.as_text_back, read]

theorem written_numberless (c : MapperConfig) (j : Json) (written : c.Written j) : j.numberless = true := by
  obtain ⟨options, whole, rfl⟩ := written
  have plain : options.numberless = true :=
    Json.numberless_map (fun text value same => by rw [← same, Json.numberless]) c.options options whole
  simp [Json.numberless, Json.numberlessFields, plain]

end MapperConfig

namespace Export

def WrittenConfigs (configs : List MapperConfig) (j : Json) : Prop := Json.WrittenList MapperConfig.Written configs j

def Written (e : Export) (j : Json) : Prop :=
  ∃ realm clients, WrittenConfigs e.realm realm ∧ Json.WrittenMap WrittenConfigs e.clients clients ∧
    j = .obj [("realm", realm), ("clients", clients)]

theorem written_own (e : Export) : e.Written e.toJson := by
  have configs (mappers : List MapperConfig) : WrittenConfigs mappers (configsToJson mappers) :=
    Json.list_written MapperConfig.toJson MapperConfig.written_own mappers
  exact ⟨_, _, configs e.realm, Json.map_written configsToJson configs e.clients, rfl⟩

theorem configs_read (configs : List MapperConfig) (j : Json) (written : WrittenConfigs configs j) :
    configsOfJson? j = some configs := by
  obtain ⟨items, same, rfl⟩ := written
  exact Json.list_read MapperConfig.written_read configs items same

theorem written_read (e : Export) (j : Json) (written : e.Written j) : ofJson? j = some e := by
  obtain ⟨realm, clients, own, others, rfl⟩ := written
  have read : Json.asMap? configsOfJson? clients = some e.clients :=
    Json.map_read configs_read e.clients clients others
  simp [ofJson?, Json.asRecord?, Json.withDefault, Json.field, configs_read _ _ own, read]

theorem written_numberless (e : Export) (j : Json) (written : e.Written j) : j.numberless = true := by
  obtain ⟨realm, clients, own, others, rfl⟩ := written
  have plain := Json.numberless_list MapperConfig.written_numberless
  simp [Json.numberless, Json.numberlessFields, plain e.realm realm own,
    Json.numberless_map plain e.clients clients others]

end Export

namespace Console

theorem export_of_parsed (path text : String) (e : Export) (j : Json) (written : e.Written j)
    (parsed : Json.parse? text = some j) : exportOfText path (.text text) = .ok e := by
  simp only [exportOfText, parsed, Option.bind_some, e.written_read j written]

-- Only the order of the maps is open in what is written, and the reader does not depend on it.
theorem exports_survive (path : String) :
    (∀ e : Export, e.Written e.toJson ∧ ∀ j, e.Written j → Export.ofJson? j = some e ∧
      exportOfText path (.text j.compact) = .ok e ∧ exportOfText path (.text (shown .json j)) = .ok e) ∧
    ∀ (text : String) (e : Export), exportOfText path (.text text) = .ok e → ∀ j, e.Written j →
      exportOfText path (.text j.compact) = .ok e ∧ exportOfText path (.text (shown .json j)) = .ok e := by
  have compact (e : Export) (j : Json) (written : e.Written j) : exportOfText path (.text j.compact) = .ok e :=
    export_of_parsed path _ e j written (Json.parse_compact j (e.written_numberless j written))
  have pretty (e : Export) (j : Json) (written : e.Written j) : exportOfText path (.text (shown .json j)) = .ok e :=
    export_of_parsed path _ e j written (Json.parse_pretty j (e.written_numberless j written))
  refine ⟨fun e => ⟨e.written_own, fun j written => ?_⟩, fun text e _ j written => ?_⟩
  · exact ⟨e.written_read j written, compact e j written, pretty e j written⟩
  · exact ⟨compact e j written, pretty e j written⟩

-- One id in braces and capitals, one as a URN; no protocol, no options and no mappers of a realm, and
-- keys that mean nothing.
def looseText : String :=
  "\x7b\"clients\": \x7b\"b\": [],\n \"a\": [\x7b\"name\": \"\\u006e\", \"mapper_type\": \"t\", " ++
    "\"id\": \"\x7bABABABAB-ABAB-ABAB-ABAB-ABABABABABAB\x7d\", \"note\": [null, 1.5]\x7d, " ++
    "[\"urn:uuid:abababab-abab-abab-abab-abababababab\", \"m\", \"t\"]]\x7d, \"version\": 2\x7d"

def looseExport : Export :=
  { clients := KeyMap.ofEntries
      [("a", [{ id := ⟨Vector.replicate 16 0xAB⟩, name := "n", mapperType := "t" },
          { id := ⟨Vector.replicate 16 0xAB⟩, name := "m", mapperType := "t" }]),
        ("b", [])] }

theorem loose_spellings_survive :
    exportOfText "/e" (.text looseText) = .ok looseExport ∧
      exportOfText "/e" (.text (shown .json looseExport.toJson)) = .ok looseExport := by
  have read : exportOfText "/e" (.text looseText) = .ok looseExport :=
    to_option_ok _ looseExport (by decide +kernel)
  exact ⟨read, ((exports_survive "/e").2 looseText looseExport read _ looseExport.written_own).2⟩

end Console

end PairwiseId
