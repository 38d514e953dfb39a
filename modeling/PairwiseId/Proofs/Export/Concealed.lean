import PairwiseId.Proofs.Export.Replay
import PairwiseId.Proofs.Store.Concealed

/- Exports with one text in the place of every salt. Validating such an export gives the
   report of the original one, with that text in the place of every salt that was stored,
   whether it came from the export or was fresh. -/
namespace PairwiseId

set_option autoImplicit false

namespace Export

def concealed (e : Export) : Export :=
  ⟨e.realm.map MapperConfig.concealed, e.clients.map (List.map MapperConfig.concealed)⟩

-- The same owners with the same mappers in the same order, but for the salts.
def EqualButSalts (e f : Export) : Prop :=
  ∀ owner, Option.Rel (List.Forall₂ MapperConfig.EqualButSalt) (e.mappers? owner) (f.mappers? owner)

variable (e : Export)

theorem mappers_concealed (owner : Owner) :
    e.concealed.mappers? owner = (e.mappers? owner).map (List.map MapperConfig.concealed) := by
  cases owner with
  | realm => rfl
  | client id => exact KeyMap.get_map _ e.clients id

theorem lists_concealed_iff (first second : List MapperConfig) :
    List.Forall₂ MapperConfig.EqualButSalt first second ↔
      first.map MapperConfig.concealed = second.map MapperConfig.concealed := by
  have pointwise : MapperConfig.EqualButSalt = fun a b => a.concealed = b.concealed := by
    funext a b
    exact propext (MapperConfig.equal_but_salt_iff a b)
  rw [pointwise, ← List.forall₂_eq_eq_eq, List.forall₂_map_left_iff, List.forall₂_map_right_iff]

theorem equal_but_salts_iff (f : Export) : EqualButSalts e f ↔ e.concealed = f.concealed := by
  have owner_iff : ∀ owner, Option.Rel (List.Forall₂ MapperConfig.EqualButSalt) (e.mappers? owner) (f.mappers? owner) ↔
      e.concealed.mappers? owner = f.concealed.mappers? owner := by
    intro owner
    rw [mappers_concealed, mappers_concealed]
    cases e.mappers? owner with
    | none => cases f.mappers? owner <;> simp
    | some first => cases f.mappers? owner <;> simp [lists_concealed_iff]
  constructor
  · exact fun equal => ext_mappers _ _ fun owner => (owner_iff owner).mp (equal owner)
  · exact fun same owner => (owner_iff owner).mpr (congrArg (fun e => Export.mappers? e owner) same)

def concealedPair (pair : Owner × MapperConfig) : Owner × MapperConfig := (pair.1, pair.2.concealed)

theorem owned_concealed : e.concealed.owned = e.owned.map concealedPair := by
  simp only [owned, concealed, KeyMap.map, List.map_append, List.map_map, List.map_flatMap,
    List.flatMap_map, Function.comp_def, concealedPair]

theorem save_order_concealed : e.concealed.saveOrder = e.saveOrder.map concealedPair := by
  have same : ∀ pair, isList (concealedPair pair).2 = isList pair.2 := fun pair => by
    simp only [isList, concealedPair, MapperConfig.concealed_type]
  simp only [saveOrder, owned_concealed, List.filter_map, List.map_append, Function.comp_def, same]

theorem masked_concealed : e.concealed.masked = e.masked := by
  simp only [masked, concealed, List.map_map, Function.comp_def, MapperConfig.masked_concealed, KeyMap.map]

end Export

namespace Store

theorem create_client_concealed (st : Store) (id : String) :
    (st.createClient id).2.concealed = (st.concealed.createClient id).2 := by
  have known : st.concealed.clients.get? id = (st.clients.get? id).map _ := KeyMap.get_map _ st.clients id
  rw [createClient, createClient, known]
  cases st.clients.get? id with
  | none => exact with_mappers_concealed st (.client id) []
  | some configs => rfl

theorem for_export_concealed (settings : Settings) (e : Export) :
    (forExport settings e).concealed = forExport settings e.concealed := by
  have same : e.concealed.clients.keys = e.clients.keys := Entries.keys_map _ e.clients.entries
  rw [forExport, forExport, same]
  generalize e.clients.keys = clients
  suffices created : ∀ st : Store, (clients.foldl (fun st id => (st.createClient id).2) st).concealed =
      clients.foldl (fun st id => (st.createClient id).2) st.concealed from created _
  induction clients with
  | nil => exact fun st => rfl
  | cons id rest ih => exact fun st => by rw [List.foldl_cons, List.foldl_cons, ih, create_client_concealed]

end Store

def Row.concealed (row : Row) : Row := { row with config := row.config.concealed }

namespace Report

def concealed (report : Report) : Report := ⟨report.rows.map Row.concealed, report.normalized.concealed⟩

-- Save by save, the stores look the same.
theorem replay_concealed (settings : Settings) (fresh : Nat → Salt) (n : Nat) (st : Store)
    (pairs : List (Owner × MapperConfig)) (configured : Store.Configured settings st) :
    replay (fun _ => Mapping.marker) n st.concealed (pairs.map Export.concealedPair) =
      ((replay fresh n st pairs).1.map Row.concealed, (replay fresh n st pairs).2.concealed) := by
  induction pairs generalizing n st with
  | nil => rfl
  | cons pair rest ih =>
      rcases pair with ⟨owner, config⟩
      have saves := Store.save_concealed st owner settings config (fresh n) configured
      simp only [List.map_cons, Export.concealedPair, replay, saves]
      cases saved : st.save owner config (fresh n) with
      | error refusal => simp only [Except.map, ih (n + 1) st configured, List.map_cons, Row.concealed]
      | ok result =>
          have next := Store.save_configured settings st result.2 owner config result.1 (fresh n) configured saved
          simp only [Except.map, ih (n + 1) result.2 next, List.map_cons, Row.concealed]

theorem of_export_concealed (settings : Settings) (fresh : Nat → Salt) (e : Export) :
    ofExport settings (fun _ => Mapping.marker) e.concealed = (ofExport settings fresh e).concealed := by
  have configured : Store.Configured settings (Store.forExport settings e) := by
    rw [Store.for_export_reached]
    exact Store.reached_configured settings _
  rw [ofExport, ofExport, ← Store.for_export_concealed, Export.save_order_concealed,
    replay_concealed settings fresh 0 _ _ configured]
  rfl

end Report

end PairwiseId
