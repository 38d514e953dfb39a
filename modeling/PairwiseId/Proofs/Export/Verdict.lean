import PairwiseId.Proofs.Export.Replay
import PairwiseId.Proofs.PseudonymList.Saved

/- What decides whether a mapper of an export is accepted: its own configuration
   and, for a list, how many usable mappers each of its clients has. Neither the
   order of the mappers nor the state in the middle of the saves matters. -/
namespace PairwiseId

set_option autoImplicit false

namespace Export

-- A static-sector mapper that will be there for lists to rely on.
def isUsable (config : MapperConfig) : Bool :=
  PseudonymList.isStaticSector config && Mapping.admits .staticSector config

def usable (e : Export) (client : String) : Nat := (e.mappers (.client client)).countP isUsable

def Admits (e : Export) (owner : Owner) (config : MapperConfig) : Prop :=
  (∃ variant : Variant, config.mapperType = variant.mapperType ∧ Mapping.admits variant config = true) ∨
    config.mapperType = PseudonymList.mapperType ∧ owner ≠ .realm ∧
      (PseudonymList.ofConfig config).claimName ≠ "" ∧
      ∀ client ∈ (PseudonymList.ofConfig config).clients, e.usable client = 1

theorem is_list_iff (config : MapperConfig) :
    isList config = true ↔ config.mapperType = PseudonymList.mapperType := beq_iff_eq

theorem usable_of_list (config : MapperConfig) (list : isList config = true) : isUsable config = false := by
  rw [isUsable, PseudonymList.not_static_of_list config ((is_list_iff config).mp list), Bool.false_and]

theorem known_of_usable (e : Export) (client : String) (single : e.usable client = 1) :
    client ∈ e.clients.keys := by
  rw [← KeyMap.get_ne_none_iff]
  intro absent
  simp [usable, mappers, mappers?, absent] at single

theorem admits_perm (e other : Export) (perm : other.owned.Perm e.owned) (owner : Owner) (config : MapperConfig) :
    other.Admits owner config ↔ e.Admits owner config := by
  have usable : ∀ client, other.usable client = e.usable client := fun client =>
    (mappers_perm e other perm (.client client)).countP_eq _
  simp only [Admits, usable]

end Export

namespace Report

open Store

-- Rows of owners that the export has, without an id that stands twice under one of them.
structure Separate (e : Export) (rows : List Row) : Prop where
  known : ∀ row ∈ rows, e.mappers? row.owner ≠ none
  distinct : ∀ owner, (ids (Export.ofOwner owner (rows.map Row.subject))).Nodup

-- An export without repeated ids, the rows of its validation, and the store it ends with.
structure Validated (settings : Settings) (e : Export) (rows : List Row) (last : Store) : Prop where
  distinct : e.DistinctIds
  subjects : rows.map Row.subject = e.saveOrder
  replayed : Replayed (forExport settings e) rows last

theorem of_export_validated (settings : Settings) (fresh : Nat → Salt) (e : Export) (distinct : e.DistinctIds) :
    ∃ last, Validated settings e (ofExport settings fresh e).rows last ∧
      (ofExport settings fresh e).normalized = last.contents := by
  obtain ⟨last, replayed, normalized⟩ := of_export_replayed settings fresh e
  exact ⟨last, ⟨distinct, of_export_subjects settings fresh e, replayed⟩, normalized⟩

theorem validated_separate (settings : Settings) (e : Export) (rows : List Row) (last : Store)
    (validated : Validated settings e rows last) : Separate e rows := by
  obtain ⟨distinct, subjects, _⟩ := validated
  constructor
  · intro row member absent
    have saved : row.subject ∈ e.saveOrder := subjects ▸ List.mem_map_of_mem member
    have owned := (e.owned_mem row.owner row.config).mp (e.save_order_perm.mem_iff.mp saved)
    simp [Export.mappers, absent] at owned
  · intro owner
    have same : (Export.ofOwner owner e.saveOrder).Perm (e.mappers owner) :=
      e.owned_of owner ▸ Export.of_owner_perm owner _ _ e.save_order_perm
    rw [subjects, ids, (same.map MapperConfig.id).nodup_iff]
    exact e.distinct_iff.mp distinct owner

theorem separate_before (e : Export) (before after : List Row) (separate : Separate e (before ++ after)) :
    Separate e before := by
  constructor
  · exact fun row member => separate.known row (List.mem_append_left after member)
  · intro owner
    have whole := separate.distinct owner
    rw [List.map_append, Export.of_owner_append, ids, List.map_append] at whole
    exact whole.of_append_left

theorem ids_of_owner (owner : Owner) (rows : List Row) :
    ids (Export.ofOwner owner (rows.map Row.subject)) = rowIds (rows.filter fun row => row.owner == owner) := by
  simp [ids, rowIds, Export.ofOwner, List.filter_map, Function.comp_def, Row.subject]

theorem accepted_of_sublist (owner : Owner) (rows : List Row) :
    (acceptedOf owner rows).Sublist (rows.filter fun row => row.owner == owner) := by
  have nested : acceptedOf owner rows = (rows.filter fun row => row.owner == owner).filter Row.isAccepted := by
    simp only [acceptedOf, List.filter_filter]
    congr 1
    funext row
    exact Bool.and_comm _ _
  rw [nested]
  exact List.filter_sublist

variable {settings : Settings} {e : Export} {rows : List Row} {last : Store}

theorem separate_stored (owner : Owner) (separate : Separate e rows)
    (replayed : Replayed (forExport settings e) rows last) :
    List.Forall₂ (StoredAs settings) (acceptedOf owner rows) (last.list owner) := by
  apply accepted_stored settings e owner replayed
  have all := separate.distinct owner
  rw [ids_of_owner] at all
  exact all.sublist ((accepted_of_sublist owner rows).map _)

-- At its turn the id of a row is not stored yet, so the save checks the row as it is.
theorem row_decided (row : Row) (member : row ∈ rows) (separate : Separate e rows)
    (replayed : Replayed (forExport settings e) rows last) :
    ∃ before after mid fresh, rows = before ++ row :: after ∧
      Replayed (forExport settings e) before mid ∧
      (row.isAccepted = true ↔ ∃ stored,
        Registry.pairwise.checkSave ⟨row.owner, mid.lookup, settings, fresh⟩ row.config = .ok stored) := by
  obtain ⟨before, after, mid, fresh, split, reachedMid, decided⟩ := replayed_visit replayed row member
  refine ⟨before, after, mid, fresh, split, reachedMid, ?_⟩
  have separateBefore := separate_before e before (row :: after) (split ▸ separate)
  have known : mid.mappers? row.owner ≠ none := by
    rw [ne_eq, replayed_owner row.owner reachedMid, for_export_mappers, Option.map_eq_none_iff]
    exact separate.known row member
  have absent : row.config.id ∉ ids (mid.list row.owner) := by
    have stored := stored_map MapperConfig.id _ _ (stored_as_id settings)
      (separate_stored row.owner separateBefore reachedMid)
    intro present
    rw [ids, stored] at present
    have earlier := ((accepted_of_sublist row.owner before).map _).mem present
    have all := separate.distinct row.owner
    rw [ids_of_owner, split, List.filter_append, rowIds, List.map_append] at all
    exact List.disjoint_of_nodup_append all earlier (by simp)
  rw [decided, save_absent_iff settings mid row.owner row.config fresh
    (replayed_configured settings (for_export_configured settings e) reachedMid) absent known]

theorem variant_row_iff (row : Row) (variant : Variant) (member : row ∈ rows) (separate : Separate e rows)
    (replayed : Replayed (forExport settings e) rows last)
    (type : row.config.mapperType = variant.mapperType) :
    row.isAccepted = true ↔ Mapping.admits variant row.config = true := by
  obtain ⟨before, after, mid, fresh, _, _, decided⟩ := row_decided row member separate replayed
  rw [decided, Registry.check_save_variant_iff _ row.config variant type]

theorem accepted_static_count (owner : Owner) (separate : Separate e rows)
    (replayed : Replayed (forExport settings e) rows last) :
    (rows.countP fun row =>
        row.owner == owner && PseudonymList.isStaticSector row.config && row.isAccepted) =
      (Export.ofOwner owner (rows.map Row.subject)).countP Export.isUsable := by
  have verdicts : ∀ row ∈ rows, (PseudonymList.isStaticSector row.config && row.isAccepted) =
      Export.isUsable row.config := by
    intro row member
    cases static : PseudonymList.isStaticSector row.config with
    | false => simp [Export.isUsable, static]
    | true =>
        have verdict := variant_row_iff row .staticSector member separate replayed (eq_of_beq static)
        simpa [Export.isUsable, static] using Bool.eq_iff_iff.mpr verdict
  rw [Export.ofOwner, List.countP_map, List.countP_filter, List.countP_map]
  apply List.countP_congr
  intro row member
  simp [Bool.and_assoc, verdicts row member, Row.subject, and_comm]

theorem stored_static_count (owner : Owner) (separate : Separate e rows)
    (replayed : Replayed (forExport settings e) rows last) :
    (last.list owner).countP PseudonymList.isStaticSector =
      (Export.ofOwner owner (rows.map Row.subject)).countP Export.isUsable := by
  have types := stored_map MapperConfig.mapperType _ _ (stored_as_type settings)
    (separate_stored owner separate replayed)
  calc (last.list owner).countP PseudonymList.isStaticSector
      = ((last.list owner).map MapperConfig.mapperType).countP (· == Variant.staticSector.mapperType) := by
        rw [List.countP_map]
        rfl
    _ = (acceptedOf owner rows).countP fun row => PseudonymList.isStaticSector row.config := by
        rw [types, List.countP_map]
        rfl
    _ = rows.countP fun row =>
          row.owner == owner && PseudonymList.isStaticSector row.config && row.isAccepted := by
        rw [acceptedOf, List.countP_filter]
        apply List.countP_congr
        intro row _
        simp [and_left_comm, and_assoc]
    _ = (Export.ofOwner owner (rows.map Row.subject)).countP Export.isUsable :=
        accepted_static_count owner separate replayed

theorem usable_eq (client : String) (subjects : rows.map Row.subject = e.saveOrder) :
    (Export.ofOwner (.client client) (rows.map Row.subject)).countP Export.isUsable = e.usable client := by
  rw [subjects, (Export.of_owner_perm _ _ _ e.save_order_perm).countP_eq, e.owned_of, Export.usable]

-- All rows that come after a list are lists, so no usable mapper is still to come.
theorem usable_before_list (row : Row) (before after : List Row) (client : String)
    (split : rows = before ++ row :: after) (subjects : rows.map Row.subject = e.saveOrder)
    (list : Export.isList row.config = true) :
    (Export.ofOwner (.client client) (before.map Row.subject)).countP Export.isUsable = e.usable client := by
  have order := e.save_order_lists_last
  rw [← subjects, split, Export.ListsLast, List.map_map, List.map_append, List.map_cons,
    List.pairwise_append, List.pairwise_cons] at order
  have remaining : (Export.ofOwner (.client client) ((row :: after).map Row.subject)).countP
      Export.isUsable = 0 := by
    rw [List.countP_eq_zero]
    intro config member usable
    rw [Export.mem_of_owner, List.mem_map] at member
    obtain ⟨other, present, same⟩ := member
    obtain rfl : other.config = config := congrArg Prod.snd same
    have later : Export.isList other.config = true := by
      rcases List.mem_cons.mp present with rfl | inAfter
      · exact list
      · exact order.2.1.1 _ (List.mem_map_of_mem inAfter) list
    rw [Export.usable_of_list other.config later] at usable
    cases usable
  rw [← usable_eq client subjects, split, List.map_append, Export.of_owner_append, List.countP_append, remaining,
    Nat.add_zero]

theorem find_static_iff_count (st : Store) (client : String) :
    (∃ found, PseudonymList.findStaticSector? st.lookup client = some found) ↔
      (st.list (.client client)).countP PseudonymList.isStaticSector = 1 := by
  rw [List.countP_eq_length_filter, List.length_eq_one_iff]
  exact exists_congr fun found => PseudonymList.find_static_stored_iff st client found

theorem row_accepted_iff (row : Row) (member : row ∈ rows) (validated : Validated settings e rows last) :
    row.isAccepted = true ↔ e.Admits row.owner row.config := by
  have separate := validated_separate settings e rows last validated
  obtain ⟨before, after, mid, fresh, split, reachedMid, decided⟩ :=
    row_decided row member separate validated.replayed
  rw [decided, Registry.check_save_iff, Export.Admits]
  refine or_congr_right (and_congr_right fun type => ?_)
  rw [PseudonymList.check_ok_iff]
  refine and_congr_right fun _ => and_congr_right fun _ => forall₂_congr fun client _ => ?_
  have separateBefore := separate_before e before (row :: after) (split ▸ separate)
  rw [find_static_iff_count, stored_static_count (.client client) separateBefore reachedMid,
    usable_before_list row before after client split validated.subjects ((Export.is_list_iff row.config).mpr type)]

theorem verdict_declared (settings : Settings) (fresh : Nat → Salt) (e : Export) (distinct : e.DistinctIds) :
    ((ofExport settings fresh e).rows.map Row.subject).Perm e.owned ∧
      (∀ row ∈ (ofExport settings fresh e).rows, row.result = "ok" ↔
        (∃ variant : Variant, row.config.mapperType = variant.mapperType ∧
          ∃ salt normalized, Mapping.normalize variant settings salt row.config = .ok normalized) ∨
        row.config.mapperType = PseudonymList.mapperType ∧ row.owner ≠ .realm ∧
          (∃ name, row.config.get? OptionKey.claimName = some name ∧ Text.isBlank name = false) ∧
          ∀ client ∈ (PseudonymList.ofConfig row.config).clients, client ∈ e.clients.keys ∧
            ((ofExport settings fresh e).rows.countP fun other => other.owner == .client client &&
              PseudonymList.isStaticSector other.config && other.result == "ok") = 1) ∧
      ∀ (other : Export) (later : Nat → Salt), other.owned.Perm e.owned →
        ∀ row ∈ (ofExport settings fresh e).rows, ∀ moved ∈ (ofExport settings later other).rows,
          moved.subject = row.subject → (moved.result = "ok" ↔ row.result = "ok") := by
  obtain ⟨last, validated, _⟩ := of_export_validated settings fresh e distinct
  refine ⟨validated.subjects ▸ e.save_order_perm, fun row member => ?_,
    fun other later perm row member moved present same => ?_⟩
  · have separate := validated_separate settings e _ last validated
    rw [row.result_ok_iff, row_accepted_iff row member validated, Export.Admits]
    refine or_congr (exists_congr fun variant => and_congr_right fun _ => ?_)
      (and_congr_right fun _ => and_congr_right fun _ =>
        and_congr (PseudonymList.claim_name_iff row.config) (forall₂_congr fun client _ => ?_))
    · constructor
      · exact fun admitted => ⟨fresh 0, (Mapping.admits_iff variant settings (fresh 0) row.config).mpr admitted⟩
      · rintro ⟨salt, normalized⟩
        exact (Mapping.admits_iff variant settings salt row.config).mp normalized
    · simp only [Row.result_ok]
      rw [accepted_static_count (.client client) separate validated.replayed, usable_eq client validated.subjects]
      exact ⟨fun usable => ⟨e.known_of_usable client usable, usable⟩, And.right⟩
  · obtain ⟨_, validatedOther, _⟩ :=
      of_export_validated settings later other (e.distinct_perm other perm distinct)
    have owner : moved.owner = row.owner := congrArg Prod.fst same
    have config : moved.config = row.config := congrArg Prod.snd same
    rw [moved.result_ok_iff, row.result_ok_iff, row_accepted_iff row member validated,
      row_accepted_iff moved present validatedOther, owner, config, e.admits_perm other perm]

def staticMapper (n : UInt8) (sector : String) : MapperConfig :=
  sampleMapper n Variant.staticSector.mapperType [(OptionKey.sector, sector)]

def listMapper (n : UInt8) (clients : String) : MapperConfig :=
  sampleMapper n PseudonymList.mapperType [(OptionKey.claimName, "ids"), (OptionKey.clients, clients)]

-- Client a lists itself, in front of its mappers, of which one is refused. Client c is not there.
def mixedExport : Export where
  realm := [staticMapper 0 "nowhere", listMapper 1 "a"]
  clients := KeyMap.ofEntries
    [("a", [listMapper 0 "a##b", staticMapper 1 "https://a.example", staticMapper 2 "nowhere"]),
      ("b", [staticMapper 0 "https://b.example", listMapper 1 "c"])]

def reorderedExport : Export where
  realm := [listMapper 1 "a", staticMapper 0 "nowhere"]
  clients := KeyMap.ofEntries
    [("a", [staticMapper 2 "nowhere", staticMapper 1 "https://a.example", listMapper 0 "a##b"]),
      ("b", [listMapper 1 "c", staticMapper 0 "https://b.example"])]

theorem mixed_export_verdicts :
    mixedExport.DistinctIds ∧ reorderedExport.owned.Perm mixedExport.owned ∧
      (ofExport {} (fun _ => sampleSalt) mixedExport).rows.map Row.result =
        ["pairwiseMalformedSectorIdentifier", "ok", "pairwiseMalformedSectorIdentifier", "ok",
          "pairwiseWrongMapperType", "ok", "pairwiseClientDoesNotExist"] ∧
      ((ofExport {} (fun _ => sampleSalt) mixedExport).rows.map Row.subject).Perm mixedExport.owned ∧
      ∀ row ∈ (ofExport {} (fun _ => sampleSalt) mixedExport).rows,
        ∀ moved ∈ (ofExport {} (fun _ => sampleSalt) reorderedExport).rows,
          moved.subject = row.subject → (moved.result = "ok" ↔ row.result = "ok") := by
  have distinct : mixedExport.DistinctIds := ⟨by decide +kernel, by decide +kernel⟩
  have perm : reorderedExport.owned.Perm mixedExport.owned := by decide +kernel
  obtain ⟨complete, _, moved⟩ := verdict_declared {} (fun _ => sampleSalt) mixedExport distinct
  exact ⟨distinct, perm, by decide +kernel, complete, moved reorderedExport (fun _ => sampleSalt) perm⟩

end Report

end PairwiseId
