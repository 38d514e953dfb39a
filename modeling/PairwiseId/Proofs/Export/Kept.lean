import Mathlib.Data.List.Perm.Subperm
import PairwiseId.Proofs.Export.Replay

/- What becomes of the mappers that a validation accepts. The store has one place
   for each id of an owner, so the second mapper of an id takes the place of the
   first one, and both have been accepted. -/
namespace PairwiseId

set_option autoImplicit false

namespace Report

open Store

def okRows (report : Report) (owner : Owner) : List Row :=
  report.rows.filter fun row => row.owner == owner && row.result == "ok"

-- A stored configuration that is still the accepted one. Only options may differ, and of these
-- no salt that was there.
structure Kept (config stored : MapperConfig) : Prop where
  id : stored.id = config.id
  name : stored.name = config.name
  mapperType : stored.mapperType = config.mapperType
  salt : ∀ salt, config.get? OptionKey.salt = some salt → Text.isBlank salt = false →
    stored.get? OptionKey.salt = some salt

def Lossless (report : Report) (owner : Owner) : Prop :=
  (report.normalized.mappers owner).length = (report.okRows owner).length ∧
    ∀ row ∈ report.okRows owner, ∃ stored ∈ report.normalized.mappers owner, Kept row.config stored

theorem ok_rows_eq (report : Report) (owner : Owner) : report.okRows owner = acceptedOf owner report.rows := by
  simp only [okRows, acceptedOf, Row.result_ok]

theorem stored_as_kept (settings : Settings) (row : Row) (config : MapperConfig)
    (storedAs : StoredAs settings row config) : Kept row.config config := by
  obtain ⟨lookup, fresh, accepted⟩ := storedAs
  refine ⟨Registry.check_save_id _ _ config accepted, Registry.check_save_name _ _ config accepted,
    Registry.check_save_type _ _ config accepted, fun salt present notBlank => ?_⟩
  have salted := (MapperConfig.salt_some row.config salt).mpr ⟨present, notBlank⟩
  have kept := Registry.check_save_keeps_salt _ row.config config salt salted accepted
  exact ((MapperConfig.salt_some config salt).mp kept).1

variable {st last : Store} {rows : List Row}

-- Whatever was replaced on the way, its id has stayed.
theorem replayed_ids (settings : Settings) (owner : Owner) (id : Uuid) (configured : Configured settings st)
    (replayed : Replayed st rows last) :
    id ∈ ids (last.list owner) ↔ id ∈ ids (st.list owner) ∨ id ∈ rowIds (acceptedOf owner rows) := by
  induction replayed with
  | done st => simp [acceptedOf, rowIds]
  | accepted st next last target config stored fresh rows saved later ih =>
      rw [ih (save_configured settings st next target config stored fresh configured saved)]
      obtain ⟨configs, present, accepted, rfl⟩ := save_ok st target config fresh stored next saved
      rw [configured.registry] at accepted
      have sameId : stored.id = config.id :=
        (Registry.check_save_id _ _ stored accepted).trans (keep_salt_id _ config)
      by_cases same : target = owner
      · subst same
        rw [list_eq _ _ _ (mappers_with_self st target _), mem_ids_upsert, list_eq st target configs present,
          accepted_of_own, rowIds, rowIds, List.map_cons, List.mem_cons, sameId, or_assoc, or_left_comm]
      · rw [list_same st _ owner (mappers_with_other st target owner _ (Ne.symm same)),
          accepted_of_other owner _ rows same]
  | refused st last target config fresh refusal rows failed later ih =>
      rw [ih configured, accepted_of_refused]

-- The stored ids are those of the accepted rows, each once. As many as rows means no repetition.
theorem distinct_of_length (settings : Settings) (e : Export) (owner : Owner)
    (replayed : Replayed (forExport settings e) rows last)
    (complete : (last.list owner).length = (acceptedOf owner rows).length) :
    (rowIds (acceptedOf owner rows)).Nodup := by
  have distinct := replayed_distinct settings e replayed owner
  have subset : ids (last.list owner) ⊆ rowIds (acceptedOf owner rows) := by
    intro id member
    have configured := for_export_configured settings e
    simpa [for_export_list, ids] using (replayed_ids settings owner id configured replayed).mp member
  have perm := (List.subperm_of_subset distinct subset).perm_of_length_le (by
    rw [ids, rowIds, List.length_map, List.length_map, complete])
  exact perm.nodup_iff.mp distinct

theorem lossless_iff (settings : Settings) (fresh : Nat → Salt) (e : Export) (owner : Owner) :
    (ofExport settings fresh e).Lossless owner ↔
      (rowIds ((ofExport settings fresh e).okRows owner)).Nodup := by
  obtain ⟨last, replayed, normalized⟩ := of_export_replayed settings fresh e
  rw [Lossless, ok_rows_eq, normalized, contents_list]
  constructor
  · rintro ⟨complete, _⟩
    exact distinct_of_length settings e owner replayed complete
  · intro distinct
    have matching := accepted_stored settings e owner replayed distinct
    refine ⟨matching.length_eq.symm, fun row accepted => ?_⟩
    obtain ⟨stored, present, storedAs⟩ := matched_of_mem _ row matching.flip accepted
    exact ⟨stored, present, stored_as_kept settings row stored storedAs⟩

-- Two mappers of the realm with one id.
def repeatedExport : Export where
  realm :=
    [sampleMapper 0 Variant.simpleSector.mapperType [sampleSector],
      sampleMapper 0 Variant.email.mapperType [sampleSector]]

theorem repeated_id_loses_mapper :
    ¬ ∀ (settings : Settings) (fresh : Nat → Salt) (e : Export) (owner : Owner),
      (ofExport settings fresh e).Lossless owner := by
  intro lossless
  have counts : ((ofExport {} (fun _ => sampleSalt) repeatedExport).okRows .realm).length = 2 ∧
      ((ofExport {} (fun _ => sampleSalt) repeatedExport).normalized.mappers .realm).length = 1 := by
    decide +kernel
  have same := (lossless {} (fun _ => sampleSalt) repeatedExport .realm).1
  omega

end Report

end PairwiseId
