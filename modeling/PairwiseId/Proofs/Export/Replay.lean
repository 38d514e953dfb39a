import Mathlib.Data.List.Forall2
import PairwiseId.Proofs.Export.Owners
import PairwiseId.Proofs.Mapper.Saves
import PairwiseId.Proofs.Store.Salts

/- Saving the mappers of an export one after another. As long as no two accepted
   mappers of an owner have the same id, the owner ends up with exactly what was
   accepted of it, in that order. -/
namespace PairwiseId

set_option autoImplicit false

namespace Row

def subject (row : Row) : Owner × MapperConfig := (row.owner, row.config)

theorem result_ok_iff (row : Row) : row.result = "ok" ↔ row.isAccepted = true := by
  cases refused : row.refusal with
  | none => simp [result, isAccepted, refused]
  | some refusal =>
      have different : row.result ≠ "ok" := by
        simp only [result, refused]
        cases refusal with
        | invalidRequest detail => simp [Refusal.fault?, Refusal.code, Refusal.isServerError]
        | mapper fault => cases fault <;> simp [Refusal.fault?, Fault.messageKey]
      simp [different, isAccepted, refused]

theorem result_ok (row : Row) : (row.result == "ok") = row.isAccepted :=
  Bool.eq_iff_iff.mpr (beq_iff_eq.trans row.result_ok_iff)

end Row

namespace Store

theorem contents_mappers (st : Store) (owner : Owner) : st.contents.mappers? owner = st.mappers? owner := by
  cases owner <;> rfl

theorem contents_list (st : Store) (owner : Owner) : st.contents.mappers owner = st.list owner := by
  rw [Export.mappers, contents_mappers, list]

theorem save_step (st next : Store) (owner : Owner) (config stored : MapperConfig) (fresh : Salt)
    (saved : st.save owner config fresh = .ok (stored, next)) : st.step (.save owner config fresh) = next := by
  simp only [step, saved]

theorem save_configured (settings : Settings) (st next : Store) (owner : Owner) (config stored : MapperConfig)
    (fresh : Salt) (configured : Configured settings st)
    (saved : st.save owner config fresh = .ok (stored, next)) : Configured settings next := by
  rw [← save_step st next owner config stored fresh saved]
  exact step_configured settings st _ configured

end Store

namespace Report

open Store

-- A replay that begins with one store and ends with another. Proofs about it go through these
-- three cases and do not see which salts were fresh.
inductive Replayed : Store → List Row → Store → Prop where
  | done (st : Store) : Replayed st [] st
  | accepted (st next last : Store) (owner : Owner) (config stored : MapperConfig) (fresh : Salt)
      (rows : List Row) (saved : st.save owner config fresh = .ok (stored, next))
      (later : Replayed next rows last) : Replayed st (⟨owner, config, none⟩ :: rows) last
  | refused (st last : Store) (owner : Owner) (config : MapperConfig) (fresh : Salt) (refusal : Refusal)
      (rows : List Row) (failed : st.save owner config fresh = .error refusal)
      (later : Replayed st rows last) : Replayed st (⟨owner, config, some refusal⟩ :: rows) last

theorem replay_replayed (fresh : Nat → Salt) (n : Nat) (st : Store) (pairs : List (Owner × MapperConfig)) :
    Replayed st (replay fresh n st pairs).1 (replay fresh n st pairs).2 ∧
      (replay fresh n st pairs).1.map Row.subject = pairs := by
  induction pairs generalizing n st with
  | nil => exact ⟨.done st, rfl⟩
  | cons pair rest ih =>
      rcases pair with ⟨owner, config⟩
      cases saved : st.save owner config (fresh n) with
      | ok result =>
          obtain ⟨later, subjects⟩ := ih (n + 1) result.2
          simp only [replay, saved, List.map_cons, subjects]
          exact ⟨.accepted st result.2 _ owner config result.1 (fresh n) _ saved later, rfl⟩
      | error refusal =>
          obtain ⟨later, subjects⟩ := ih (n + 1) st
          simp only [replay, saved, List.map_cons, subjects]
          exact ⟨.refused st _ owner config (fresh n) refusal _ saved later, rfl⟩

theorem of_export_replayed (settings : Settings) (fresh : Nat → Salt) (e : Export) :
    ∃ last, Replayed (forExport settings e) (ofExport settings fresh e).rows last ∧
      (ofExport settings fresh e).normalized = last.contents :=
  ⟨_, (replay_replayed fresh 0 (forExport settings e) e.saveOrder).1, rfl⟩

theorem of_export_subjects (settings : Settings) (fresh : Nat → Salt) (e : Export) :
    (ofExport settings fresh e).rows.map Row.subject = e.saveOrder :=
  (replay_replayed fresh 0 (forExport settings e) e.saveOrder).2

variable {st last : Store} {rows : List Row}

theorem replayed_run (replayed : Replayed st rows last) : ∃ ops, last = st.run ops := by
  induction replayed with
  | done st => exact ⟨[], rfl⟩
  | accepted st next last owner config stored fresh rows saved later ih =>
      obtain ⟨ops, same⟩ := ih
      have first := save_step st next owner config stored fresh saved
      exact ⟨.save owner config fresh :: ops, by simp [same, run, first]⟩
  | refused st last owner config fresh refusal rows failed later ih => exact ih

theorem replayed_reached (settings : Settings) (e : Export)
    (replayed : Replayed (forExport settings e) rows last) : ∃ ops, last = reached settings ops := by
  obtain ⟨ops, same⟩ := replayed_run replayed
  rw [for_export_reached] at same
  exact ⟨e.clients.keys.map Op.createClient ++ ops, by simp [same, reached, run]⟩

theorem replayed_distinct (settings : Settings) (e : Export)
    (replayed : Replayed (forExport settings e) rows last) : DistinctIds last := by
  obtain ⟨ops, rfl⟩ := replayed_reached settings e replayed
  exact reached_distinct settings ops

theorem replayed_configured (settings : Settings) (configured : Configured settings st)
    (replayed : Replayed st rows last) : Configured settings last := by
  obtain ⟨ops, rfl⟩ := replayed_run replayed
  exact (run_induction settings (fun _ => True) ops st configured trivial fun _ _ _ _ _ => trivial).1

theorem replayed_owner (owner : Owner) (replayed : Replayed st rows last) :
    last.mappers? owner = none ↔ st.mappers? owner = none := by
  induction replayed with
  | done st => rfl
  | accepted st next last target config stored fresh rows saved later ih =>
      obtain ⟨configs, present, _, rfl⟩ := save_ok st target config fresh stored next saved
      rw [ih]
      by_cases same : owner = target
      · subst same
        simp [present, mappers_with_self]
      · rw [mappers_with_other st target owner _ same]
  | refused st last target config fresh refusal rows failed later ih => exact ih

-- The accepted mappers of one owner.
def acceptedOf (owner : Owner) (rows : List Row) : List Row :=
  rows.filter fun row => row.owner == owner && row.isAccepted

theorem accepted_of_own (owner : Owner) (config : MapperConfig) (rows : List Row) :
    acceptedOf owner (⟨owner, config, none⟩ :: rows) = ⟨owner, config, none⟩ :: acceptedOf owner rows := by
  simp [acceptedOf, Row.isAccepted]

theorem accepted_of_other (owner : Owner) (row : Row) (rows : List Row) (different : row.owner ≠ owner) :
    acceptedOf owner (row :: rows) = acceptedOf owner rows := by
  simp [acceptedOf, different]

theorem accepted_of_refused (owner target : Owner) (config : MapperConfig) (refusal : Refusal) (rows : List Row) :
    acceptedOf owner (⟨target, config, some refusal⟩ :: rows) = acceptedOf owner rows := by
  simp [acceptedOf, Row.isAccepted]

def rowIds (rows : List Row) : List Uuid := rows.map fun row => row.config.id

-- A configuration that the save of a row may have stored. The clients that it looked at are
-- left open.
def StoredAs (settings : Settings) (row : Row) (stored : MapperConfig) : Prop :=
  ∃ lookup fresh, Registry.pairwise.checkSave ⟨row.owner, lookup, settings, fresh⟩ row.config = .ok stored

theorem stored_map {A : Type} {R : Row → MapperConfig → Prop} (f : MapperConfig → A) (g : Row → A)
    (stored : List MapperConfig) (kept : ∀ row config, R row config → f config = g row)
    (matching : List.Forall₂ R rows stored) : stored.map f = rows.map g := by
  induction matching with
  | nil => rfl
  | cons related _ ih => rw [List.map_cons, List.map_cons, kept _ _ related, ih]

theorem matched_of_mem {A B : Type} {R : A → B → Prop} {as : List A} (bs : List B) (b : B)
    (matching : List.Forall₂ R as bs) (member : b ∈ bs) : ∃ a ∈ as, R a b := by
  induction matching with
  | nil => cases member
  | cons related _ ih =>
      rcases List.mem_cons.mp member with rfl | inRest
      · exact ⟨_, List.mem_cons_self, related⟩
      · obtain ⟨a, present, found⟩ := ih inRest
        exact ⟨a, List.mem_cons_of_mem _ present, found⟩

theorem stored_as_id (settings : Settings) (row : Row) (config : MapperConfig)
    (storedAs : StoredAs settings row config) : config.id = row.config.id := by
  obtain ⟨lookup, fresh, accepted⟩ := storedAs
  exact Registry.check_save_id _ _ config accepted

theorem stored_as_type (settings : Settings) (row : Row) (config : MapperConfig)
    (storedAs : StoredAs settings row config) : config.mapperType = row.config.mapperType := by
  obtain ⟨lookup, fresh, accepted⟩ := storedAs
  exact Registry.check_save_type _ _ config accepted

theorem get_absent (st : Store) (owner : Owner) (id : Uuid) (absent : id ∉ ids (st.list owner)) :
    st.get? owner id = none := by
  rw [get?, List.find?_eq_none]
  intro config member same
  exact absent (eq_of_beq same ▸ List.mem_map_of_mem member)

-- With an id that is new to its owner there is no stored salt and nothing to replace.
theorem save_absent_iff (settings : Settings) (st : Store) (owner : Owner) (config : MapperConfig)
    (fresh : Salt) (configured : Configured settings st) (absent : config.id ∉ ids (st.list owner))
    (known : st.mappers? owner ≠ none) :
    (∃ result, st.save owner config fresh = .ok result) ↔
      ∃ stored, Registry.pairwise.checkSave ⟨owner, st.lookup, settings, fresh⟩ config = .ok stored := by
  cases present : st.mappers? owner with
  | none => exact absurd present known
  | some configs =>
      simp only [save, present, get_absent st owner config.id absent, configured.registry,
        configured.settings, bind_ok, pure, Except.pure, Except.ok.injEq]
      constructor
      · rintro ⟨_, stored, accepted, _⟩
        exact ⟨stored, accepted⟩
      · rintro ⟨stored, accepted⟩
        exact ⟨_, stored, accepted, rfl⟩

theorem save_absent (settings : Settings) (st next : Store) (owner : Owner) (config stored : MapperConfig)
    (fresh : Salt) (configured : Configured settings st) (absent : config.id ∉ ids (st.list owner))
    (saved : st.save owner config fresh = .ok (stored, next)) :
    StoredAs settings ⟨owner, config, none⟩ stored ∧ stored.id = config.id ∧
      next = st.withMappers owner (st.list owner ++ [stored]) := by
  obtain ⟨configs, present, accepted, rfl⟩ := save_ok st owner config fresh stored next saved
  rw [get_absent st owner config.id absent, configured.registry, configured.settings] at accepted
  have sameId : stored.id = config.id := Registry.check_save_id _ config stored accepted
  refine ⟨⟨st.lookup, fresh, accepted⟩, sameId, ?_⟩
  rw [list_eq st owner configs present] at absent ⊢
  rw [upsert_absent stored configs (sameId ▸ absent)]

theorem replayed_appends (settings : Settings) (owner : Owner) (configured : Configured settings st)
    (replayed : Replayed st rows last)
    (distinct : (ids (st.list owner) ++ rowIds (acceptedOf owner rows)).Nodup) :
    ∃ stored, last.list owner = st.list owner ++ stored ∧
      List.Forall₂ (StoredAs settings) (acceptedOf owner rows) stored := by
  induction replayed with
  | done st => exact ⟨[], by simp, .nil⟩
  | accepted st next last target config stored fresh rows saved later ih =>
      have nextConfigured := save_configured settings st next target config stored fresh configured saved
      by_cases same : target = owner
      · subst same
        rw [accepted_of_own, rowIds, List.map_cons] at distinct
        rw [accepted_of_own]
        have absent : config.id ∉ ids (st.list target) := fun present =>
          (List.disjoint_of_nodup_append distinct) present List.mem_cons_self
        obtain ⟨storedAs, sameId, rfl⟩ := save_absent settings st next target config stored fresh configured
          absent saved
        have extended := list_eq _ _ _ (mappers_with_self st target (st.list target ++ [stored]))
        rw [extended] at ih
        obtain ⟨others, listed, matching⟩ := ih nextConfigured (by
          simpa [ids, rowIds, sameId] using distinct)
        exact ⟨stored :: others, by simp [listed], .cons storedAs matching⟩
      · obtain ⟨configs, _, _, rfl⟩ := save_ok st target config fresh stored next saved
        have unchanged := list_same st _ owner (mappers_with_other st target owner (upsert stored configs)
          (Ne.symm same))
        rw [accepted_of_other owner _ rows same] at distinct ⊢
        rw [unchanged] at ih
        exact ih nextConfigured distinct
  | refused st last target config fresh refusal rows failed later ih =>
      rw [accepted_of_refused] at distinct ⊢
      exact ih configured distinct

theorem for_export_configured (settings : Settings) (e : Export) :
    Configured settings (forExport settings e) := by
  rw [for_export_reached]
  exact reached_configured settings _

theorem for_export_list (settings : Settings) (e : Export) (owner : Owner) :
    (forExport settings e).list owner = [] := by
  rw [list, for_export_mappers]
  cases e.mappers? owner <;> rfl

theorem accepted_stored (settings : Settings) (e : Export) (owner : Owner)
    (replayed : Replayed (forExport settings e) rows last)
    (distinct : (rowIds (acceptedOf owner rows)).Nodup) :
    List.Forall₂ (StoredAs settings) (acceptedOf owner rows) (last.list owner) := by
  have new : (ids ((forExport settings e).list owner) ++ rowIds (acceptedOf owner rows)).Nodup := by
    simpa [for_export_list, ids] using distinct
  obtain ⟨stored, listed, matching⟩ :=
    replayed_appends settings owner (for_export_configured settings e) replayed new
  rw [for_export_list, List.nil_append] at listed
  rwa [listed]

-- Each row was decided by the save that came after those of the rows before it.
theorem replayed_visit (replayed : Replayed st rows last) (row : Row) (member : row ∈ rows) :
    ∃ before after mid fresh, rows = before ++ row :: after ∧ Replayed st before mid ∧
      (row.isAccepted = true ↔ ∃ result, mid.save row.owner row.config fresh = .ok result) := by
  induction replayed with
  | done st => cases member
  | accepted st next last owner config stored fresh rows saved later ih =>
      rcases List.mem_cons.mp member with rfl | inRest
      · exact ⟨[], rows, st, fresh, rfl, .done st, by simp [Row.isAccepted, saved]⟩
      · obtain ⟨before, after, mid, salt, split, reachedMid, decided⟩ := ih inRest
        exact ⟨_ :: before, after, mid, salt, by rw [split, List.cons_append],
          .accepted st next mid owner config stored fresh before saved reachedMid, decided⟩
  | refused st last owner config fresh refusal rows failed later ih =>
      rcases List.mem_cons.mp member with rfl | inRest
      · exact ⟨[], rows, st, fresh, rfl, .done st, by simp [Row.isAccepted, failed]⟩
      · obtain ⟨before, after, mid, salt, split, reachedMid, decided⟩ := ih inRest
        exact ⟨_ :: before, after, mid, salt, by rw [split, List.cons_append],
          .refused st mid owner config fresh refusal before failed reachedMid, decided⟩

end Report

end PairwiseId
