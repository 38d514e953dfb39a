import PairwiseId.Proofs.Store.Steps

/- The mappers of one owner have distinct ids, whatever has been requested. So a
   saved configuration replaces at most one, and goes last if its id is new. -/
namespace PairwiseId.Store

set_option autoImplicit false

def ids (configs : List MapperConfig) : List Uuid := configs.map MapperConfig.id

theorem upsert_absent (config : MapperConfig) (configs : List MapperConfig)
    (absent : config.id ∉ ids configs) : upsert config configs = configs ++ [config] := by
  induction configs with
  | nil => rfl
  | cons c rest ih =>
      obtain ⟨different, later⟩ := not_or.mp (mt List.mem_cons.mpr absent)
      rw [upsert, if_neg (Ne.symm different), ih later, List.cons_append]

theorem ids_upsert_present (config : MapperConfig) (configs : List MapperConfig)
    (present : config.id ∈ ids configs) : ids (upsert config configs) = ids configs := by
  induction configs with
  | nil => cases present
  | cons c rest ih =>
      by_cases same : c.id = config.id
      · simp [upsert, ids, same]
      · have later : config.id ∈ ids rest := (List.mem_cons.mp present).resolve_left (Ne.symm same)
        simp only [upsert, if_neg same, ids, List.map_cons]
        exact congrArg (c.id :: ·) (ih later)

theorem mem_ids_upsert (config : MapperConfig) (configs : List MapperConfig) (id : Uuid) :
    id ∈ ids (upsert config configs) ↔ id = config.id ∨ id ∈ ids configs := by
  by_cases present : config.id ∈ ids configs
  · rw [ids_upsert_present config configs present]
    constructor
    · exact .inr
    · rintro (rfl | member)
      · exact present
      · exact member
  · simp [upsert_absent config configs present, ids, or_comm]

theorem ids_upsert_distinct (config : MapperConfig) (configs : List MapperConfig)
    (distinct : (ids configs).Nodup) : (ids (upsert config configs)).Nodup := by
  by_cases present : config.id ∈ ids configs
  · rwa [ids_upsert_present config configs present]
  · have added : ids (upsert config configs) = (ids configs).concat config.id := by
      simp [upsert_absent config configs present, ids]
    rw [added]
    exact distinct.concat present

-- What is kept does not see the saved configuration, only the one that it replaces.
theorem filter_upsert (keep : MapperConfig → Bool) (config : MapperConfig) (configs : List MapperConfig)
    (distinct : (ids configs).Nodup) (dropped : keep config = false) :
    (upsert config configs).filter keep =
      (configs.filter keep).filter fun c => c.id != config.id := by
  induction configs with
  | nil => simp [upsert, dropped]
  | cons c rest ih =>
      obtain ⟨absent, restDistinct⟩ := List.nodup_cons.mp distinct
      by_cases same : c.id = config.id
      · have others : (rest.filter keep).filter (fun c => c.id != config.id) = rest.filter keep := by
          apply List.filter_eq_self.mpr
          intro other member
          rw [bne_iff_ne]
          intro equal
          have inRest : other.id ∈ ids rest := List.mem_map_of_mem (List.mem_filter.mp member).1
          exact absent (same ▸ equal ▸ inRest)
        rw [upsert, if_pos same, List.filter_cons, dropped, List.filter_cons]
        cases keep c with
        | false => exact others.symm
        | true => simpa [same] using others.symm
      · rw [upsert, if_neg same, List.filter_cons, List.filter_cons, ih restDistinct]
        cases keep c with
        | false => rfl
        | true => simp [same]

theorem find_id_iff (configs : List MapperConfig) (id : Uuid) (config : MapperConfig)
    (distinct : (ids configs).Nodup) :
    configs.find? (fun c => c.id == id) = some config ↔ config ∈ configs ∧ config.id = id := by
  induction configs with
  | nil => simp
  | cons c rest ih =>
      obtain ⟨absent, restDistinct⟩ := List.nodup_cons.mp distinct
      by_cases same : c.id = id
      · have later : config ∈ rest → config.id ≠ id := fun member equal =>
          absent (same ▸ equal ▸ List.mem_map_of_mem member)
        constructor
        · intro found
          obtain rfl : c = config := by simpa [same] using found
          exact ⟨List.mem_cons_self, same⟩
        · rintro ⟨member, equal⟩
          rcases List.mem_cons.mp member with rfl | inRest
          · simp [same]
          · exact absurd equal (later inRest)
      · have skipped : (c.id == id) = false := beq_eq_false_iff_ne.mpr same
        rw [List.find?_cons, skipped, ih restDistinct, List.mem_cons]
        constructor
        · exact fun found => ⟨.inr found.1, found.2⟩
        · rintro ⟨rfl | inRest, equal⟩
          · exact absurd equal same
          · exact ⟨inRest, equal⟩

def DistinctIds (st : Store) : Prop := ∀ owner, (ids (st.list owner)).Nodup

theorem with_mappers_distinct (st : Store) (owner : Owner) (configs : List MapperConfig)
    (all : DistinctIds st) (distinct : (ids configs).Nodup) : DistinctIds (st.withMappers owner configs) := by
  intro other
  by_cases same : other = owner
  · subst same
    rwa [list_eq _ _ _ (mappers_with_self st other configs)]
  · rw [list_same st _ other (mappers_with_other st owner other configs same)]
    exact all other

theorem step_distinct (st : Store) (op : Op) (all : DistinctIds st) : DistinctIds (st.step op) := by
  have effect := step_effect st op
  generalize st.step op = next at effect ⊢
  have held : ∀ owner configs, st.mappers? owner = some configs → (ids configs).Nodup := by
    intro owner configs present
    rw [← list_eq st owner configs present]
    exact all owner
  cases effect with
  | unchanged op => exact all
  | created client absent => exact with_mappers_distinct st _ [] all List.nodup_nil
  | removed client =>
      intro owner
      by_cases same : owner = .client client
      · subst same
        simp [list, mappers?, KeyMap.get_erase_self, ids]
      · rw [list_same st _ owner (mappers_erase_other st client owner same)]
        exact all owner
  | saved owner config fresh configs stored present accepted =>
      exact with_mappers_distinct st owner _ all (ids_upsert_distinct stored configs (held owner configs present))
  | deleted owner id configs present =>
      exact with_mappers_distinct st owner _ all
        ((held owner configs present).sublist (List.filter_sublist.map MapperConfig.id))

theorem reached_distinct (settings : Settings) (ops : List Op) : DistinctIds (reached settings ops) :=
  (run_induction settings DistinctIds ops _ (empty_configured settings)
    (by intro owner; cases owner <;> simp [list, mappers?, empty, ids])
    fun st op _ _ => step_distinct st op).2

end PairwiseId.Store
