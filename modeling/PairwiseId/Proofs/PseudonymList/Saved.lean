import PairwiseId.Proofs.Mapper.Saves
import PairwiseId.Proofs.PseudonymList.Fidelity
import PairwiseId.Proofs.Store.Ids
import PairwiseId.Proofs.Store.Salts

/- A list is checked against the mappers that are stored before it. Its save then
   takes the place of the mapper with its id, and that can be the very mapper of
   its own client that the list relies on. -/
namespace PairwiseId.PseudonymList

set_option autoImplicit false

open Store

theorem find_static_stored_iff (st : Store) (client : String) (config : MapperConfig) :
    findStaticSector? st.lookup client = some config ↔
      (st.list (.client client)).filter isStaticSector = [config] := by
  constructor
  · intro found
    obtain ⟨configs, known, single⟩ := (find_static_some st.lookup client config).mp found
    rwa [list_eq st (.client client) configs known]
  · exact find_static_stored st client config

theorem not_static_of_list (config : MapperConfig) (list : config.mapperType = mapperType) :
    isStaticSector config = false :=
  beq_eq_false_iff_ne.mpr fun same => Variant.staticSector.mapper_type_not_list (same.symm.trans list)

theorem save_list_ok (st : Store) (owner : Owner) (config : MapperConfig) (fresh : Salt)
    (stored : MapperConfig) (next : Store) (registry : st.registry = .pairwise)
    (list : config.mapperType = mapperType)
    (done : st.save owner config fresh = .ok (stored, next)) :
    ∃ configs, st.mappers? owner = some configs ∧ stored.id = config.id ∧ stored.mapperType = mapperType ∧
      next = st.withMappers owner (upsert stored configs) ∧
      ∀ client ∈ (ofConfig stored).clients, ∃ mapper,
        (st.list (.client client)).filter isStaticSector = [mapper] := by
  obtain ⟨configs, present, accepted, rfl⟩ := save_ok st owner config fresh stored next done
  rw [registry] at accepted
  have type := (keep_salt_type (st.get? owner config.id) config).trans list
  have checked := (Registry.check_save_list_iff _ _ type).mp ⟨stored, accepted⟩
  rw [Registry.check_save_list _ _ type checked] at accepted
  obtain rfl := Except.ok.inj accepted
  refine ⟨configs, present, keep_salt_id _ config, type, rfl, fun client listed => ?_⟩
  obtain ⟨mapper, found⟩ := ((check_ok_iff _ _ _).mp checked).2.2 client listed
  exact ⟨mapper, (find_static_stored_iff st client mapper).mp found⟩

-- Other clients are not touched, and of its own client the save takes away at most the one
-- static-sector mapper, if that has the id of the list.
theorem saved_list_static (st : Store) (owner : Owner) (config : MapperConfig) (fresh : Salt)
    (stored : MapperConfig) (next : Store) (registry : st.registry = .pairwise) (distinct : DistinctIds st)
    (list : config.mapperType = mapperType) (done : st.save owner config fresh = .ok (stored, next))
    (client : String) (listed : client ∈ (ofConfig stored).clients) :
    ∃ mapper, (st.list (.client client)).filter isStaticSector = [mapper] ∧
      (next.list (.client client)).filter isStaticSector =
        if owner = .client client ∧ mapper.id = config.id then [] else [mapper] := by
  obtain ⟨configs, present, sameId, type, rfl, usable⟩ :=
    save_list_ok st owner config fresh stored next registry list done
  obtain ⟨mapper, single⟩ := usable client listed
  refine ⟨mapper, single, ?_⟩
  by_cases own : owner = .client client
  · subst own
    have before := list_eq st (.client client) configs present
    rw [before] at single
    have idsDistinct : (ids configs).Nodup := before ▸ distinct (.client client)
    rw [list_eq _ _ _ (mappers_with_self st (.client client) _),
      filter_upsert isStaticSector stored configs idsDistinct (not_static_of_list stored type), single, sameId]
    by_cases replaced : mapper.id = config.id
    · simp [replaced]
    · simp [replaced]
  · rw [list_same st _ _ (mappers_with_other st owner (.client client) _ (Ne.symm own)), single,
      if_neg fun both => own both.1]

theorem saved_list_usable_iff (settings : Settings) (ops : List Op) (owner : Owner) (config : MapperConfig)
    (fresh : Salt) (stored : MapperConfig) (next : Store) (client : String)
    (list : config.mapperType = mapperType)
    (done : (reached settings ops).save owner config fresh = .ok (stored, next))
    (listed : client ∈ (ofConfig stored).clients) :
    (∃ configs mapper, next.mappers? (.client client) = some configs ∧
        configs.filter isStaticSector = [mapper] ∧ findStaticSector? next.lookup client = some mapper) ↔
      ¬ (owner = .client client ∧ ∃ replaced, (reached settings ops).get? owner config.id = some replaced ∧
        isStaticSector replaced = true) := by
  have distinct := reached_distinct settings ops
  obtain ⟨mapper, single, after⟩ := saved_list_static (reached settings ops) owner config fresh stored next
    (reached_configured settings ops).registry distinct list done client listed
  have own := single_mem _ mapper single
  have replaces : (owner = .client client ∧ ∃ replaced,
      (reached settings ops).get? owner config.id = some replaced ∧ isStaticSector replaced = true) ↔
        owner = .client client ∧ mapper.id = config.id := by
    refine and_congr_right fun same => ?_
    subst same
    constructor
    · rintro ⟨replaced, found, static⟩
      obtain ⟨member, sameId⟩ := (find_id_iff _ _ replaced (distinct _)).mp found
      have only : replaced ∈ [mapper] := single ▸ List.mem_filter.mpr ⟨member, static⟩
      rw [← List.mem_singleton.mp only, sameId]
    · intro sameId
      exact ⟨mapper, (find_id_iff _ _ mapper (distinct _)).mpr ⟨own.1, sameId⟩, own.2⟩
  rw [replaces]
  constructor
  · rintro ⟨configs, found, present, kept, _⟩ both
    rw [← list_eq next _ configs present, after, if_pos both] at kept
    cases kept
  · intro kept
    rw [if_neg kept] at after
    have found := (find_static_stored_iff next client mapper).mpr after
    obtain ⟨configs, known, filtered⟩ := (find_static_some next.lookup client mapper).mp found
    exact ⟨configs, mapper, known, filtered, found⟩

-- The clients of the list that a save returns, if it returns one.
def savedClients? (st : Store) (owner : Owner) (config : MapperConfig) (fresh : Salt) : Option (List String) :=
  (st.save owner config fresh).toOption.map fun result => (ofConfig result.1).clients

theorem saved_clients_some (st : Store) (owner : Owner) (config : MapperConfig) (fresh : Salt)
    (clients : List String) (saved : savedClients? st owner config fresh = some clients) :
    ∃ stored next, st.save owner config fresh = .ok (stored, next) ∧ (ofConfig stored).clients = clients := by
  obtain ⟨⟨stored, next⟩, done, same⟩ := Option.map_eq_some_iff.mp saved
  exact ⟨stored, next, to_option_ok _ _ done, same⟩

def listingSetup : List Op :=
  [.createClient "a",
    .save (.client "a") (sampleMapper 0 Variant.staticSector.mapperType [sampleSector]) sampleSalt,
    .save (.client "a") (sampleMapper 1 Variant.email.mapperType [sampleSector]) sampleSalt]

-- A list of its own client, in the place of whatever has this id.
def ownList (n : UInt8) : MapperConfig :=
  sampleMapper n mapperType [(OptionKey.claimName, "ids"), (OptionKey.clients, "a")]

theorem list_over_email_usable :
    ∃ stored next, (ownList 1).mapperType = mapperType ∧
      (reached {} listingSetup).save (.client "a") (ownList 1) sampleSalt = .ok (stored, next) ∧
      "a" ∈ (ofConfig stored).clients ∧
      ∃ configs mapper, next.mappers? (.client "a") = some configs ∧
        configs.filter isStaticSector = [mapper] ∧ findStaticSector? next.lookup "a" = some mapper := by
  obtain ⟨saved, notStatic⟩ :
      savedClients? (reached {} listingSetup) (.client "a") (ownList 1) sampleSalt = some ["a"] ∧
        ((reached {} listingSetup).get? (.client "a") (sampleId 1)).all (!isStaticSector ·) = true := by
    decide +kernel
  obtain ⟨stored, next, done, clients⟩ := saved_clients_some _ _ _ _ _ saved
  have listed : "a" ∈ (ofConfig stored).clients := by simp [clients]
  refine ⟨stored, next, rfl, done, listed,
    (saved_list_usable_iff {} listingSetup _ (ownList 1) _ stored next "a" rfl done listed).mpr ?_⟩
  rintro ⟨_, replaced, found, static⟩
  have other : (ownList 1).id = sampleId 1 := rfl
  rw [other] at found
  simp [found, static] at notStatic

theorem list_replaces_listed_mapper :
    ¬ ∀ (settings : Settings) (ops : List Op) (owner : Owner) (config : MapperConfig) (fresh : Salt)
        (stored : MapperConfig) (next : Store),
      config.mapperType = mapperType →
      (reached settings ops).save owner config fresh = .ok (stored, next) →
      ∀ client ∈ (ofConfig stored).clients, ∃ configs mapper, next.mappers? (.client client) = some configs ∧
        configs.filter isStaticSector = [mapper] ∧ findStaticSector? next.lookup client = some mapper := by
  intro valid
  obtain ⟨saved, gone⟩ :
      savedClients? (reached {} listingSetup) (.client "a") (ownList 0) sampleSalt = some ["a"] ∧
        (((reached {} listingSetup).step (.save (.client "a") (ownList 0) sampleSalt)).list (.client "a")).all
          (!isStaticSector ·) = true := by
    decide +kernel
  obtain ⟨stored, next, done, clients⟩ := saved_clients_some _ _ _ _ _ saved
  obtain ⟨configs, mapper, present, single, _⟩ := valid {} listingSetup _ (ownList 0) _ stored next rfl done "a"
    (by simp [clients])
  simp only [step, done, list_eq next _ configs present, List.all_eq_true] at gone
  have own := single_mem configs mapper single
  simpa [own.2] using gone mapper own.1

end PairwiseId.PseudonymList
