import PairwiseId.Proofs.Export.Owners
import PairwiseId.Proofs.Mapping.Concealed

/- Stores with one text in the place of every salt. What a save answers and leaves
   behind looks the same then, whichever salts are stored, submitted and fresh. -/
namespace PairwiseId

set_option autoImplicit false

def concealedLookup (lookup : Lookup) : Lookup := fun client =>
  (lookup client).map (List.map MapperConfig.concealed)

namespace PseudonymList

variable (lookup : Lookup) (config : MapperConfig)

theorem of_config_concealed : ofConfig config.concealed = ofConfig config := by
  simp only [ofConfig, config.non_blank_concealed OptionKey.claimName (by decide),
    config.get_concealed OptionKey.clients (by decide)]

theorem find_static_concealed (client : String) :
    findStaticSector? (concealedLookup lookup) client =
      (findStaticSector? lookup client).map MapperConfig.concealed := by
  have same : isStaticSector ∘ MapperConfig.concealed = isStaticSector := by
    funext config
    simp only [Function.comp_apply, isStaticSector, MapperConfig.concealed_type]
  cases known : lookup client with
  | none => simp [findStaticSector?, concealedLookup, known]
  | some configs =>
      simp only [findStaticSector?, concealedLookup, known, Option.map_some, Option.bind_eq_bind,
        Option.bind_some, List.filter_map, same]
      rcases configs.filter isStaticSector with _ | ⟨first, _ | ⟨second, rest⟩⟩
      · rfl
      · rfl
      · rfl

theorem check_concealed (owner : Owner) :
    check owner (concealedLookup lookup) config.concealed = check owner lookup config := by
  simp only [check, of_config_concealed, find_static_concealed, Option.isNone_map]

end PseudonymList

theorem Registry.check_save_concealed (owner : Owner) (lookup : Lookup) (settings : Settings) (fresh : Salt)
    (config : MapperConfig) :
    pairwise.checkSave ⟨owner, concealedLookup lookup, settings, Mapping.marker⟩ config.concealed =
      (pairwise.checkSave ⟨owner, lookup, settings, fresh⟩ config).map MapperConfig.concealed := by
  simp only [checkSave, MapperConfig.concealed_type]
  cases found : pairwise.get? config.mapperType with
  | none => rfl
  | some mapper =>
      rcases pairwise_get_some _ _ found with ⟨variant, _, rfl⟩ | ⟨_, rfl⟩
      · simp only [Mapper.ofVariant, Mapping.normalize_concealed variant fresh config]
        cases Mapping.normalize variant settings fresh config <;> rfl
      · simp only [Mapper.pseudonymList, PseudonymList.check_concealed]
        cases PseudonymList.check owner lookup config <;> rfl

namespace Store

def concealed (st : Store) : Store :=
  { st with
    realm := st.realm.map MapperConfig.concealed
    clients := st.clients.map (List.map MapperConfig.concealed) }

variable (st : Store) (owner : Owner)

theorem mappers_concealed :
    st.concealed.mappers? owner = (st.mappers? owner).map (List.map MapperConfig.concealed) := by
  cases owner with
  | realm => rfl
  | client id => exact KeyMap.get_map _ st.clients id

theorem get_concealed (id : Uuid) :
    st.concealed.get? owner id = (st.get? owner id).map MapperConfig.concealed := by
  have same : (fun c : MapperConfig => c.id == id) ∘ MapperConfig.concealed = fun c => c.id == id := by
    funext config
    simp only [Function.comp_apply, MapperConfig.concealed_id]
  rw [get?, get?, list, list, mappers_concealed]
  cases st.mappers? owner with
  | none => rfl
  | some configs => simp only [Option.map_some, Option.getD_some, List.find?_map, same]

theorem lookup_concealed : st.concealed.lookup = concealedLookup st.lookup := by
  funext client
  exact KeyMap.get_map _ st.clients client

theorem with_mappers_concealed (configs : List MapperConfig) :
    (st.withMappers owner configs).concealed =
      st.concealed.withMappers owner (configs.map MapperConfig.concealed) := by
  cases owner with
  | realm => rfl
  | client id => simp only [withMappers, concealed, KeyMap.map_put]

theorem upsert_concealed (config : MapperConfig) (configs : List MapperConfig) :
    (upsert config configs).map MapperConfig.concealed =
      upsert config.concealed (configs.map MapperConfig.concealed) := by
  induction configs with
  | nil => rfl
  | cons c rest ih =>
      simp only [upsert, List.map_cons, MapperConfig.concealed_id]
      split
      · rfl
      · rw [List.map_cons, ih]

-- A stored salt replaces whatever salt is submitted, and both look the same.
theorem keep_salt_concealed (stored : Option MapperConfig) (config : MapperConfig) :
    keepSalt (stored.map MapperConfig.concealed) config.concealed = (keepSalt stored config).concealed := by
  have salts : (stored.map MapperConfig.concealed).bind MapperConfig.salt? =
      (stored.bind MapperConfig.salt?).map fun _ => Export.mask := by
    cases stored with
    | none => rfl
    | some other => exact other.salt_concealed
  rw [keepSalt, keepSalt, salts]
  cases held : stored.bind MapperConfig.salt? with
  | none => rfl
  | some salt =>
      obtain ⟨other, _, read⟩ := Option.bind_eq_some_iff.mp held
      have notBlank := ((MapperConfig.salt_some other salt).mp read).2
      simp only [Option.map_some, MapperConfig.salt_concealed]
      cases submitted : config.salt? with
      | none => simp [MapperConfig.concealed_put_salt config salt notBlank]
      | some text =>
          have present := config.get_concealed_salt
          rw [submitted, if_neg (Option.some_ne_none text)] at present
          by_cases same : text = salt
          · simp [same]
          · simp [same, MapperConfig.concealed_put_salt config salt notBlank,
              MapperConfig.put_same config.concealed _ _ present]

theorem save_concealed (settings : Settings) (config : MapperConfig) (fresh : Salt)
    (configured : Configured settings st) :
    st.concealed.save owner config.concealed Mapping.marker =
      (st.save owner config fresh).map fun saved => (saved.1.concealed, saved.2.concealed) := by
  rw [save, save, mappers_concealed]
  cases st.mappers? owner with
  | none => rfl
  | some configs =>
      have checked := Registry.check_save_concealed owner st.lookup st.settings fresh
        (keepSalt (st.get? owner config.id) config)
      rw [← keep_salt_concealed, ← get_concealed, ← lookup_concealed, ← configured.registry] at checked
      dsimp only [Option.map_some]
      rw [MapperConfig.concealed_id]
      have same : st.concealed.registry = st.registry ∧ st.concealed.settings = st.settings := ⟨rfl, rfl⟩
      rw [same.1, same.2, checked]
      cases st.registry.checkSave ⟨owner, st.lookup, st.settings, fresh⟩
          (keepSalt (st.get? owner config.id) config) with
      | error refusal => rfl
      | ok stored =>
          simp only [Except.map, bind, Except.bind, pure, Except.pure, with_mappers_concealed, upsert_concealed]

end Store

end PairwiseId
