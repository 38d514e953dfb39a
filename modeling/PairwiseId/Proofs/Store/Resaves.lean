import PairwiseId.Proofs.Mapper.Saves
import PairwiseId.Proofs.Store.Ids
import PairwiseId.Proofs.Store.Salts
import PairwiseId.Proofs.Store.Issuance

/- A stored mapper that is saved again stays what it is, and so does the store, whatever is
   submitted for its salt: the stored salt comes back first, and all that is left to a save has
   been done by the one before. -/
namespace PairwiseId

set_option autoImplicit false

namespace MapperConfig

-- The configuration with an option replaced or, without a text for it, removed.
def withOption (config : MapperConfig) (key : String) : Option String → MapperConfig
  | some value => config.put key value
  | none => { config with options := config.options.erase key }

variable (config : MapperConfig) (key value : String) (other : Option String)

@[simp] theorem with_option_id : (config.withOption key other).id = config.id := by
  cases other <;> rfl

theorem with_option_put : (config.withOption key other).put key value = config.put key value := by
  cases other with
  | some text => exact congrArg (MapperConfig.mk _ _ _ _) (KeyMap.put_put_same config.options key text value)
  | none =>
      refine congrArg (MapperConfig.mk _ _ _ _) (KeyMap.ext_get _ _ fun k => ?_)
      rw [KeyMap.get_put, KeyMap.get_put]
      by_cases same : k = key
      · simp [same]
      · rw [if_neg same, if_neg same]
        exact KeyMap.get_erase_other config.options key k same

end MapperConfig

namespace Store

theorem with_mappers_same (st : Store) (owner : Owner) (configs : List MapperConfig)
    (present : st.mappers? owner = some configs) : st.withMappers owner configs = st := by
  cases owner with
  | realm =>
      obtain rfl : st.realm = configs := Option.some.inj present
      rfl
  | client id => simp only [withMappers, KeyMap.put_same st.clients id configs present]

theorem upsert_same (config : MapperConfig) (configs : List MapperConfig) (distinct : (ids configs).Nodup)
    (member : config ∈ configs) : upsert config configs = configs := by
  induction configs with
  | nil => cases member
  | cons c rest ih =>
      obtain ⟨absent, restDistinct⟩ := List.nodup_cons.mp distinct
      rcases List.mem_cons.mp member with rfl | later
      · rw [upsert, if_pos rfl]
      · have different : c.id ≠ config.id := fun same => absent (same ▸ List.mem_map_of_mem later)
        rw [upsert, if_neg different, ih restDistinct later]

-- With a salt in the store it does not matter which one is submitted.
theorem keep_salt_put (stored config : MapperConfig) (salt : String) (salted : stored.salt? = some salt) :
    keepSalt (some stored) config = config.put OptionKey.salt salt := by
  simp only [keepSalt, Option.bind_some, salted]
  split
  · rename_i same
    exact (MapperConfig.put_same config _ salt ((MapperConfig.salt_some config salt).mp same).1).symm
  · rfl

theorem keep_salt_same (config : MapperConfig) : keepSalt (some config) config = config := by
  cases salted : config.salt? with
  | none => simp only [keepSalt, Option.bind_some, salted]
  | some salt =>
      rw [keep_salt_put config config salt salted]
      exact MapperConfig.put_same config _ salt ((MapperConfig.salt_some config salt).mp salted).1

theorem keep_salt_restores (config : MapperConfig) (salt : String) (submitted : Option String)
    (salted : config.salt? = some salt) :
    keepSalt (some config) (config.withOption OptionKey.salt submitted) = config := by
  rw [keep_salt_put config _ salt salted, MapperConfig.with_option_put]
  exact MapperConfig.put_same config _ salt ((MapperConfig.salt_some config salt).mp salted).1

-- What an administrator submits who edits nothing, or nothing but the salt of a salted mapper.
inductive Resubmission (variant : Variant) (config : MapperConfig) : MapperConfig → Prop where
  | asStored : Resubmission variant config config
  | resalted (salted : variant.isSalted = true) (salt : Option String) :
      Resubmission variant config (config.withOption OptionKey.salt salt)

theorem resubmission_id (variant : Variant) (config submitted : MapperConfig)
    (again : Resubmission variant config submitted) : submitted.id = config.id := by
  cases again with
  | asStored => rfl
  | resalted salted salt => exact config.with_option_id _ salt

theorem salted_of_read (variant : Variant) (config : MapperConfig) (mapping : Mapping)
    (read : Mapping.ofConfig variant config = .ok mapping) (salted : variant.isSalted = true) :
    ∃ salt, config.salt? = some salt := by
  cases Mapping.of_config_reads variant config mapping read with
  | staticSector d parsed => exact ⟨d.salt, (SaltedDerivation.of_config_ok config d parsed).1⟩
  | email d parsed => exact ⟨d.salt, (SaltedDerivation.of_config_ok config d parsed).1⟩
  | simpleSector d parsed => cases salted
  | namedClaim d parsed claimName named => cases salted

theorem resubmission_restored (variant : Variant) (config submitted : MapperConfig) (mapping : Mapping)
    (read : Mapping.ofConfig variant config = .ok mapping) (again : Resubmission variant config submitted) :
    keepSalt (some config) submitted = config := by
  cases again with
  | asStored => exact keep_salt_same config
  | resalted salted submittedSalt =>
      obtain ⟨salt, present⟩ := salted_of_read variant config mapping read salted
      exact keep_salt_restores config salt submittedSalt present

-- A stored mapper has passed a check, and passes it again under any clients and any fresh salt.
theorem accepted_again (settings : Settings) (owner : Owner) (config : MapperConfig) (variant : Variant)
    (lookup : Lookup) (fresh : Salt) (accepted : Accepted settings owner config)
    (type : config.mapperType = variant.mapperType) :
    Registry.pairwise.checkSave ⟨owner, lookup, settings, fresh⟩ config = .ok config := by
  obtain ⟨view, salt, submitted, passed⟩ := accepted
  have normalized := Registry.check_save_normalized _ submitted variant config type passed
  rw [Registry.check_save_variant _ config variant type,
    Mapping.normalize_settled variant settings settings salt fresh submitted config normalized]
  rfl

theorem save_same (st : Store) (owner : Owner) (config submitted : MapperConfig) (fresh : Salt)
    (distinct : DistinctIds st) (stored : config ∈ st.list owner) (sameId : submitted.id = config.id)
    (restored : keepSalt (some config) submitted = config)
    (passes : st.registry.checkSave ⟨owner, st.lookup, st.settings, fresh⟩ config = .ok config) :
    st.save owner submitted fresh = .ok (config, st) := by
  cases present : st.mappers? owner with
  | none => simp [list, present] at stored
  | some configs =>
      have found : st.get? owner submitted.id = some config :=
        (find_id_iff _ _ config (distinct owner)).mpr ⟨stored, sameId.symm⟩
      rw [list_eq st owner configs present] at stored
      have kept := upsert_same config configs (list_eq st owner configs present ▸ distinct owner) stored
      simp only [save, present, found, restored, passes, bind, Except.bind, pure, Except.pure, kept,
        with_mappers_same st owner configs present]

theorem resaves_change_nothing (settings : Settings) (ops : List Op) (owner : Owner)
    (config submitted : MapperConfig) (variant : Variant) (fresh : Salt)
    (stored : config ∈ (reached settings ops).list owner) (type : config.mapperType = variant.mapperType)
    (again : Resubmission variant config submitted) :
    (reached settings ops).save owner submitted fresh = .ok (config, reached settings ops) ∧
      (∀ (other : Owner) (s : Surface) (user : Option User) (client : Option String) (claims : s.Claims),
        ((reached settings ops).step (.save owner submitted fresh)).issue other s user client claims =
          (reached settings ops).issue other s user client claims) ∧
      ∀ (list : PseudonymList) (user : User),
        list.pseudonyms ((reached settings ops).step (.save owner submitted fresh)).lookup user =
          list.pseudonyms (reached settings ops).lookup user := by
  obtain ⟨mapping, read⟩ := reached_maps settings ops owner config variant stored type
  have configured := reached_configured settings ops
  have passes : (reached settings ops).registry.checkSave
      ⟨owner, (reached settings ops).lookup, (reached settings ops).settings, fresh⟩ config = .ok config := by
    rw [configured.registry, configured.settings]
    exact accepted_again settings owner config variant _ fresh (reached_accepted settings ops owner config stored) type
  have saved := save_same (reached settings ops) owner config submitted fresh (reached_distinct settings ops) stored
    (resubmission_id variant config submitted again)
    (resubmission_restored variant config submitted mapping read again) passes
  have unchanged : (reached settings ops).step (.save owner submitted fresh) = reached settings ops := by
    rw [step, saved]
  exact ⟨saved, fun other s user client claims => by rw [unchanged], fun list user => by rw [unchanged]⟩

-- The padded salt has moved from the static-sector mapper on to the email mapper.
def retypedSetup : List Op :=
  paddedSetup ++ [.save (.client "a")
    (sampleMapper 0 Variant.email.mapperType
      [(OptionKey.salt, "\u00a0"), sampleSector, (OptionKey.algorithm, " hmacsha3-256 ")]) sampleSalt]

def retypedMapper : MapperConfig :=
  sampleMapper 0 Variant.email.mapperType
    [(OptionKey.salt, " s "), sampleSector, (OptionKey.algorithm, Algorithm.sha3_256.name)]

theorem retyped_mapper_resaved :
    retypedMapper ∈ (reached {} retypedSetup).list (.client "a") ∧
      retypedMapper.mapperType = Variant.email.mapperType ∧
      Resubmission .email retypedMapper (retypedMapper.withOption OptionKey.salt none) ∧
      Resubmission .email retypedMapper (retypedMapper.withOption OptionKey.salt (some "s")) ∧
      (reached {} retypedSetup).save (.client "a") (retypedMapper.withOption OptionKey.salt none) sampleSalt =
        .ok (retypedMapper, reached {} retypedSetup) ∧
      (reached {} retypedSetup).save (.client "a") (retypedMapper.withOption OptionKey.salt (some "s")) sampleSalt =
        .ok (retypedMapper, reached {} retypedSetup) := by
  have stored : retypedMapper ∈ (reached {} retypedSetup).list (.client "a") := by decide +kernel
  have removed : Resubmission .email retypedMapper (retypedMapper.withOption OptionKey.salt none) :=
    .resalted rfl none
  have trimmed : Resubmission .email retypedMapper (retypedMapper.withOption OptionKey.salt (some "s")) :=
    .resalted rfl (some "s")
  exact ⟨stored, rfl, removed, trimmed,
    (resaves_change_nothing {} retypedSetup _ _ _ .email sampleSalt stored rfl removed).1,
    (resaves_change_nothing {} retypedSetup _ _ _ .email sampleSalt stored rfl trimmed).1⟩

end Store

end PairwiseId
