import PairwiseId.Proofs.Store.Steps

/- Salts are write-once. Whatever a later save of the same configuration submits,
   only its deletion, or that of its owner, takes the stored salt away. -/
namespace PairwiseId.Store

set_option autoImplicit false

theorem find_upsert_self (config : MapperConfig) (configs : List MapperConfig) (id : Uuid)
    (same : config.id = id) : (upsert config configs).find? (fun c => c.id == id) = some config := by
  induction configs with
  | nil => simp [upsert, same]
  | cons c rest ih =>
      rw [upsert]
      split
      · simp [same]
      · rename_i different
        have skipped : (c.id == id) = false := by simpa [← same] using different
        rw [List.find?_cons, skipped]
        exact ih

theorem find_upsert_other (config : MapperConfig) (configs : List MapperConfig) (id : Uuid)
    (different : config.id ≠ id) :
    (upsert config configs).find? (fun c => c.id == id) = configs.find? fun c => c.id == id := by
  induction configs with
  | nil => simp [upsert, different]
  | cons c rest ih =>
      rw [upsert]
      split
      · rename_i replaced
        simp [replaced, different]
      · rw [List.find?_cons, List.find?_cons, ih]

theorem find_filter_other (configs : List MapperConfig) (removed id : Uuid) (different : removed ≠ id) :
    (configs.filter fun c => c.id != removed).find? (fun c => c.id == id) =
      configs.find? fun c => c.id == id := by
  rw [List.find?_filter]
  congr 1
  funext c
  by_cases same : c.id = id
  · simp [same, Ne.symm different]
  · simp [same]

theorem get_with_self (st : Store) (owner : Owner) (configs : List MapperConfig) (id : Uuid) :
    (st.withMappers owner configs).get? owner id = configs.find? fun c => c.id == id := by
  rw [get?, list_eq _ _ _ (mappers_with_self st owner configs)]

theorem get_same (st next : Store) (owner : Owner) (id : Uuid)
    (same : next.mappers? owner = st.mappers? owner) : next.get? owner id = st.get? owner id := by
  rw [get?, get?, list_same st next owner same]

theorem get_present (st : Store) (owner : Owner) (id : Uuid) (configs : List MapperConfig)
    (present : st.mappers? owner = some configs) :
    st.get? owner id = configs.find? fun c => c.id == id := by
  rw [get?, list_eq st owner configs present]

theorem keep_salt_id (stored : Option MapperConfig) (config : MapperConfig) :
    (keepSalt stored config).id = config.id := by
  unfold keepSalt
  split
  · split <;> rfl
  · rfl

theorem keep_salt_type (stored : Option MapperConfig) (config : MapperConfig) :
    (keepSalt stored config).mapperType = config.mapperType := by
  unfold keepSalt
  split
  · split <;> rfl
  · rfl

theorem keep_salt_stored (stored config : MapperConfig) (salt : String) (salted : stored.salt? = some salt) :
    (keepSalt (some stored) config).salt? = some salt := by
  simp only [keepSalt, Option.bind_some, salted]
  split
  · assumption
  · exact MapperConfig.salt_put_salt config salt ((MapperConfig.salt_some stored salt).mp salted).2

-- A configuration with this salt is stored.
def HasSalt (st : Store) (owner : Owner) (id : Uuid) (salt : String) : Prop :=
  ∃ config, st.get? owner id = some config ∧ config.salt? = some salt

-- The requests that may take a configuration away.
def Op.Removes (owner : Owner) (id : Uuid) : Op → Prop
  | .createClient _ => False
  | .deleteClient client => owner = .client client
  | .save _ _ _ => False
  | .delete other removed => other = owner ∧ removed = id

instance (owner : Owner) (id : Uuid) : (op : Op) → Decidable (op.Removes owner id)
  | .createClient _ => inferInstanceAs (Decidable False)
  | .deleteClient client => inferInstanceAs (Decidable (owner = .client client))
  | .save _ _ _ => inferInstanceAs (Decidable False)
  | .delete other removed => inferInstanceAs (Decidable (other = owner ∧ removed = id))

theorem has_salt_same (st next : Store) (owner : Owner) (id : Uuid) (salt : String)
    (held : HasSalt st owner id salt) (same : next.mappers? owner = st.mappers? owner) :
    HasSalt next owner id salt := by
  obtain ⟨config, found, salted⟩ := held
  exact ⟨config, (get_same st next owner id same).trans found, salted⟩

theorem has_salt_present (st : Store) (owner : Owner) (id : Uuid) (salt : String)
    (held : HasSalt st owner id salt) : st.mappers? owner ≠ none := by
  intro absent
  obtain ⟨config, found, _⟩ := held
  simp [get?, list, absent] at found

-- The stored salt is merged in before the check, and the check keeps every salt that is not
-- blank, so a save of the same id writes the same salt back whatever type it switches to.
theorem saved_has_salt (st : Store) (owner : Owner) (id : Uuid) (salt : String) (config : MapperConfig)
    (fresh : Salt) (configs : List MapperConfig) (stored : MapperConfig)
    (registry : st.registry = .pairwise) (held : HasSalt st owner id salt)
    (present : st.mappers? owner = some configs)
    (accepted : st.registry.checkSave ⟨owner, st.lookup, st.settings, fresh⟩
      (keepSalt (st.get? owner config.id) config) = .ok stored) :
    HasSalt (st.withMappers owner (upsert stored configs)) owner id salt := by
  obtain ⟨old, found, salted⟩ := held
  rw [registry] at accepted
  have sameId : stored.id = config.id :=
    (Registry.check_save_id _ _ stored accepted).trans (keep_salt_id _ config)
  by_cases same : config.id = id
  · refine ⟨stored, ?_, ?_⟩
    · rw [get_with_self, find_upsert_self stored configs id (sameId.trans same)]
    · rw [same, found] at accepted
      exact Registry.check_save_keeps_salt _ _ stored salt (keep_salt_stored old config salt salted) accepted
  · refine ⟨old, ?_, salted⟩
    rw [get_with_self, find_upsert_other stored configs id (sameId ▸ same),
      ← get_present st owner id configs present, found]

theorem step_has_salt (st : Store) (op : Op) (owner : Owner) (id : Uuid) (salt : String)
    (registry : st.registry = .pairwise) (kept : ¬ op.Removes owner id) (held : HasSalt st owner id salt) :
    HasSalt (st.step op) owner id salt := by
  have effect := step_effect st op
  generalize st.step op = next at effect ⊢
  cases effect with
  | unchanged op => exact held
  | created client absent =>
      have different : owner ≠ .client client := by
        rintro rfl
        exact has_salt_present st _ id salt held absent
      exact has_salt_same st _ owner id salt held (mappers_with_other st _ owner [] different)
  | removed client => exact has_salt_same st _ owner id salt held (mappers_erase_other st client owner kept)
  | saved target config fresh configs stored present accepted =>
      by_cases same : target = owner
      · subst same
        exact saved_has_salt st target id salt config fresh configs stored registry held present accepted
      · exact has_salt_same st _ owner id salt held (mappers_with_other st target owner _ (Ne.symm same))
  | deleted target removed configs present =>
      by_cases same : target = owner
      · subst same
        have different : removed ≠ id := fun sameId => kept ⟨rfl, sameId⟩
        obtain ⟨config, found, salted⟩ := held
        refine ⟨config, ?_, salted⟩
        rw [get_with_self, find_filter_other configs removed id different,
          ← get_present st target id configs present, found]
      · exact has_salt_same st _ owner id salt held (mappers_with_other st target owner _ (Ne.symm same))

theorem run_has_salt (settings : Settings) (st : Store) (ops : List Op) (owner : Owner) (id : Uuid)
    (salt : String) (configured : Configured settings st) (held : HasSalt st owner id salt)
    (kept : ∀ op ∈ ops, ¬ op.Removes owner id) : HasSalt (st.run ops) owner id salt :=
  (run_induction settings (fun st => HasSalt st owner id salt) ops st configured held
    fun st op member configured held =>
      step_has_salt st op owner id salt configured.registry (kept op member) held).2

theorem stored_salt_survives (settings : Settings) (before later : List Op) (owner : Owner) (id : Uuid)
    (stored : MapperConfig) (salt : String)
    (found : (reached settings before).get? owner id = some stored)
    (salted : stored.get? OptionKey.salt = some salt) (notBlank : Text.isBlank salt = false)
    (kept : ∀ op ∈ later, ¬ op.Removes owner id) :
    ∃ config, ((reached settings before).run later).get? owner id = some config ∧
      config.get? OptionKey.salt = some salt := by
  have held : HasSalt (reached settings before) owner id salt :=
    ⟨stored, found, (MapperConfig.salt_some stored salt).mpr ⟨salted, notBlank⟩⟩
  obtain ⟨config, present, unchanged⟩ :=
    run_has_salt settings _ later owner id salt (reached_configured settings before) held kept
  exact ⟨config, present, ((MapperConfig.salt_some config salt).mp unchanged).1⟩

def paddedMapper : MapperConfig :=
  sampleMapper 0 Variant.staticSector.mapperType
    [(OptionKey.salt, " s "), sampleSector, (OptionKey.algorithm, Algorithm.standard.name)]

def paddedSetup : List Op :=
  [.createClient "a", .save (.client "a") paddedMapper sampleSalt]

-- A change of type with a blank salt, a rejected save, a new salt, and deletions elsewhere.
def paddedEdits : List Op :=
  [.save (.client "a")
      (sampleMapper 0 Variant.simpleSector.mapperType [(OptionKey.salt, "\u00a0"), sampleSector]) sampleSalt,
    .save (.client "a")
      (sampleMapper 0 Variant.email.mapperType [(OptionKey.salt, "t"), (OptionKey.sector, "nowhere")]) sampleSalt,
    .save (.client "a")
      (sampleMapper 0 Variant.email.mapperType [(OptionKey.salt, "s"), sampleSector]) sampleSalt,
    .deleteClient "b", .delete .realm (sampleId 0)]

theorem padded_salt_survives_edits :
    (reached {} paddedSetup).get? (.client "a") (sampleId 0) = some paddedMapper ∧
      paddedMapper.get? OptionKey.salt = some " s " ∧ Text.isBlank " s " = false ∧
      (∀ op ∈ paddedEdits, ¬ op.Removes (.client "a") (sampleId 0)) ∧
      ∃ config, ((reached {} paddedSetup).run paddedEdits).get? (.client "a") (sampleId 0) = some config ∧
        config.get? OptionKey.salt = some " s " := by
  have found : (reached {} paddedSetup).get? (.client "a") (sampleId 0) = some paddedMapper := by decide +kernel
  have salted : paddedMapper.get? OptionKey.salt = some " s " := by decide +kernel
  have kept : ∀ op ∈ paddedEdits, ¬ op.Removes (.client "a") (sampleId 0) := by decide +kernel
  exact ⟨found, salted, by decide, kept,
    stored_salt_survives {} paddedSetup paddedEdits (.client "a") (sampleId 0) paddedMapper " s "
      found salted (by decide) kept⟩

end PairwiseId.Store
