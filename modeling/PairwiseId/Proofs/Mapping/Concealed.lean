import PairwiseId.Export
import PairwiseId.Proofs.Mapping.Accepted

/- Configurations with one text in the place of every salt. Two configurations are equal
   but for a salt exactly if they look the same then, and normalizing them does nothing that
   depends on the salt. -/
namespace PairwiseId

set_option autoImplicit false

namespace MapperConfig

def concealed (config : MapperConfig) : MapperConfig :=
  match config.salt? with
  | some _ => config.put OptionKey.salt Export.mask
  | none => config

-- A salt that is not blank may have become another one.
structure EqualButSalt (a b : MapperConfig) : Prop where
  id : a.id = b.id
  name : a.name = b.name
  mapperType : a.mapperType = b.mapperType
  protocol : a.protocol = b.protocol
  options : ∀ key, key ≠ OptionKey.salt → a.get? key = b.get? key
  salt : a.get? OptionKey.salt = b.get? OptionKey.salt ∨ a.salt? ≠ none ∧ b.salt? ≠ none

section Put

variable (config : MapperConfig) (key other first second : String)

theorem put_put_same : (config.put key first).put key second = config.put key second := by
  simp only [put, KeyMap.put_put_same]

theorem put_put_other (different : other ≠ key) :
    (config.put key first).put other second = (config.put other second).put key first := by
  simp only [put, KeyMap.put_put_other _ _ _ _ _ different]

end Put

variable (config : MapperConfig)

@[simp] theorem concealed_id : config.concealed.id = config.id := by
  unfold concealed
  split <;> rfl

@[simp] theorem concealed_name : config.concealed.name = config.name := by
  unfold concealed
  split <;> rfl

@[simp] theorem concealed_type : config.concealed.mapperType = config.mapperType := by
  unfold concealed
  split <;> rfl

@[simp] theorem concealed_protocol : config.concealed.protocol = config.protocol := by
  unfold concealed
  split <;> rfl

theorem get_concealed (key : String) (different : key ≠ OptionKey.salt) :
    config.concealed.get? key = config.get? key := by
  unfold concealed
  split
  · exact get?_put_other config OptionKey.salt key Export.mask different
  · rfl

theorem non_blank_concealed (key : String) (different : key ≠ OptionKey.salt) :
    config.concealed.getNonBlank? key = config.getNonBlank? key := by
  simp only [getNonBlank?, get_concealed config key different]

theorem salt_concealed : config.concealed.salt? = config.salt?.map fun _ => Export.mask := by
  cases salted : config.salt? with
  | none => simp only [concealed, salted, Option.map_none]
  | some salt =>
      simp only [concealed, salted, Option.map_some]
      exact salt_put_salt config Export.mask (by decide)

theorem concealed_put_salt (salt : String) (notBlank : Text.isBlank salt = false) :
    (config.put OptionKey.salt salt).concealed = config.concealed.put OptionKey.salt Export.mask := by
  have left : (config.put OptionKey.salt salt).concealed = config.put OptionKey.salt Export.mask := by
    simp only [concealed, salt_put_salt config salt notBlank, put_put_same]
  rw [left, concealed]
  split
  · rw [put_put_same]
  · rfl

theorem concealed_put_other (key value : String) (different : OptionKey.salt ≠ key) :
    (config.put key value).concealed = config.concealed.put key value := by
  simp only [concealed, salt_put_other config key value different]
  split
  · exact put_put_other config key OptionKey.salt value Export.mask different
  · rfl

theorem masked_concealed : Export.maskedConfig config.concealed = Export.maskedConfig config := by
  cases salted : config.salt? with
  | none => simp only [concealed, salted]
  | some salt =>
      have held := ((salt_some config salt).mp salted).1
      simp only [concealed, salted, Export.maskedConfig, held, get?_put_self, put_put_same]

theorem get_concealed_salt :
    config.concealed.get? OptionKey.salt =
      if config.salt? = none then config.get? OptionKey.salt else some Export.mask := by
  cases salted : config.salt? with
  | none => simp only [concealed, salted, if_true]
  | some salt => simp [concealed, salted, get?_put_self]

theorem equal_concealed (a b : MapperConfig) (equal : EqualButSalt a b) : a.concealed = b.concealed := by
  have options : a.concealed.options = b.concealed.options := by
    apply KeyMap.ext_get
    intro key
    by_cases secret : key = OptionKey.salt
    · subst secret
      change a.concealed.get? _ = b.concealed.get? _
      rw [get_concealed_salt, get_concealed_salt]
      rcases equal.salt with same | ⟨first, second⟩
      · have salts : a.salt? = b.salt? := by rw [salt?, salt?, same]
        rw [salts, same]
      · rw [if_neg first, if_neg second]
    · exact (get_concealed a key secret).trans ((equal.options key secret).trans (get_concealed b key secret).symm)
  calc a.concealed
      = ⟨a.concealed.id, a.concealed.name, a.concealed.mapperType, a.concealed.protocol, a.concealed.options⟩ := rfl
    _ = ⟨b.concealed.id, b.concealed.name, b.concealed.mapperType, b.concealed.protocol, b.concealed.options⟩ := by
      simp only [concealed_id, concealed_name, concealed_type, concealed_protocol, equal.id, equal.name,
        equal.mapperType, equal.protocol, options]
    _ = b.concealed := rfl

theorem equal_but_salt_iff (a b : MapperConfig) : EqualButSalt a b ↔ a.concealed = b.concealed := by
  refine ⟨equal_concealed a b, fun same => ?_⟩
  have salts : (a.salt?.map fun _ => Export.mask) = b.salt?.map fun _ => Export.mask := by
    rw [← salt_concealed, same, salt_concealed]
  refine ⟨by simpa using congrArg MapperConfig.id same, by simpa using congrArg MapperConfig.name same,
    by simpa using congrArg MapperConfig.mapperType same, by simpa using congrArg MapperConfig.protocol same,
    fun key different => ?_, ?_⟩
  · rw [← get_concealed a key different, same, get_concealed b key different]
  · cases first : a.salt? with
    | none =>
        cases second : b.salt? with
        | none =>
            have held := congrArg (fun c => MapperConfig.get? c OptionKey.salt) same
            simp only [get_concealed_salt, first, second, if_true] at held
            exact .inl held
        | some salt => simp [first, second] at salts
    | some salt =>
        cases second : b.salt? with
        | none => simp [first, second] at salts
        | some other => exact .inr ⟨by simp, by simp⟩

theorem submitted_concealed (fallback : Algorithm) :
    config.concealed.submittedAlgorithm fallback = config.submittedAlgorithm fallback := by
  simp only [submittedAlgorithm, non_blank_concealed config OptionKey.algorithm (by decide)]

theorem stored_concealed : config.concealed.storedAlgorithm = config.storedAlgorithm := by
  simp only [storedAlgorithm, non_blank_concealed config OptionKey.algorithm (by decide)]

theorem sector_concealed (mode : SectorMode) : config.concealed.sector mode = config.sector mode := by
  simp only [sector, get_concealed config OptionKey.sector (by decide)]

end MapperConfig

theorem LocalSource.of_config_concealed (config : MapperConfig) :
    ofConfig config.concealed = ofConfig config := by
  simp only [ofConfig, config.non_blank_concealed OptionKey.localIdAttribute (by decide)]

theorem SaltedDerivation.of_config_concealed (config : MapperConfig) :
    ofConfig config.concealed = (ofConfig config).map fun d => { d with salt := Export.mask } := by
  simp only [ofConfig, config.salt_concealed, config.stored_concealed, config.sector_concealed,
    LocalSource.of_config_concealed]
  cases config.salt? with
  | none => rfl
  | some salt =>
      cases config.storedAlgorithm with
      | error fault => rfl
      | ok algorithm => cases config.sector .staticUri <;> rfl

theorem SectorKeyedDerivation.of_config_concealed (config : MapperConfig) :
    ofConfig config.concealed = ofConfig config := by
  simp only [ofConfig, config.stored_concealed, config.sector_concealed, LocalSource.of_config_concealed]

namespace Mapping

def concealed : Mapping → Mapping
  | staticSector d => staticSector { d with salt := Export.mask }
  | email d domain => email { d with salt := Export.mask } domain
  | simpleSector d => simpleSector d
  | namedClaim d claimName => namedClaim d claimName

-- The salt that stands for every other one.
def marker : Salt := ⟨Export.mask, by decide⟩

variable (variant : Variant) (fresh : Salt) (config : MapperConfig)

theorem with_salt_concealed :
    withSalt variant marker config.concealed = (withSalt variant fresh config).concealed := by
  cases salted : config.salt? with
  | none =>
      have unchanged : config.concealed = config := by simp only [MapperConfig.concealed, salted]
      by_cases needed : variant.isSalted = true
      · rw [unchanged, withSalt, if_pos ⟨needed, salted⟩, withSalt, if_pos ⟨needed, salted⟩,
          MapperConfig.concealed_put_salt _ _ fresh.notBlank, unchanged]
        rfl
      · rw [unchanged, withSalt, if_neg fun both => needed both.1, withSalt,
          if_neg fun both => needed both.1, unchanged]
  | some salt =>
      have still : config.concealed.salt? = some Export.mask := by
        rw [MapperConfig.salt_concealed, salted, Option.map_some]
      rw [with_salt_kept variant marker _ _ still, with_salt_kept variant fresh config salt salted]

theorem of_config_concealed :
    ofConfig variant config.concealed = (ofConfig variant config).map Mapping.concealed := by
  have claim := config.non_blank_concealed OptionKey.claimName (by decide)
  have domain : config.concealed.emailDomain? = config.emailDomain? := by
    simp only [MapperConfig.emailDomain?, config.non_blank_concealed OptionKey.emailDomain (by decide)]
  cases variant with
  | staticSector =>
      simp only [ofConfig, SaltedDerivation.of_config_concealed]
      cases SaltedDerivation.ofConfig config <;> rfl
  | simpleSector =>
      simp only [ofConfig, SectorKeyedDerivation.of_config_concealed]
      cases SectorKeyedDerivation.ofConfig config <;> rfl
  | email =>
      simp only [ofConfig, SaltedDerivation.of_config_concealed, domain]
      cases SaltedDerivation.ofConfig config <;> rfl
  | namedClaim =>
      simp only [ofConfig, SectorKeyedDerivation.of_config_concealed, claim]
      cases SectorKeyedDerivation.ofConfig config with
      | error fault => rfl
      | ok d => cases config.getNonBlank? OptionKey.claimName <;> rfl

-- The checks at the end of normalizing.
theorem checked_concealed (mode : SectorMode) :
    (config.concealed.sector mode >>= fun _ => ofConfig variant config.concealed >>= fun _ =>
        pure config.concealed) =
      (config.sector mode >>= fun _ => ofConfig variant config >>= fun _ => pure config).map
        MapperConfig.concealed := by
  rw [config.sector_concealed, of_config_concealed]
  cases config.sector mode with
  | error fault => rfl
  | ok sector => cases ofConfig variant config <;> rfl

theorem normalize_concealed (settings : Settings) :
    normalize variant settings marker config.concealed =
      (normalize variant settings fresh config).map MapperConfig.concealed := by
  simp only [normalize, with_salt_concealed variant fresh config, MapperConfig.submitted_concealed]
  cases (withSalt variant fresh config).submittedAlgorithm settings.defaultAlgorithm with
  | error fault => rfl
  | ok algorithm =>
      have checked := checked_concealed variant
        ((withSalt variant fresh config).put OptionKey.algorithm algorithm.name) variant.sectorMode
      rw [MapperConfig.concealed_put_other _ _ _ (by decide)] at checked
      exact checked

end Mapping

end PairwiseId
