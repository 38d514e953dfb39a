import PairwiseId.Proofs.KeyMap
import PairwiseId.Proofs.Mapping.Derivation

/- Which configurations can be saved, and what a save writes into them: a salt
   where one is needed and missing, and the catalog name of the algorithm. Nothing
   is left to write when the result is saved again, whatever the defaults are. -/
namespace PairwiseId

set_option autoImplicit false

theorem Algorithm.of_name_name (algorithm : Algorithm) : ofName? algorithm.name = some algorithm := by
  cases algorithm <;> decide +kernel

theorem Algorithm.name_trimmed (algorithm : Algorithm) :
    Text.isBlank algorithm.name = false ∧ Text.trim algorithm.name = algorithm.name := by
  cases algorithm <;> decide +kernel

namespace MapperConfig

theorem put_same (config : MapperConfig) (key value : String) (found : config.get? key = some value) :
    config.put key value = config := by
  rw [put, KeyMap.put_same config.options key value found]

variable (config : MapperConfig) (algorithm : Algorithm)

theorem non_blank_put_other (key other value : String) (different : other ≠ key) :
    (config.put key value).getNonBlank? other = config.getNonBlank? other := by
  simp only [getNonBlank?, get?_put_other config key other value different]

theorem non_blank_put_algorithm :
    (config.put OptionKey.algorithm algorithm.name).getNonBlank? OptionKey.algorithm =
      some algorithm.name := by
  simp [getNonBlank?, get?_put_self, algorithm.name_trimmed]

theorem stored_put_algorithm :
    (config.put OptionKey.algorithm algorithm.name).storedAlgorithm = .ok algorithm := by
  simp only [storedAlgorithm, non_blank_put_algorithm, algorithm.of_name_name]

theorem submitted_put_algorithm (fallback : Algorithm) :
    (config.put OptionKey.algorithm algorithm.name).submittedAlgorithm fallback = .ok algorithm := by
  simp only [submittedAlgorithm, non_blank_put_algorithm, algorithm.of_name_name]

theorem sector_put_other (key value : String) (mode : SectorMode) (different : OptionKey.sector ≠ key) :
    (config.put key value).sector mode = config.sector mode := by
  simp only [sector, get?_put_other config key OptionKey.sector value different]

-- Whether a name can be resolved does not depend on what is taken when there is none.
theorem submitted_is_ok (first second : Algorithm) :
    (config.submittedAlgorithm first).isOk = (config.submittedAlgorithm second).isOk := by
  simp only [submittedAlgorithm]
  split
  · rfl
  · rfl

end MapperConfig

namespace Mapping

section Salt

variable (variant : Variant) (fresh : Salt) (config : MapperConfig)

theorem get_with_salt (key : String) (different : key ≠ OptionKey.salt) :
    (withSalt variant fresh config).get? key = config.get? key := by
  unfold withSalt
  split
  · exact MapperConfig.get?_put_other config OptionKey.salt key fresh.text different
  · rfl

theorem submitted_with_salt (fallback : Algorithm) :
    (withSalt variant fresh config).submittedAlgorithm fallback = config.submittedAlgorithm fallback := by
  simp only [MapperConfig.submittedAlgorithm, MapperConfig.getNonBlank?,
    get_with_salt variant fresh config OptionKey.algorithm (by decide)]

theorem sector_with_salt (mode : SectorMode) :
    (withSalt variant fresh config).sector mode = config.sector mode := by
  simp only [MapperConfig.sector, get_with_salt variant fresh config OptionKey.sector (by decide)]

theorem claim_with_salt :
    (withSalt variant fresh config).getNonBlank? OptionKey.claimName =
      config.getNonBlank? OptionKey.claimName := by
  simp only [MapperConfig.getNonBlank?, get_with_salt variant fresh config OptionKey.claimName (by decide)]

theorem with_salt_salted (salted : variant.isSalted = true) :
    ∃ salt, (withSalt variant fresh config).salt? = some salt := by
  cases present : config.salt? with
  | some salt => exact ⟨salt, by rw [with_salt_kept variant fresh config salt present, present]⟩
  | none =>
      refine ⟨fresh.text, ?_⟩
      rw [withSalt, if_pos ⟨salted, present⟩]
      exact MapperConfig.salt_put_salt config fresh.text fresh.notBlank

end Salt

-- Only the named-claim variant asks for the name of a claim.
def NamesClaim (variant : Variant) (config : MapperConfig) : Prop :=
  variant = .namedClaim → ∃ name, config.getNonBlank? OptionKey.claimName = some name

theorem of_config_complete (variant : Variant) (config : MapperConfig) (algorithm : Algorithm)
    (sector : Sector) (salted : variant.isSalted = true → ∃ salt, config.salt? = some salt)
    (named : config.storedAlgorithm = .ok algorithm)
    (resolved : config.sector variant.sectorMode = .ok sector) (claim : NamesClaim variant config) :
    ∃ mapping, ofConfig variant config = .ok mapping := by
  cases variant with
  | staticSector =>
      obtain ⟨salt, present⟩ := salted rfl
      have derivation : config.sector .staticUri = .ok sector := resolved
      simp [ofConfig, SaltedDerivation.ofConfig, present, named, derivation, bind_ok, pure, Except.pure]
  | simpleSector =>
      have derivation : config.sector .simple = .ok sector := resolved
      simp [ofConfig, SectorKeyedDerivation.ofConfig, named, derivation, bind_ok, pure, Except.pure]
  | email =>
      obtain ⟨salt, present⟩ := salted rfl
      have derivation : config.sector .staticUri = .ok sector := resolved
      simp [ofConfig, SaltedDerivation.ofConfig, present, named, derivation, bind_ok, pure, Except.pure]
  | namedClaim =>
      obtain ⟨name, present⟩ := claim rfl
      have derivation : config.sector .simple = .ok sector := resolved
      simp [ofConfig, SectorKeyedDerivation.ofConfig, named, derivation, present, bind_ok, pure, Except.pure]

theorem normalize_iff (variant : Variant) (settings : Settings) (fresh : Salt) (config saved : MapperConfig) :
    normalize variant settings fresh config = .ok saved ↔
      ∃ algorithm sector, config.submittedAlgorithm settings.defaultAlgorithm = .ok algorithm ∧
        config.sector variant.sectorMode = .ok sector ∧ NamesClaim variant config ∧
        saved = (withSalt variant fresh config).put OptionKey.algorithm algorithm.name := by
  have sector_kept : ∀ name, ((withSalt variant fresh config).put OptionKey.algorithm name).sector
      variant.sectorMode = config.sector variant.sectorMode := fun name => by
    rw [MapperConfig.sector_put_other _ _ _ _ (by decide), sector_with_salt]
  have claim_kept : ∀ name, ((withSalt variant fresh config).put OptionKey.algorithm name).getNonBlank?
      OptionKey.claimName = config.getNonBlank? OptionKey.claimName := fun name => by
    rw [MapperConfig.non_blank_put_other _ _ _ _ (by decide), claim_with_salt]
  simp only [normalize, bind_ok, pure, Except.pure, Except.ok.injEq, submitted_with_salt, sector_kept]
  constructor
  · rintro ⟨algorithm, submitted, sector, resolved, mapping, read, rfl⟩
    refine ⟨algorithm, sector, submitted, resolved, ?_, rfl⟩
    rintro rfl
    cases of_config_reads _ _ _ read with
    | namedClaim d parsed claimName named => exact ⟨claimName, (claim_kept _).symm.trans named⟩
  · rintro ⟨algorithm, sector, submitted, resolved, claim, rfl⟩
    have salted : variant.isSalted = true → ∃ salt,
        ((withSalt variant fresh config).put OptionKey.algorithm algorithm.name).salt? = some salt := fun needed => by
      rw [MapperConfig.salt_put_other _ _ _ (by decide)]
      exact with_salt_salted variant fresh config needed
    obtain ⟨mapping, read⟩ := of_config_complete variant _ algorithm sector salted
      (MapperConfig.stored_put_algorithm _ algorithm) ((sector_kept _).trans resolved)
      fun named => (claim named).imp fun name present => (claim_kept _).trans present
    exact ⟨algorithm, submitted, sector, resolved, mapping, read, rfl⟩

-- The algorithm, the sector and the claim of a configuration decide whether it can be saved.
def admits (variant : Variant) (config : MapperConfig) : Bool :=
  (config.submittedAlgorithm .standard).isOk && (config.sector variant.sectorMode).isOk &&
    (variant != .namedClaim || (config.getNonBlank? OptionKey.claimName).isSome)

theorem is_ok_iff {E A : Type} (value : Except E A) :
    value.isOk = true ↔ ∃ result, value = .ok result := by
  cases value with
  | error fault => simp [Except.isOk, Except.toBool]
  | ok result => simp [Except.isOk, Except.toBool]

theorem admits_iff (variant : Variant) (settings : Settings) (fresh : Salt) (config : MapperConfig) :
    (∃ saved, normalize variant settings fresh config = .ok saved) ↔ admits variant config = true := by
  have claim : (variant != .namedClaim || (config.getNonBlank? OptionKey.claimName).isSome) = true ↔
      NamesClaim variant config := by
    simp only [NamesClaim, Bool.or_eq_true, bne_iff_ne, ne_eq, Option.isSome_iff_exists]
    exact Decidable.imp_iff_not_or.symm
  rw [admits, config.submitted_is_ok .standard settings.defaultAlgorithm]
  simp only [normalize_iff, Bool.and_eq_true, claim, is_ok_iff]
  constructor
  · rintro ⟨saved, algorithm, sector, submitted, resolved, named, _⟩
    exact ⟨⟨⟨algorithm, submitted⟩, sector, resolved⟩, named⟩
  · rintro ⟨⟨⟨algorithm, submitted⟩, sector, resolved⟩, named⟩
    exact ⟨_, algorithm, sector, submitted, resolved, named, rfl⟩

theorem normalize_settled (variant : Variant) (settings other : Settings) (fresh later : Salt)
    (config saved : MapperConfig) (accepted : normalize variant settings fresh config = .ok saved) :
    normalize variant other later saved = .ok saved := by
  obtain ⟨algorithm, sector, submitted, resolved, claim, rfl⟩ :=
    (normalize_iff variant settings fresh config saved).mp accepted
  have unsalted : withSalt variant later
      ((withSalt variant fresh config).put OptionKey.algorithm algorithm.name) =
        (withSalt variant fresh config).put OptionKey.algorithm algorithm.name := by
    by_cases needed : variant.isSalted = true
    · obtain ⟨salt, present⟩ := with_salt_salted variant fresh config needed
      refine with_salt_kept variant later _ salt ?_
      rw [MapperConfig.salt_put_other _ _ _ (by decide), present]
    · rw [withSalt, if_neg fun both => needed both.1]
  rw [normalize_iff]
  refine ⟨algorithm, sector, MapperConfig.submitted_put_algorithm _ algorithm _, ?_, ?_, ?_⟩
  · rw [MapperConfig.sector_put_other _ _ _ _ (by decide), sector_with_salt, resolved]
  · intro named
    obtain ⟨name, present⟩ := claim named
    exact ⟨name, by rw [MapperConfig.non_blank_put_other _ _ _ _ (by decide), claim_with_salt, present]⟩
  · rw [unsalted]
    exact (MapperConfig.put_same _ _ _ (MapperConfig.get?_put_self _ _ _)).symm

theorem admits_saved (variant : Variant) (settings : Settings) (fresh : Salt) (config saved : MapperConfig)
    (accepted : normalize variant settings fresh config = .ok saved) : admits variant saved = true :=
  (admits_iff variant settings fresh saved).mp
    ⟨saved, normalize_settled variant settings settings fresh fresh config saved accepted⟩

end Mapping

end PairwiseId
