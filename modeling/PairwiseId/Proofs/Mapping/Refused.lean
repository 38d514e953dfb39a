import PairwiseId.Proofs.Mapping.Accepted

/- Why a configuration cannot be read, and why it cannot be saved. The parser that reads it for
   a token also ends a save. By then there is a salt and the algorithm has its catalog name, so of
   all that the parser can object to only the sector and the name of the claim are left. -/
namespace PairwiseId

set_option autoImplicit false

-- What is wrong with a sector identifier.
inductive Sector.Objection (mode : SectorMode) (raw : Option String) : Fault → Prop where
  | missing (blank : ∀ text, raw = some text → Text.isBlank text = true) :
      Objection mode raw .missingSector
  | malformed (text : String) (given : raw = some text) (uri : mode = .staticUri)
      (relative : Uri.isAbsoluteWithHost text = false) : Objection mode raw (.malformedSector text)

theorem Sector.resolve_refused (raw : Option String) (mode : SectorMode) (fault : Fault)
    (refused : resolve raw mode = .error fault) : Objection mode raw fault := by
  cases raw with
  | none =>
      obtain rfl := Except.error.inj refused
      exact .missing fun text given => nomatch given
  | some value =>
      simp only [resolve] at refused
      split at refused
      · rename_i blank
        obtain rfl := Except.error.inj refused
        exact .missing fun text given => Option.some.inj given ▸ blank
      · rename_i notBlank
        split at refused
        · cases refused
        · rename_i rejected
          obtain rfl := Except.error.inj refused
          cases mode with
          | staticUri => exact .malformed value rfl rfl (by simpa [SectorMode.accepts, notBlank] using rejected)
          | simple => simp [SectorMode.accepts, notBlank] at rejected

theorem Sector.objection_config_fault (mode : SectorMode) (raw : Option String) (fault : Fault)
    (objection : Objection mode raw fault) : fault.isConfigFault = true := by
  cases objection with
  | missing blank => rfl
  | malformed text given uri relative => rfl

namespace MapperConfig

-- Both ways to read the algorithm take a name that is not in the catalog for a fault, each for its own.
theorem stored_refused (config : MapperConfig) (fault : Fault)
    (refused : config.storedAlgorithm = .error fault) :
    ∃ name, config.getNonBlank? OptionKey.algorithm = some name ∧ Algorithm.ofName? name = none ∧
      fault = .unresolvableAlgorithm name := by
  unfold storedAlgorithm at refused
  split at refused
  · cases refused
  · rename_i name given
    split at refused
    · cases refused
    · rename_i unknown
      exact ⟨name, given, unknown, (Except.error.inj refused).symm⟩

theorem submitted_refused (config : MapperConfig) (fallback : Algorithm) (fault : Fault)
    (refused : config.submittedAlgorithm fallback = .error fault) :
    ∃ name, config.getNonBlank? OptionKey.algorithm = some name ∧ Algorithm.ofName? name = none ∧
      fault = .unknownAlgorithm name := by
  unfold submittedAlgorithm at refused
  split at refused
  · cases refused
  · rename_i name given
    split at refused
    · cases refused
    · rename_i unknown
      exact ⟨name, given, unknown, (Except.error.inj refused).symm⟩

end MapperConfig

namespace Mapping

-- The key and the hash of a derivation can be read. This is checked before anything else.
structure Keyed (variant : Variant) (config : MapperConfig) : Prop where
  salt : variant.isSalted = true → ∃ salt, config.salt? = some salt
  algorithm : ∃ algorithm, config.storedAlgorithm = .ok algorithm

inductive Unreadable (variant : Variant) (config : MapperConfig) : Fault → Prop where
  | salt (needed : variant.isSalted = true) (absent : config.salt? = none) :
      Unreadable variant config .missingSalt
  | algorithm (name : String) (given : config.getNonBlank? OptionKey.algorithm = some name)
      (unknown : Algorithm.ofName? name = none) :
      Unreadable variant config (.unresolvableAlgorithm name)
  | sector (fault : Fault) (keyed : Keyed variant config)
      (objection : Sector.Objection variant.sectorMode (config.get? OptionKey.sector) fault) :
      Unreadable variant config fault
  | claim (keyed : Keyed variant config) (named : variant = .namedClaim)
      (absent : config.getNonBlank? OptionKey.claimName = none) :
      Unreadable variant config .targetClaimNotSet

end Mapping

theorem SaltedDerivation.of_config_refused (variant : Variant) (config : MapperConfig) (fault : Fault)
    (convention : variant.convention = .salted) (refused : ofConfig config = .error fault) :
    Mapping.Unreadable variant config fault := by
  have needed : variant.isSalted = true := by simp [Variant.isSalted, convention]
  cases salted : config.salt? with
  | none =>
      simp only [ofConfig, salted, bind, Except.bind, Except.error.injEq] at refused
      subst refused
      exact .salt needed salted
  | some salt =>
      simp only [ofConfig, salted, bind_error, pure, Except.pure, reduceCtorEq, and_false, exists_false,
        or_false, false_or, Except.ok.injEq, exists_eq_left'] at refused
      rcases refused with unnamed | ⟨algorithm, named, malformed⟩
      · obtain ⟨name, given, unknown, rfl⟩ := config.stored_refused fault unnamed
        exact .algorithm name given unknown
      · have mode : variant.sectorMode = .staticUri := by rw [Variant.sectorMode, convention]; rfl
        refine .sector fault ⟨fun _ => ⟨salt, salted⟩, algorithm, named⟩ ?_
        rw [mode]
        exact Sector.resolve_refused _ _ fault malformed

theorem SectorKeyedDerivation.of_config_refused (variant : Variant) (config : MapperConfig) (fault : Fault)
    (convention : variant.convention = .sectorKeyed) (refused : ofConfig config = .error fault) :
    Mapping.Unreadable variant config fault := by
  have unsalted : variant.isSalted = false := by simp [Variant.isSalted, convention]
  simp only [ofConfig, bind_error, pure, Except.pure, reduceCtorEq, and_false, exists_false,
    or_false] at refused
  rcases refused with unnamed | ⟨algorithm, named, malformed⟩
  · obtain ⟨name, given, unknown, rfl⟩ := config.stored_refused fault unnamed
    exact .algorithm name given unknown
  · have mode : variant.sectorMode = .simple := by rw [Variant.sectorMode, convention]; rfl
    refine .sector fault ⟨fun needed => by simp [unsalted] at needed, algorithm, named⟩ ?_
    rw [mode]
    exact Sector.resolve_refused _ _ fault malformed

namespace Mapping

theorem of_config_refused (variant : Variant) (config : MapperConfig) (fault : Fault)
    (refused : ofConfig variant config = .error fault) : Unreadable variant config fault := by
  cases variant with
  | staticSector =>
      exact SaltedDerivation.of_config_refused _ config fault rfl ((map_error _ _ fault).mp refused)
  | simpleSector =>
      exact SectorKeyedDerivation.of_config_refused _ config fault rfl ((map_error _ _ fault).mp refused)
  | email =>
      rcases (bind_error _ _ fault).mp refused with unread | ⟨d, _, finished⟩
      · exact SaltedDerivation.of_config_refused _ config fault rfl unread
      · cases finished
  | namedClaim =>
      rcases (bind_error _ _ fault).mp refused with unread | ⟨d, read, finished⟩
      · exact SectorKeyedDerivation.of_config_refused _ config fault rfl unread
      · split at finished
        · cases finished
        · rename_i absent
          obtain rfl := Except.error.inj finished
          obtain ⟨named, _, _⟩ := SectorKeyedDerivation.of_config_ok config d read
          exact .claim ⟨(fun needed => nomatch needed), d.algorithm, named⟩ rfl absent

-- A fault that ends an issuance is one of the key or of the hash.
theorem unreadable_fatal_iff (variant : Variant) (config : MapperConfig) (fault : Fault)
    (unreadable : Unreadable variant config fault) : fault.isFatal = true ↔ ¬ Keyed variant config := by
  cases unreadable with
  | salt needed absent =>
      refine ⟨fun _ keyed => ?_, fun _ => rfl⟩
      obtain ⟨salt, present⟩ := keyed.salt needed
      simp [absent] at present
  | algorithm name given unknown =>
      refine ⟨fun _ keyed => ?_, fun _ => rfl⟩
      obtain ⟨algorithm, named⟩ := keyed.algorithm
      simp [MapperConfig.storedAlgorithm, given, unknown] at named
  | sector _ keyed objection =>
      have harmless := Sector.objection_config_fault _ _ fault objection
      constructor
      · intro fatal
        simp [Fault.isConfigFault, fatal] at harmless
      · exact fun unkeyed => absurd keyed unkeyed
  | claim keyed named absent =>
      constructor
      · intro fatal
        cases fatal
      · exact fun unkeyed => absurd keyed unkeyed

-- Why one of the variants refuses what an administrator submits.
inductive Objection (variant : Variant) (config : MapperConfig) : Fault → Prop where
  | algorithm (name : String) (given : config.getNonBlank? OptionKey.algorithm = some name)
      (unknown : Algorithm.ofName? name = none) : Objection variant config (.unknownAlgorithm name)
  | sector (fault : Fault)
      (objection : Sector.Objection variant.sectorMode (config.get? OptionKey.sector) fault) :
      Objection variant config fault
  | claim (named : variant = .namedClaim) (absent : config.getNonBlank? OptionKey.claimName = none) :
      Objection variant config .targetClaimNotSet

theorem objection_config_fault (variant : Variant) (config : MapperConfig) (fault : Fault)
    (objection : Objection variant config fault) : fault.isConfigFault = true := by
  cases objection with
  | algorithm name given unknown => rfl
  | sector _ sector => exact Sector.objection_config_fault _ _ fault sector
  | claim named absent => rfl

-- The parser sees a salt and a known algorithm, whatever was submitted.
theorem keyed_of_normal (variant : Variant) (fresh : Salt) (config : MapperConfig) (algorithm : Algorithm) :
    Keyed variant ((withSalt variant fresh config).put OptionKey.algorithm algorithm.name) where
  salt needed := by
    rw [MapperConfig.salt_put_other _ _ _ (by decide)]
    exact with_salt_salted variant fresh config needed
  algorithm := ⟨algorithm, MapperConfig.stored_put_algorithm _ algorithm⟩

theorem normalize_refused (variant : Variant) (settings : Settings) (fresh : Salt) (config : MapperConfig)
    (fault : Fault) (refused : normalize variant settings fresh config = .error fault) :
    Objection variant config fault := by
  simp only [normalize, bind_error, pure, Except.pure, reduceCtorEq, and_false, exists_false, or_false,
    submitted_with_salt] at refused
  have sector_kept : ∀ name, ((withSalt variant fresh config).put OptionKey.algorithm name).get?
      OptionKey.sector = config.get? OptionKey.sector := fun name => by
    rw [MapperConfig.get?_put_other _ _ _ _ (by decide), get_with_salt variant fresh config _ (by decide)]
  rcases refused with unknown | ⟨algorithm, _, malformed | ⟨sector, resolved, unread⟩⟩
  · obtain ⟨name, given, absent, rfl⟩ := config.submitted_refused _ fault unknown
    exact .algorithm name given absent
  · have objection := Sector.resolve_refused _ _ fault malformed
    rw [sector_kept] at objection
    exact .sector fault objection
  · have keyed := keyed_of_normal variant fresh config algorithm
    cases of_config_refused variant _ fault unread with
    | salt needed absent =>
        obtain ⟨salt, present⟩ := keyed.salt needed
        simp [absent] at present
    | algorithm name given unknown =>
        rw [MapperConfig.non_blank_put_algorithm, Option.some.injEq] at given
        rw [← given, algorithm.of_name_name] at unknown
        cases unknown
    | sector _ _ objection =>
        rw [sector_kept] at objection
        exact .sector fault objection
    | claim _ named absent =>
        rw [MapperConfig.non_blank_put_other _ _ _ _ (by decide), claim_with_salt] at absent
        exact .claim named absent

end Mapping

end PairwiseId
