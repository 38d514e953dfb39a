import PairwiseId.Proofs.Mapping.Refused
import PairwiseId.Proofs.Text.Trim

/- What a save accepts, what it makes of it, and which objection it raises otherwise, all told
   from the submitted texts alone. -/
namespace PairwiseId

set_option autoImplicit false

-- An option without a text, or with nothing but blanks in it.
def Text.Blank (given : Option String) : Prop := ∀ text, given = some text → isBlank text = true

theorem Text.blank_some (text : String) : Blank (some text) ↔ isBlank text = true := by
  simp [Blank]

namespace Algorithm

theorem names_differ : ∀ a ∈ all, ∀ b ∈ all, Text.sameIgnoringAsciiCase a.name b.name = true → a = b := by
  decide +kernel

theorem mem_all (algorithm : Algorithm) : algorithm ∈ all := by
  cases algorithm <;> decide

-- At most one algorithm has the name, so it does not matter that the catalog is searched in order.
theorem of_name_iff (name : String) (algorithm : Algorithm) :
    ofName? name = some algorithm ↔ Text.sameIgnoringAsciiCase algorithm.name (Text.trim name) = true := by
  constructor
  · intro found
    have named := List.find?_some found
    exact named
  · intro named
    cases found : ofName? name with
    | none => exact absurd named (List.find?_eq_none.mp found algorithm algorithm.mem_all)
    | some other =>
        have also := List.find?_some found
        refine congrArg some (names_differ other other.mem_all algorithm algorithm.mem_all ?_)
        simp only [Text.sameIgnoringAsciiCase, beq_iff_eq] at also named ⊢
        rw [also, named]

theorem of_name_none_iff (name : String) :
    ofName? name = none ↔
      ∀ algorithm : Algorithm, Text.sameIgnoringAsciiCase algorithm.name (Text.trim name) = false := by
  simp only [Option.eq_none_iff_forall_ne_some, ne_eq, of_name_iff, Bool.not_eq_true]

-- The algorithm that a submitted text stands for: the one it names, in any ASCII case and between
-- blanks, or the default if it names none.
inductive Designates (fallback : Algorithm) (given : Option String) : Algorithm → Prop where
  | byDefault (blank : Text.Blank given) : Designates fallback given fallback
  | byName (text : String) (algorithm : Algorithm) (present : given = some text)
      (notBlank : Text.isBlank text = false)
      (named : Text.sameIgnoringAsciiCase algorithm.name (Text.trim text) = true) :
      Designates fallback given algorithm

theorem designates_unique (fallback first second : Algorithm) (given : Option String)
    (one : Designates fallback given first) (two : Designates fallback given second) : first = second := by
  cases one with
  | byDefault blank =>
      cases two with
      | byDefault _ => rfl
      | byName text _ present notBlank => simp [blank text present] at notBlank
  | byName text _ present notBlank named =>
      cases two with
      | byDefault blank => simp [blank text present] at notBlank
      | byName other _ also _ alike =>
          obtain rfl := Option.some.inj (present.symm.trans also)
          exact Option.some.inj (((of_name_iff text first).mpr named).symm.trans ((of_name_iff text second).mpr alike))

end Algorithm

namespace MapperConfig

theorem ext_get (a b : MapperConfig) (id : a.id = b.id) (name : a.name = b.name)
    (type : a.mapperType = b.mapperType) (protocol : a.protocol = b.protocol)
    (same : ∀ key, a.get? key = b.get? key) : a = b := by
  cases a
  cases b
  simp only [MapperConfig.mk.injEq]
  exact ⟨id, name, type, protocol, KeyMap.ext_get _ _ same⟩

variable (config : MapperConfig) (key : String)

theorem non_blank_some (value : String) :
    config.getNonBlank? key = some value ↔
      ∃ text, config.get? key = some text ∧ Text.isBlank text = false ∧ value = Text.trim text := by
  simp only [getNonBlank?, Option.bind_eq_some_iff]
  refine exists_congr fun text => and_congr_right fun _ => ?_
  cases Text.isBlank text <;> simp [eq_comm]

theorem non_blank_none : config.getNonBlank? key = none ↔ Text.Blank (config.get? key) := by
  simp only [getNonBlank?, Text.Blank, Option.bind_eq_none_iff]
  refine forall_congr' fun text => imp_congr_right fun _ => ?_
  cases Text.isBlank text <;> simp

theorem salt_none : config.salt? = none ↔ Text.Blank (config.get? OptionKey.salt) := by
  simp only [salt?, Text.Blank, Option.bind_eq_none_iff]
  refine forall_congr' fun text => imp_congr_right fun _ => ?_
  cases Text.isBlank text <;> simp

theorem submitted_iff (fallback algorithm : Algorithm) :
    config.submittedAlgorithm fallback = .ok algorithm ↔
      Algorithm.Designates fallback (config.get? OptionKey.algorithm) algorithm := by
  cases named : config.getNonBlank? OptionKey.algorithm with
  | none =>
      have blank := (non_blank_none config _).mp named
      simp only [submittedAlgorithm, named, Except.ok.injEq]
      constructor
      · rintro rfl
        exact .byDefault blank
      · intro designated
        cases designated with
        | byDefault _ => rfl
        | byName text _ present notBlank => simp [blank text present] at notBlank
  | some name =>
      obtain ⟨text, given, visible, rfl⟩ := (non_blank_some config _ name).mp named
      have resolved : config.submittedAlgorithm fallback = .ok algorithm ↔
          Algorithm.ofName? (Text.trim text) = some algorithm := by
        simp only [submittedAlgorithm, named]
        cases Algorithm.ofName? (Text.trim text) <;> simp
      rw [resolved, Algorithm.of_name_iff, Text.trim_trim, given]
      constructor
      · exact fun same => .byName text algorithm rfl visible same
      · intro designated
        cases designated with
        | byDefault blank => simp [(Text.blank_some text).mp blank] at visible
        | byName other _ present _ same =>
            obtain rfl := Option.some.inj present
            exact same

end MapperConfig

namespace Mapping

variable (variant : Variant) (settings : Settings) (fresh : Salt) (config : MapperConfig)

-- The three checks of a save, on the texts that were submitted.
structure Savable : Prop where
  algorithm : ∃ algorithm, Algorithm.Designates settings.defaultAlgorithm (config.get? OptionKey.algorithm) algorithm
  sector : ∃ sector, Sector.resolve (config.get? OptionKey.sector) variant.sectorMode = .ok sector
  claim : variant = .namedClaim → ¬ Text.Blank (config.get? OptionKey.claimName)

-- What is stored: two options are settled, and all the rest is as it was submitted.
structure Settled (saved : MapperConfig) : Prop where
  id : saved.id = config.id
  name : saved.name = config.name
  type : saved.mapperType = config.mapperType
  protocol : saved.protocol = config.protocol
  algorithm : ∃ algorithm : Algorithm,
    Algorithm.Designates settings.defaultAlgorithm (config.get? OptionKey.algorithm) algorithm ∧
      saved.get? OptionKey.algorithm = some algorithm.name
  saltGenerated : variant.isSalted = true → Text.Blank (config.get? OptionKey.salt) →
    saved.get? OptionKey.salt = some fresh.text ∧ Text.isBlank fresh.text = false
  saltKept : ¬ (variant.isSalted = true ∧ Text.Blank (config.get? OptionKey.salt)) →
    saved.get? OptionKey.salt = config.get? OptionKey.salt
  others : ∀ key, key ≠ OptionKey.algorithm → key ≠ OptionKey.salt → saved.get? key = config.get? key

-- The objection to what is not savable. Each check is made only where the ones before hold.
inductive Blame : Fault → Prop where
  | algorithm (text : String) (given : config.get? OptionKey.algorithm = some text)
      (notBlank : Text.isBlank text = false)
      (unknown : ∀ algorithm : Algorithm, Text.sameIgnoringAsciiCase algorithm.name (Text.trim text) = false) :
      Blame (.unknownAlgorithm (Text.trim text))
  | sector (fault : Fault)
      (known : ∃ algorithm,
        Algorithm.Designates settings.defaultAlgorithm (config.get? OptionKey.algorithm) algorithm)
      (rejected : Sector.resolve (config.get? OptionKey.sector) variant.sectorMode = .error fault) : Blame fault
  | claim
      (known : ∃ algorithm,
        Algorithm.Designates settings.defaultAlgorithm (config.get? OptionKey.algorithm) algorithm)
      (resolved : ∃ sector, Sector.resolve (config.get? OptionKey.sector) variant.sectorMode = .ok sector)
      (named : variant = .namedClaim) (blank : Text.Blank (config.get? OptionKey.claimName)) :
      Blame .targetClaimNotSet

theorem names_claim_iff :
    NamesClaim variant config ↔ (variant = .namedClaim → ¬ Text.Blank (config.get? OptionKey.claimName)) := by
  refine imp_congr_right fun _ => ?_
  rw [← MapperConfig.non_blank_none, ← ne_eq, Option.ne_none_iff_exists']

theorem savable_iff :
    (∃ saved, normalize variant settings fresh config = .ok saved) ↔ Savable variant settings config := by
  simp only [normalize_iff, MapperConfig.submitted_iff, names_claim_iff]
  constructor
  · rintro ⟨saved, algorithm, sector, designated, resolved, claim, _⟩
    exact ⟨⟨algorithm, designated⟩, ⟨sector, resolved⟩, claim⟩
  · rintro ⟨⟨algorithm, designated⟩, ⟨sector, resolved⟩, claim⟩
    exact ⟨_, algorithm, sector, designated, resolved, claim, rfl⟩

theorem with_salt_protocol : (withSalt variant fresh config).protocol = config.protocol := by
  unfold withSalt
  split <;> rfl

theorem get_salt_with_salt :
    (variant.isSalted = true → Text.Blank (config.get? OptionKey.salt) →
        (withSalt variant fresh config).get? OptionKey.salt = some fresh.text) ∧
      (¬ (variant.isSalted = true ∧ Text.Blank (config.get? OptionKey.salt)) →
        withSalt variant fresh config = config) := by
  constructor
  · intro salted blank
    rw [withSalt, if_pos ⟨salted, config.salt_none.mpr blank⟩]
    exact MapperConfig.get?_put_self config _ _
  · intro kept
    rw [withSalt, if_neg fun both => kept ⟨both.1, config.salt_none.mp both.2⟩]

theorem normalize_settles (saved : MapperConfig) (accepted : normalize variant settings fresh config = .ok saved) :
    Settled variant settings fresh config saved := by
  obtain ⟨algorithm, sector, submitted, resolved, claim, rfl⟩ :=
    (normalize_iff variant settings fresh config saved).mp accepted
  obtain ⟨generated, kept⟩ := get_salt_with_salt variant fresh config
  have other : ∀ key, key ≠ OptionKey.algorithm →
      ((withSalt variant fresh config).put OptionKey.algorithm algorithm.name).get? key =
        (withSalt variant fresh config).get? key :=
    fun key different => MapperConfig.get?_put_other _ _ _ _ different
  refine
    { id := with_salt_id variant fresh config
      name := with_salt_name variant fresh config
      type := with_salt_type variant fresh config
      protocol := with_salt_protocol variant fresh config
      algorithm := ⟨algorithm, (config.submitted_iff _ _).mp submitted, MapperConfig.get?_put_self _ _ _⟩
      saltGenerated := fun salted blank => ⟨?_, fresh.notBlank⟩
      saltKept := fun same => ?_
      others := fun key notAlgorithm notSalt => ?_ }
  · rw [other _ (by decide), generated salted blank]
  · rw [other _ (by decide), kept same]
  · rw [other key notAlgorithm, get_with_salt variant fresh config key notSalt]

theorem settled_unique (first second : MapperConfig) (one : Settled variant settings fresh config first)
    (two : Settled variant settings fresh config second) : first = second := by
  refine MapperConfig.ext_get first second (one.id.trans two.id.symm) (one.name.trans two.name.symm)
    (one.type.trans two.type.symm) (one.protocol.trans two.protocol.symm) fun key => ?_
  by_cases isAlgorithm : key = OptionKey.algorithm
  · subst isAlgorithm
    obtain ⟨a, designated, written⟩ := one.algorithm
    obtain ⟨b, also, other⟩ := two.algorithm
    rw [written, other, Algorithm.designates_unique _ _ _ _ designated also]
  by_cases isSalt : key = OptionKey.salt
  · subst isSalt
    by_cases generated : variant.isSalted = true ∧ Text.Blank (config.get? OptionKey.salt)
    · rw [(one.saltGenerated generated.1 generated.2).1, (two.saltGenerated generated.1 generated.2).1]
    · rw [one.saltKept generated, two.saltKept generated]
  · rw [one.others key isAlgorithm isSalt, two.others key isAlgorithm isSalt]

-- The three ways to fail, in the order of the checks.
theorem normalize_unnamed (fault : Fault)
    (unnamed : config.submittedAlgorithm settings.defaultAlgorithm = .error fault) :
    normalize variant settings fresh config = .error fault := by
  simp only [normalize, submitted_with_salt, unnamed, bind, Except.bind]

section Named

variable (algorithm : Algorithm) (named : config.submittedAlgorithm settings.defaultAlgorithm = .ok algorithm)

include named

theorem normalize_unresolved (fault : Fault)
    (unresolved : Sector.resolve (config.get? OptionKey.sector) variant.sectorMode = .error fault) :
    normalize variant settings fresh config = .error fault := by
  have sector : ((withSalt variant fresh config).put OptionKey.algorithm algorithm.name).sector
      variant.sectorMode = .error fault := by
    rw [MapperConfig.sector_put_other _ _ _ _ (by decide), sector_with_salt]
    exact unresolved
  simp only [normalize, submitted_with_salt, named, sector, bind, Except.bind]

-- The parser is the one that misses the claim: it finds the algorithm and the sector in order.
theorem normalize_unclaimed (sector : Sector)
    (resolved : Sector.resolve (config.get? OptionKey.sector) variant.sectorMode = .ok sector)
    (wanted : variant = .namedClaim) (blank : Text.Blank (config.get? OptionKey.claimName)) :
    normalize variant settings fresh config = .error .targetClaimNotSet := by
  subst wanted
  have found : ((withSalt .namedClaim fresh config).put OptionKey.algorithm algorithm.name).sector .simple =
      .ok sector := by
    rw [MapperConfig.sector_put_other _ _ _ _ (by decide), sector_with_salt]
    exact resolved
  have absent : ((withSalt .namedClaim fresh config).put OptionKey.algorithm algorithm.name).getNonBlank?
      OptionKey.claimName = none := by
    rw [MapperConfig.non_blank_put_other _ _ _ _ (by decide), claim_with_salt]
    exact (config.non_blank_none _).mpr blank
  have mode : Variant.namedClaim.sectorMode = .simple := rfl
  simp only [normalize, submitted_with_salt, named, mode, found, ofConfig, SectorKeyedDerivation.ofConfig,
    MapperConfig.stored_put_algorithm, absent, bind, Except.bind, pure, Except.pure]

end Named

theorem normalize_blames (fault : Fault) (refused : normalize variant settings fresh config = .error fault) :
    Blame variant settings config fault := by
  cases submitted : config.submittedAlgorithm settings.defaultAlgorithm with
  | error own =>
      obtain rfl := Except.error.inj
        ((normalize_unnamed variant settings fresh config own submitted).symm.trans refused)
      obtain ⟨name, given, unknown, rfl⟩ := config.submitted_refused _ own submitted
      obtain ⟨text, present, notBlank, rfl⟩ := (config.non_blank_some _ name).mp given
      rw [Algorithm.of_name_none_iff, Text.trim_trim] at unknown
      exact .algorithm text present notBlank unknown
  | ok algorithm =>
      have known := (config.submitted_iff _ algorithm).mp submitted
      cases resolved : Sector.resolve (config.get? OptionKey.sector) variant.sectorMode with
      | error own =>
          have second := normalize_unresolved variant settings fresh config algorithm submitted own resolved
          obtain rfl := Except.error.inj (second.symm.trans refused)
          exact .sector own ⟨algorithm, known⟩ resolved
      | ok sector =>
          by_cases claim : variant = .namedClaim → ¬ Text.Blank (config.get? OptionKey.claimName)
          · obtain ⟨saved, accepted⟩ := (savable_iff variant settings fresh config).mpr
              ⟨⟨algorithm, known⟩, ⟨sector, resolved⟩, claim⟩
            cases accepted.symm.trans refused
          · obtain ⟨wanted, blank⟩ := Classical.not_imp.mp claim
            have third := normalize_unclaimed variant settings fresh config algorithm submitted sector resolved wanted
              (not_not.mp blank)
            obtain rfl := Except.error.inj (third.symm.trans refused)
            exact .claim ⟨algorithm, known⟩ ⟨sector, resolved⟩ wanted (not_not.mp blank)

theorem blamed_refused (fault : Fault) (blame : Blame variant settings config fault) :
    normalize variant settings fresh config = .error fault := by
  cases blame with
  | algorithm text given notBlank unknown =>
      have name : config.getNonBlank? OptionKey.algorithm = some (Text.trim text) :=
        (config.non_blank_some _ _).mpr ⟨text, given, notBlank, rfl⟩
      have absent : Algorithm.ofName? (Text.trim text) = none :=
        (Algorithm.of_name_none_iff _).mpr (by rwa [Text.trim_trim])
      exact normalize_unnamed variant settings fresh config _
        (by simp only [MapperConfig.submittedAlgorithm, name, absent])
  | sector _ known rejected =>
      obtain ⟨algorithm, designated⟩ := known
      exact normalize_unresolved variant settings fresh config algorithm
        ((config.submitted_iff _ _).mpr designated) fault rejected
  | claim known resolved wanted blank =>
      obtain ⟨algorithm, designated⟩ := known
      obtain ⟨sector, found⟩ := resolved
      exact normalize_unclaimed variant settings fresh config algorithm
        ((config.submitted_iff _ _).mpr designated) sector found wanted blank

theorem normalize_specified :
    ((∃ saved, normalize variant settings fresh config = .ok saved) ↔ Savable variant settings config) ∧
      (∀ saved, normalize variant settings fresh config = .ok saved ↔
        Savable variant settings config ∧ Settled variant settings fresh config saved) ∧
      ∀ fault, normalize variant settings fresh config = .error fault ↔ Blame variant settings config fault := by
  refine ⟨savable_iff variant settings fresh config, fun saved => ⟨fun accepted => ?_, ?_⟩, fun fault => ?_⟩
  · exact ⟨(savable_iff variant settings fresh config).mp ⟨saved, accepted⟩,
      normalize_settles variant settings fresh config saved accepted⟩
  · rintro ⟨savable, settled⟩
    obtain ⟨stored, accepted⟩ := (savable_iff variant settings fresh config).mpr savable
    have same := settled_unique variant settings fresh config saved stored settled
      (normalize_settles variant settings fresh config stored accepted)
    rw [same, accepted]
  · exact ⟨normalize_blames variant settings fresh config fault, blamed_refused variant settings fresh config fault⟩

end Mapping

end PairwiseId
