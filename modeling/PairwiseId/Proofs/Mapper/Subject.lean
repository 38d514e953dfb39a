import PairwiseId.Proofs.Mapper.Failures
import PairwiseId.Proofs.Mapper.Issue

/- Which configuration decides the subject of a token: the last one that is included, is of one of
   the two subject types and has a local identifier for the user. No other type of configuration
   has a say in it, wherever it stands. -/
namespace PairwiseId.Registry

set_option autoImplicit false

def isCandidate (s : Surface) (config : MapperConfig) : Bool :=
  config.isIncluded s && (subjectVariant? config).isSome

structure Effective (s : Surface) (user : User) (config : MapperConfig) (localId : String) : Prop where
  candidate : isCandidate s config = true
  resolved : (LocalSource.ofConfig config).resolve user = some localId

structure LastEffective (s : Surface) (user : User) (configs : List MapperConfig) (config : MapperConfig)
    (localId : String) : Prop where
  effective : Effective s user config localId
  last : ∃ before later, configs = before ++ config :: later ∧
    ∀ c ∈ later, ∀ other, ¬ Effective s user c other

-- The pseudonym of a local identifier, from the configuration's own options.
inductive SubjectFor (config : MapperConfig) (localId : String) : Pseudonym → Prop where
  | salted (algorithm : Algorithm) (salt : String) (sector : Sector) (p : Pseudonym)
      (type : config.mapperType = Variant.staticSector.mapperType)
      (named : config.storedAlgorithm = .ok algorithm) (keyed : config.salt? = some salt)
      (divided : config.sector .staticUri = .ok sector)
      (computed : Pseudonym.generateSalted algorithm (some salt) sector localId = .ok p) :
      SubjectFor config localId p
  | sectorKeyed (algorithm : Algorithm) (sector : Sector) (p : Pseudonym)
      (type : config.mapperType = Variant.simpleSector.mapperType)
      (named : config.storedAlgorithm = .ok algorithm) (divided : config.sector .simple = .ok sector)
      (computed : Pseudonym.generateSectorKeyed algorithm sector localId = .ok p) :
      SubjectFor config localId p

section Single

variable (config : MapperConfig)

theorem subject_for_mapping (variant : Variant) (mapping : Mapping) (localId : String)
    (chosen : subjectVariant? config = some variant) (read : Mapping.ofConfig variant config = .ok mapping) :
    SubjectFor config localId (mapping.derive localId) := by
  have type := subject_variant_type config variant chosen
  have either := subject_variant_cases config variant chosen
  cases Mapping.of_config_reads variant config mapping read with
  | staticSector d parsed =>
      obtain ⟨keyed, named, divided, _⟩ := SaltedDerivation.of_config_ok config d parsed
      exact .salted d.algorithm d.salt d.sector _ type named keyed divided (d.generated config localId parsed)
  | simpleSector d parsed =>
      obtain ⟨named, divided, _⟩ := SectorKeyedDerivation.of_config_ok config d parsed
      exact .sectorKeyed d.algorithm d.sector _ type named divided (Pseudonym.generate_sector_keyed_eq _ _ localId)
  | email d parsed => simp at either
  | namedClaim d parsed claimName named => simp at either

theorem subject_of_effective (s : Surface) (user : User) (localId : String) (lookup : Option Lookup)
    (effective : Effective s user config localId)
    (readable : ∀ read ∈ readFor lookup config, faultOf? read = none) :
    ∃ p, subjectOf? user config = some p ∧ SubjectFor config localId p := by
  obtain ⟨included, typed⟩ := Bool.and_eq_true_iff.mp effective.candidate
  obtain ⟨variant, chosen⟩ := Option.isSome_iff_exists.mp typed
  have own := readable (variant, config) (by
    rw [read_for_variant config lookup variant (subject_variant_type config variant chosen)]
    exact List.mem_singleton_self _)
  cases read : Mapping.ofConfig variant config with
  | error fault =>
      rw [faultOf?, read] at own
      cases own
  | ok mapping =>
      refine ⟨mapping.derive localId, ?_, subject_for_mapping config variant mapping localId chosen read⟩
      rw [subject_of_mapped user config variant mapping chosen read, effective.resolved]
      rfl

theorem effective_of_subject (s : Surface) (user : User) (p : Pseudonym) (included : config.isIncluded s = true)
    (writes : subjectOf? user config = some p) : ∃ localId, Effective s user config localId := by
  simp only [subjectOf?, Option.bind_eq_bind, Option.bind_eq_some_iff] at writes
  obtain ⟨variant, chosen, _, _, localId, resolved, _⟩ := writes
  exact ⟨localId, by simp [isCandidate, included, chosen], resolved⟩

end Single

-- The pseudonyms that are written to the subject, in this order.
def subjectsOf (s : Surface) (user : User) (configs : List MapperConfig) : List Pseudonym :=
  (configs.filter (MapperConfig.isIncluded s)).filterMap (subjectOf? user)

section Lists

variable (s : Surface) (user : User)

theorem subjects_of_append (before later : List MapperConfig) :
    subjectsOf s user (before ++ later) = subjectsOf s user before ++ subjectsOf s user later := by
  rw [subjectsOf, List.filter_append, List.filterMap_append]
  rfl

theorem subjects_of_cons (config : MapperConfig) (later : List MapperConfig) (p : Pseudonym)
    (included : config.isIncluded s = true) (writes : subjectOf? user config = some p) :
    subjectsOf s user (config :: later) = p :: subjectsOf s user later := by
  rw [subjectsOf, List.filter_cons_of_pos included, List.filterMap_cons_some writes]
  rfl

theorem subjects_of_ineffective (configs : List MapperConfig)
    (ineffective : ∀ c ∈ configs, ∀ localId, ¬ Effective s user c localId) : subjectsOf s user configs = [] := by
  rw [subjectsOf, List.filterMap_eq_nil_iff]
  intro c kept
  obtain ⟨member, included⟩ := List.mem_filter.mp kept
  cases writes : subjectOf? user c with
  | none => rfl
  | some p =>
      obtain ⟨localId, effective⟩ := effective_of_subject c s user p included writes
      exact absurd effective (ineffective c member localId)

-- A configuration that is no candidate writes no subject.
theorem subjects_of_candidates (configs : List MapperConfig) :
    subjectsOf s user (configs.filter (isCandidate s)) = subjectsOf s user configs := by
  rw [subjectsOf, subjectsOf, List.filter_filter, List.filterMap_filter, List.filterMap_filter]
  refine List.filterMap_congr fun config _ => ?_
  cases chosen : subjectVariant? config with
  | none => simp [isCandidate, chosen, subject_of_other user config chosen]
  | some variant => simp [isCandidate, chosen]

end Lists

section Runs

variable (s : Surface) (context : IssueContext)

-- Sorting moves what is read, but everything is still read.
theorem issue_accepted_iff (user : User) (configs : List MapperConfig) (claims : s.Claims)
    (present : context.user = some user) :
    (pairwise.issue s context configs claims).refusal = none ↔
      ∀ config ∈ configs, config.isIncluded s = true →
        ∀ read ∈ readFor context.lookup config, faultOf? read = none := by
  have sorted := in_order_perm pairwise (configs.filter (MapperConfig.isIncluded s))
  simp only [issue_refusal, consulted, present, Option.map_eq_none_iff, List.findSome?_eq_none_iff]
  constructor
  · intro accepted config member included read listed
    have placed := sorted.mem_iff.mpr (List.mem_filter.mpr ⟨member, included⟩)
    exact accepted read (List.mem_flatMap.mpr ⟨config, placed, listed⟩)
  · intro readable read listed
    obtain ⟨config, placed, own⟩ := List.mem_flatMap.mp listed
    obtain ⟨member, included⟩ := List.mem_filter.mp (sorted.mem_iff.mp placed)
    exact readable config member included read own

theorem issue_keeps_subject (configs : List MapperConfig) (claims : s.Claims)
    (uninvolved : ∀ config ∈ configs, isCandidate s config = false) :
    ClaimSet.subject (pairwise.issue s context configs claims).claims = ClaimSet.subject claims := by
  refine run_preserves pairwise pairwise_in_step s context
    (fun c => ClaimSet.subject c = ClaimSet.subject claims) _ claims rfl
    fun config placed mapper found c same => ?_
  obtain ⟨member, included⟩ := List.mem_filter.mp ((in_order_perm pairwise _).mem_iff.mp placed)
  have ignored : subjectVariant? config = none := by simpa [isCandidate, included] using uninvolved config member
  exact (transform_keeps_subject s context config mapper c found ignored).trans same

end Runs

theorem last_effective_decides (s : Surface) (context : IssueContext) (user : User) (configs : List MapperConfig)
    (claims after : s.Claims) (present : context.user = some user)
    (done : pairwise.issue s context configs claims = .ok after) :
    (∀ config localId, LastEffective s user configs config localId →
        ∃ p, SubjectFor config localId p ∧ ClaimSet.subject after = p.text) ∧
      ((∀ config ∈ configs, ∀ localId, ¬ Effective s user config localId) →
        ClaimSet.subject after = ClaimSet.subject claims) ∧
      (∃ alone, pairwise.issue s context (configs.filter (isCandidate s)) claims = .ok alone ∧
        ClaimSet.subject alone = ClaimSet.subject after) ∧
      ∀ (issued : IssueContext) (others : List MapperConfig) (initial : s.Claims),
        (∀ config ∈ others, isCandidate s config = false) →
          ClaimSet.subject (pairwise.issue s issued others initial).claims = ClaimSet.subject initial := by
  have subject : ClaimSet.subject after =
      ((subjectsOf s user configs).getLast?.map Pseudonym.text).getD (ClaimSet.subject claims) :=
    issue_subject s context user configs claims after present done
  have readable := (issue_accepted_iff s context user configs claims present).mp (by rw [done]; rfl)
  refine ⟨fun config localId decisive => ?_, fun ineffective => ?_, ?_, fun issued others initial =>
    issue_keeps_subject s issued others initial⟩
  · obtain ⟨before, later, rfl, ineffective⟩ := decisive.last
    have included := (Bool.and_eq_true_iff.mp decisive.effective.candidate).1
    obtain ⟨p, writes, own⟩ := subject_of_effective config s user localId context.lookup decisive.effective
      (readable config (by simp) included)
    refine ⟨p, own, ?_⟩
    rw [subject, subjects_of_append, subjects_of_cons s user config later p included writes,
      subjects_of_ineffective s user later ineffective, List.getLast?_concat]
    rfl
  · rw [subject, subjects_of_ineffective s user configs ineffective]
    rfl
  · have accepted : (pairwise.issue s context (configs.filter (isCandidate s)) claims).refusal = none :=
      (issue_accepted_iff s context user _ claims present).mpr fun config member =>
        readable config (List.mem_filter.mp member).1
    have alone := Outcome.eq_ok _ accepted
    refine ⟨_, alone, ?_⟩
    have own := issue_subject s context user _ claims _ present alone
    rw [own, subject, ← subjects_of_candidates s user configs]
    rfl

def saltedMapper (n : UInt8) (localId : String) : MapperConfig :=
  sampleMapper n Variant.staticSector.mapperType
    [sampleSector, (OptionKey.salt, "s"), (OptionKey.algorithm, Algorithm.md5.name),
      (OptionKey.localIdAttribute, localId)]

def keyedMapper (n : UInt8) (variant : Variant) (options : List (String × String)) : MapperConfig :=
  sampleMapper n variant.mapperType
    (sampleSector :: (OptionKey.algorithm, Algorithm.md5.name) :: (OptionKey.localIdAttribute, "nr") :: options)

def decisiveMapper : MapperConfig := keyedMapper 2 .simpleSector []

-- A mapper with a claim of its own, an excluded one, one without a local identifier, and an unknown one.
def behindDecisive : List MapperConfig :=
  [keyedMapper 3 .namedClaim [(OptionKey.claimName, "p.id")],
    keyedMapper 4 .simpleSector [(Surface.accessToken.optionKey, "false")],
    saltedMapper 5 "badge", sampleMapper 6 "unknown" [sampleSector]]

def severalSubjects : List MapperConfig := saltedMapper 1 "id" :: decisiveMapper :: behindDecisive

theorem mapper_before_others_decides :
    ∃ after, pairwise.issue .accessToken { user := some sampleUser } severalSubjects sampleAccess = .ok after ∧
      (∃ p, SubjectFor decisiveMapper "42" p ∧ after.subject = p.text) ∧
      after.subject ≠ sampleAccess.subject ∧ after.other.isEmpty = false := by
  have done := Outcome.eq_ok
    (pairwise.issue .accessToken { user := some sampleUser } severalSubjects sampleAccess) (by decide +kernel)
  have ineffective : ∀ c ∈ behindDecisive,
      isCandidate .accessToken c = false ∨ (LocalSource.ofConfig c).resolve sampleUser = none := by decide +kernel
  have decisive : LastEffective .accessToken sampleUser severalSubjects decisiveMapper "42" :=
    { effective := ⟨by decide +kernel, by decide +kernel⟩
      last := by
        refine ⟨[saltedMapper 1 "id"], behindDecisive, rfl, fun c member other effective => ?_⟩
        rcases ineffective c member with excluded | absent
        · cases effective.candidate.symm.trans excluded
        · cases effective.resolved.symm.trans absent }
  obtain ⟨decided, _⟩ := last_effective_decides .accessToken _ sampleUser _ sampleAccess _ rfl done
  exact ⟨_, done, decided decisiveMapper "42" decisive, by decide +kernel, by decide +kernel⟩

end PairwiseId.Registry
