import PairwiseId.Proofs.Claims.Visible
import PairwiseId.Proofs.Mapper.Order
import PairwiseId.Proofs.Mapper.Types

/- One issuance for all surfaces. The pairwise mappers reach a token only through what is
   visible to them, so which kind of token it is makes no difference, and the rest of the token
   stays as it was, also when a mapper fails. -/
namespace PairwiseId

set_option autoImplicit false

def Outcome.map {C D : Type} (f : C → D) (outcome : Outcome C) : Outcome D :=
  ⟨f outcome.claims, outcome.refusal⟩

-- What is done next, unless there was a failure.
def Outcome.andThen {C : Type} (outcome : Outcome C) (next : C → Outcome C) : Outcome C :=
  outcome.refusal.elim (next outcome.claims) fun _ => outcome

theorem Outcome.of_except_map {C D : Type} (f : C → D) (before : C) (value : Except Fault C) :
    ofExcept (f before) (f <$> value) = (ofExcept before value).map f := by
  cases value <;> rfl

section Morphism

variable {C D : Type} [ClaimSet C] [ClaimSet D] {f : C → D}

theorem Mapping.write_morphism (through : ClaimSet.Morphism f) (mapping : Mapping) (p : Pseudonym) (user : User)
    (claims : C) : mapping.write p user (f claims) = f (mapping.write p user claims) := by
  cases mapping with
  | staticSector d => exact through.setSubject claims p.text
  | simpleSector d => exact through.setSubject claims p.text
  | email d configured =>
      have same : targetDomain? configured user (f claims) = targetDomain? configured user claims := by
        simp only [targetDomain?, through.email]
      simp only [write, same]
      cases targetDomain? configured user claims with
      | none => rfl
      | some domain => exact through.setEmail claims _
  | namedClaim d claimName => simp only [write, through.other, through.setOther]

theorem Mapping.apply_morphism (through : ClaimSet.Morphism f) (mapping : Mapping) (user : User) (claims : C) :
    mapping.apply user (f claims) = f <$> mapping.apply user claims := by
  unfold apply
  cases mapping.pseudonymFor user with
  | error fault => rfl
  | ok pseudonym =>
      cases pseudonym with
      | none => rfl
      | some p => exact congrArg Except.ok (write_morphism through mapping p user claims)

theorem PseudonymList.apply_morphism (through : ClaimSet.Morphism f) (list : PseudonymList) (lookup : Lookup)
    (user : User) (claims : C) : list.apply lookup user (f claims) = f <$> list.apply lookup user claims := by
  unfold apply
  split
  · rfl
  · cases list.pseudonyms lookup user with
    | error fault => rfl
    | ok entries =>
        simp only [bind, Except.bind, through.other, through.setOther]
        split <;> rfl

variable (context : IssueContext) (config : MapperConfig) (claims : C)

theorem Mapper.apply_variant_morphism (through : ClaimSet.Morphism f) (variant : Variant) :
    applyVariant variant context config (f claims) = (applyVariant variant context config claims).map f := by
  unfold applyVariant
  cases context.user with
  | none => rfl
  | some user =>
      dsimp only
      rw [← Outcome.of_except_map]
      cases Mapping.ofConfig variant config with
      | error fault => rfl
      | ok mapping => exact congrArg (Outcome.ofExcept (f claims)) (mapping.apply_morphism through user claims)

theorem Mapper.apply_list_morphism (through : ClaimSet.Morphism f) :
    applyList context config (f claims) = (applyList context config claims).map f := by
  unfold applyList
  split
  · rw [PseudonymList.apply_morphism through, Outcome.of_except_map]
  · rfl

end Morphism

namespace Registry

-- Some work that is the same on every surface, because it is done on the visible claims.
def SharedBy (work : (s : Surface) → s.Claims → Outcome s.Claims) (shared : Visible → Outcome Visible) : Prop :=
  ∀ (s : Surface) (claims : s.Claims) (v : Visible),
    work s (s.withVisible claims v) = (shared v).map (s.withVisible claims)

variable (context : IssueContext)

theorem transform_shared (config : MapperConfig) (mapper : Mapper)
    (found : pairwise.get? config.mapperType = some mapper) :
    ∃ shared, SharedBy (fun s => mapper.transform s context config) shared := by
  rcases pairwise_get_some _ _ found with ⟨variant, _, rfl⟩ | ⟨_, rfl⟩
  · exact ⟨Mapper.applyVariant variant context config, fun s claims v =>
      Mapper.apply_variant_morphism context config v (s.with_visible_morphism claims) variant⟩
  · exact ⟨Mapper.applyList context config, fun s claims v =>
      Mapper.apply_list_morphism context config v (s.with_visible_morphism claims)⟩

theorem run_shared (configs : List MapperConfig) :
    ∃ shared, SharedBy (fun s => run pairwise s context configs) shared := by
  induction configs with
  | nil => exact ⟨.ok, fun s claims v => rfl⟩
  | cons config rest ih =>
      obtain ⟨later, same⟩ := ih
      cases found : pairwise.get? config.mapperType with
      | none =>
          refine ⟨later, fun s claims v => ?_⟩
          exact (run_unknown _ pairwise_in_step s context config rest _ found).trans (same s claims v)
      | some mapper =>
          obtain ⟨first, own⟩ := transform_shared context config mapper found
          refine ⟨fun v => (first v).andThen later, fun s claims v => ?_⟩
          have done : mapper.transform s context config (s.withVisible claims v) = _ := own s claims v
          dsimp only
          rw [run_known _ pairwise_in_step s context config rest _ mapper found, done]
          simp only [Outcome.map, Outcome.andThen]
          cases refused : (first v).refusal with
          | none => exact same s claims (first v).claims
          | some refusal => simp only [refused, Option.elim]

theorem surfaces_agree (first second : Surface) (context : IssueContext) (configs : List MapperConfig)
    (one : first.Claims) (other : second.Claims)
    (balanced : ∀ config ∈ configs, config.isIncluded first = config.isIncluded second)
    (agree : visible one = visible other) :
    (pairwise.issue first context configs one).refusal = (pairwise.issue second context configs other).refusal ∧
      visible (pairwise.issue first context configs one).claims =
        visible (pairwise.issue second context configs other).claims ∧
      first.fixed (pairwise.issue first context configs one).claims = first.fixed one ∧
      second.fixed (pairwise.issue second context configs other).claims = second.fixed other := by
  have selected : configs.filter (MapperConfig.isIncluded second) = configs.filter (MapperConfig.isIncluded first) :=
    List.filter_congr fun config member => (balanced config member).symm
  obtain ⟨shared, same⟩ := run_shared context (pairwise.inOrder (configs.filter (MapperConfig.isIncluded first)))
  have issued : pairwise.issue first context configs one = (shared (visible one)).map (first.withVisible one) := by
    rw [← same, first.with_visible_self, issue]
  have counterpart : pairwise.issue second context configs other =
      (shared (visible one)).map (second.withVisible other) := by
    rw [← same, agree, second.with_visible_self, issue, selected]
  rw [issued, counterpart]
  exact ⟨rfl, (first.visible_with _ _).trans (second.visible_with _ _).symm, first.fixed_with _ _,
    second.fixed_with _ _⟩

def sampleIdentity : IdClaims :=
  { issuer := "https://sso.example", subject := "alice", audience := .single "a", expiry := 1700000300,
    issuedAt := 1700000000, nonce := some "n" }

-- The second has no salt and fails. The third would have changed the subject of identity tokens.
def balancedMappers : List MapperConfig :=
  [sampleMapper 0 Variant.namedClaim.mapperType
      [sampleSector, (OptionKey.claimName, "ids.pairwise"), (OptionKey.algorithm, Algorithm.md5.name)],
    sampleMapper 1 Variant.email.mapperType [sampleSector],
    sampleMapper 2 Variant.simpleSector.mapperType
      [sampleSector, (Surface.accessToken.optionKey, "false"), (Surface.idToken.optionKey, "false")]]

def balancedAccess : Outcome AccessClaims :=
  pairwise.issue .accessToken { user := some sampleUser } balancedMappers sampleAccess

def balancedIdentity : Outcome IdClaims :=
  pairwise.issue .idToken { user := some sampleUser } balancedMappers sampleIdentity

theorem failing_surfaces_agree :
    (∀ config ∈ balancedMappers, config.isIncluded .accessToken = config.isIncluded .idToken) ∧
      visible sampleAccess = visible sampleIdentity ∧ balancedAccess.refusal = some (.mapper .missingSalt) ∧
      balancedAccess.claims.other.isEmpty = false ∧ balancedIdentity.refusal = balancedAccess.refusal ∧
      visible balancedIdentity.claims = visible balancedAccess.claims ∧
      balancedIdentity.claims.fixed = sampleIdentity.fixed := by
  have balanced : ∀ config ∈ balancedMappers, config.isIncluded .accessToken = config.isIncluded .idToken := by
    decide +kernel
  have agree : visible sampleAccess = visible sampleIdentity := rfl
  obtain ⟨failed, written⟩ : balancedAccess.refusal = some (.mapper .missingSalt) ∧
      balancedAccess.claims.other.isEmpty = false := by decide +kernel
  obtain ⟨refused, same, _, kept⟩ :=
    surfaces_agree .accessToken .idToken { user := some sampleUser } balancedMappers sampleAccess sampleIdentity
      balanced agree
  exact ⟨balanced, agree, failed, written, refused.symm, same.symm, kept⟩

end Registry

end PairwiseId
