import PairwiseId.Proofs.Claims.Custom
import PairwiseId.Proofs.Claims.Path
import PairwiseId.Proofs.Claims.Visible

/- What one run of a pairwise mapper can change. Each mapper has one part of the claims to write
   to, and it either writes there, once everything that can go wrong is behind it, or leaves the
   claims as they are. -/
namespace PairwiseId

set_option autoImplicit false

inductive Part where
  | subject
  | email
  | claim (name : String)

structure ChangesOnly {s : Surface} (part : Part) (before after : s.Claims) : Prop where
  fixed : s.fixed after = s.fixed before
  subject : part ≠ .subject → ClaimSet.subject after = ClaimSet.subject before
  email : part ≠ .email → ClaimSet.email after = ClaimSet.email before
  other : ∀ name, part ≠ .claim name →
    (ClaimSet.other after).get? name = (ClaimSet.other before).get? name

section Parts

variable {s : Surface} (claims : s.Claims)

theorem changes_nothing (part : Part) : ChangesOnly part claims claims :=
  ⟨rfl, fun _ => rfl, fun _ => rfl, fun _ _ => rfl⟩

theorem changes_subject (text : String) : ChangesOnly .subject claims (ClaimSet.setSubject claims text) where
  fixed := by cases s <;> rfl
  subject different := absurd rfl different
  email _ := email_set_subject claims text
  other name _ := congrArg (KeyMap.get? · name) (other_set_subject claims text)

theorem changes_email (text : String) : ChangesOnly .email claims (ClaimSet.setEmail claims text) where
  fixed := by cases s <;> rfl
  subject _ := subject_set_email claims text
  email different := absurd rfl different
  other name _ := congrArg (KeyMap.get? · name) (other_set_email claims text)

theorem changes_claim (path : String) (value : Json) :
    ChangesOnly (.claim (Claims.root path)) claims
      (ClaimSet.setOther claims (Claims.set (ClaimSet.other claims) path value)) where
  fixed := by cases s <;> rfl
  subject _ := subject_set_other claims _
  email _ := email_set_other claims _
  other name different := by
    obtain ⟨written, same⟩ := Claims.set_root (ClaimSet.other claims) path value
    rw [other_set_other, same]
    exact KeyMap.get?_put_other _ _ _ _ fun equal => different (congrArg Part.claim equal.symm)

end Parts

namespace Mapper

inductive Kind where
  | mapping (variant : Variant)
  | list

namespace Kind

def mapper : Kind → Mapper
  | mapping variant => ofVariant variant
  | list => pseudonymList

-- The part of the claims that its mapper writes to.
def part (config : MapperConfig) : Kind → Part
  | mapping .staticSector | mapping .simpleSector => .subject
  | mapping .email => .email
  | mapping .namedClaim | list => .claim (Claims.root (targetName config))

-- There is no pseudonym to write: no local identifier, or not one client with an entry.
def Idle (context : IssueContext) (config : MapperConfig) : Kind → Prop
  | mapping _ => ∀ user, context.user = some user → (LocalSource.ofConfig config).resolve user = none
  | list => ∀ user lookup entries, context.user = some user → context.lookup = some lookup →
      (PseudonymList.ofConfig config).pseudonyms lookup user = .ok entries → entries.isEmpty = true

end Kind

variable {s : Surface} (context : IssueContext) (config : MapperConfig) (claims : s.Claims)

theorem write_changes_only (variant : Variant) (mapping : Mapping) (p : Pseudonym) (user : User)
    (read : Mapping.ofConfig variant config = .ok mapping) :
    ChangesOnly (Kind.part config (.mapping variant)) claims (mapping.write p user claims) := by
  cases Mapping.of_config_reads variant config mapping read with
  | staticSector d parsed => exact changes_subject claims p.text
  | simpleSector d parsed => exact changes_subject claims p.text
  | email d parsed =>
      rw [Mapping.write]
      split
      · exact changes_email claims _
      · exact changes_nothing claims .email
  | namedClaim d parsed claimName named =>
      have target : targetName config = claimName := by rw [targetName, named, Option.getD_some]
      rw [Kind.part, target]
      exact changes_claim claims claimName _

-- What is so once something was written: nothing had failed, and there was something to write.
structure Written (kind : Kind) (outcome : Outcome s.Claims) : Prop where
  accepted : outcome.refusal = none
  present : context.user ≠ none
  busy : ¬ kind.Idle context config
  only : ChangesOnly (kind.part config) claims outcome.claims

theorem transform_effect (kind : Kind) :
    (kind.mapper.transform s context config claims).claims = claims ∨
      Written context config claims kind (kind.mapper.transform s context config claims) := by
  cases kind with
  | mapping variant =>
      have effect := apply_variant_effect context config claims variant
      change (applyVariant variant context config claims).claims = claims ∨
        Written context config claims (.mapping variant) (applyVariant variant context config claims)
      generalize applyVariant variant context config claims = outcome at effect
      cases effect with
      | kept refusal => exact .inl rfl
      | written user mapping localId present read resolved =>
          refine .inr ⟨rfl, by simp [present], fun idle => ?_,
            write_changes_only config claims variant mapping _ user read⟩
          cases resolved.symm.trans (idle user present)
  | list =>
      have effect := apply_list_effect context config claims
      change (applyList context config claims).claims = claims ∨
        Written context config claims .list (applyList context config claims)
      generalize applyList context config claims = outcome at effect
      cases effect with
      | kept refusal => exact .inl rfl
      | written user lookup entries present known collected notEmpty =>
          refine .inr ⟨rfl, by simp [present], fun idle => ?_, changes_claim claims (targetName config) _⟩
          cases notEmpty.symm.trans (idle user lookup entries present known collected)

theorem transform_changes_only (kind : Kind) :
    ChangesOnly (kind.part config) claims (kind.mapper.transform s context config claims).claims := by
  rcases transform_effect context config claims kind with kept | written
  · rw [kept]
    exact changes_nothing claims _
  · exact written.only

end Mapper

namespace Mapping

-- The convention alone decides how a pseudonym is made from a configuration.
def DerivesBy (config : MapperConfig) (convention : Convention) (derive : String → Pseudonym) : Prop :=
  match convention with
  | .salted => ∃ d, SaltedDerivation.ofConfig config = .ok d ∧ derive = d.derive
  | .sectorKeyed => ∃ d, SectorKeyedDerivation.ofConfig config = .ok d ∧ derive = d.derive

theorem derives_by_convention (variant : Variant) (config : MapperConfig) (mapping : Mapping)
    (read : ofConfig variant config = .ok mapping) : DerivesBy config variant.convention mapping.derive := by
  cases of_config_reads variant config mapping read with
  | staticSector d parsed => exact ⟨d, parsed, rfl⟩
  | simpleSector d parsed => exact ⟨d, parsed, rfl⟩
  | email d parsed => exact ⟨d, parsed, rfl⟩
  | namedClaim d parsed claimName named => exact ⟨d, parsed, rfl⟩

theorem derives_by_unique (config : MapperConfig) (convention : Convention) (first second : String → Pseudonym)
    (one : DerivesBy config convention first) (other : DerivesBy config convention second) : first = second := by
  cases convention with
  | salted =>
      obtain ⟨d, parsed, rfl⟩ := one
      obtain ⟨e, also, rfl⟩ := other
      rw [Except.ok.inj (parsed.symm.trans also)]
  | sectorKeyed =>
      obtain ⟨d, parsed, rfl⟩ := one
      obtain ⟨e, also, rfl⟩ := other
      rw [Except.ok.inj (parsed.symm.trans also)]

end Mapping

namespace Mapper

variable {s : Surface}

-- Where a pseudonym is to be seen afterwards. An address needs a domain, too.
def Shows (config : MapperConfig) (p : Pseudonym) (before after : s.Claims) : Variant → Prop
  | .staticSector | .simpleSector => ClaimSet.subject after = p.text
  | .email => after = before ∨ ∃ domain, ClaimSet.email after = some (p.text ++ "@" ++ domain)
  | .namedClaim => Claims.get? (ClaimSet.other after) (targetName config) = some (.str p.text)

structure Uses (variant : Variant) (config : MapperConfig) (user : User) (before after : s.Claims)
    (p : Pseudonym) : Prop where
  computed : ∃ mapping, Mapping.ofConfig variant config = .ok mapping ∧ mapping.pseudonymFor user = .ok (some p)
  shown : Shows config p before after variant

theorem write_shows (variant : Variant) (config : MapperConfig) (mapping : Mapping) (p : Pseudonym) (user : User)
    (claims : s.Claims) (read : Mapping.ofConfig variant config = .ok mapping) :
    Shows config p claims (mapping.write p user claims) variant := by
  cases Mapping.of_config_reads variant config mapping read with
  | staticSector d parsed => exact subject_set_subject claims p.text
  | simpleSector d parsed => exact subject_set_subject claims p.text
  | email d parsed =>
      rw [Mapping.write]
      split
      · exact .inr ⟨_, email_set_email claims _⟩
      · exact .inl rfl
  | namedClaim d parsed claimName named =>
      have target : targetName config = claimName := by rw [targetName, named, Option.getD_some]
      rw [Shows, target, Mapping.write, other_set_other]
      exact Claims.get_set _ claimName _

theorem transform_uses (variant : Variant) (context : IssueContext) (config : MapperConfig) (user : User)
    (localId : String) (claims after : s.Claims) (present : context.user = some user)
    (resolved : (LocalSource.ofConfig config).resolve user = some localId)
    (done : (ofVariant variant).transform s context config claims = .ok after) :
    ∃ derive, Mapping.DerivesBy config variant.convention derive ∧
      Uses variant config user claims after (derive localId) := by
  obtain ⟨mapping, read, rfl⟩ := apply_variant_ok variant context config user claims after present done
  refine ⟨mapping.derive, Mapping.derives_by_convention variant config mapping read, ⟨mapping, read, ?_⟩, ?_⟩
  · rw [Mapping.pseudonym_for_eq variant config mapping user read, resolved]
    rfl
  · rw [resolved]
    exact write_shows variant config mapping _ user claims read

theorem transform_atomic (kind : Kind) (s : Surface) (context : IssueContext) (config : MapperConfig)
    (claims : s.Claims) :
    ((kind.mapper.transform s context config claims).refusal ≠ none ∨ context.user = none ∨
          kind.Idle context config →
        (kind.mapper.transform s context config claims).claims = claims) ∧
      ChangesOnly (kind.part config) claims (kind.mapper.transform s context config claims).claims ∧
      ∀ (one other : Variant) (user : User) (others after also : s.Claims), one.convention = other.convention →
        context.user = some user → (LocalSource.ofConfig config).resolve user ≠ none →
        (ofVariant one).transform s context config claims = .ok after →
        (ofVariant other).transform s context config others = .ok also →
        ∃ p, Uses one config user claims after p ∧ Uses other config user others also p := by
  refine ⟨fun stopped => ?_, transform_changes_only context config claims kind, ?_⟩
  · rcases transform_effect context config claims kind with kept | written
    · exact kept
    · rcases stopped with failed | absent | idle
      · exact absurd written.accepted failed
      · exact absurd absent written.present
      · exact absurd idle written.busy
  · intro one other user others after also same present has done alsoDone
    obtain ⟨localId, resolved⟩ := Option.ne_none_iff_exists'.mp has
    obtain ⟨derive, own, uses⟩ := transform_uses one context config user localId claims after present resolved done
    obtain ⟨derives, its, alsoUses⟩ :=
      transform_uses other context config user localId others also present resolved alsoDone
    obtain rfl := Mapping.derives_by_unique config other.convention derive derives (same ▸ own) its
    exact ⟨derive localId, uses, alsoUses⟩

-- Every variant can read it.
def wideMapper : MapperConfig :=
  sampleMapper 0 Variant.namedClaim.mapperType
    [sampleSector, (OptionKey.salt, "s"), (OptionKey.claimName, " p.id "), (OptionKey.emailDomain, "b.example"),
      (OptionKey.algorithm, Algorithm.md5.name)]

def runWide (variant : Variant) : Outcome AccessClaims :=
  (ofVariant variant).transform .accessToken { user := some sampleUser } wideMapper sampleAccess

theorem wide_mapper_atomic :
    (∃ p, Uses (s := .accessToken) .staticSector wideMapper sampleUser sampleAccess
          (runWide .staticSector).claims p ∧
        Uses (s := .accessToken) .email wideMapper sampleUser sampleAccess (runWide .email).claims p) ∧
      (runWide .email).claims.email.isSome = true ∧
      ChangesOnly (s := .accessToken) (.claim "p") sampleAccess (runWide .namedClaim).claims ∧
      (runWide .namedClaim).claims.other.isEmpty = false := by
  have done := Outcome.eq_ok (runWide .staticSector) (by decide +kernel)
  have alsoDone := Outcome.eq_ok (runWide .email) (by decide +kernel)
  obtain ⟨_, only, same⟩ :=
    transform_atomic (.mapping .namedClaim) .accessToken { user := some sampleUser } wideMapper sampleAccess
  have root : Claims.root (targetName wideMapper) = "p" := by decide +kernel
  rw [Kind.part, root] at only
  exact ⟨same .staticSector .email sampleUser sampleAccess _ _ rfl rfl (by decide +kernel) done alsoDone,
    by decide +kernel, only, by decide +kernel⟩

end Mapper

end PairwiseId
