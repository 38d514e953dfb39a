import PairwiseId.Proofs.Claims.Token
import PairwiseId.Proofs.Mapper.Transform

/- Mappers that write a claim of their own leave every field of the claims as it
   is. In the token a claim hides the field of its name, so a registered name as
   the target of such a mapper replaces what the token says there. -/
namespace PairwiseId.Mapper

set_option autoImplicit false

-- The claim that a configuration names, if it names one.
def targetName (config : MapperConfig) : String := (config.getNonBlank? OptionKey.claimName).getD ""

-- The mappers that write a claim of their own.
def WritesCustom (mapper : Mapper) : Prop :=
  mapper = ofVariant .namedClaim ∨ mapper = pseudonymList

theorem named_claim_writes (s : Surface) (context : IssueContext) (config : MapperConfig)
    (claims after : s.Claims)
    (done : applyVariant .namedClaim context config claims = .ok after) :
    after = claims ∨ ∃ value, after =
      ClaimSet.setOther claims (Claims.set (ClaimSet.other claims) (targetName config) value) := by
  cases present : context.user with
  | none =>
      rw [applyVariant, present] at done
      exact .inl (congrArg Outcome.claims done).symm
  | some user =>
      obtain ⟨mapping, read, rfl⟩ := apply_variant_ok .namedClaim context config user claims after present done
      cases Mapping.of_config_reads .namedClaim config mapping read with
      | namedClaim d parsed claimName named =>
          cases (LocalSource.ofConfig config).resolve user with
          | none => exact .inl rfl
          | some localId =>
              refine .inr ⟨.str (d.derive localId).text, ?_⟩
              simp only [targetName, named, Option.getD_some]
              rfl

theorem custom_writes (s : Surface) (mapper : Mapper) (context : IssueContext) (config : MapperConfig)
    (claims after : s.Claims) (custom : WritesCustom mapper)
    (done : mapper.transform s context config claims = .ok after) :
    after = claims ∨ ∃ value, after =
      ClaimSet.setOther claims (Claims.set (ClaimSet.other claims) (targetName config) value) := by
  rcases custom with rfl | rfl
  · exact named_claim_writes s context config claims after done
  · rcases apply_list_ok context config claims after done with same | ⟨entries, same⟩
    · exact .inl same
    · exact .inr ⟨_, same⟩

theorem written_field (s : Surface) (claims : s.Claims) (name key : String) (written : Json) :
    (s.token (ClaimSet.setOther claims ((ClaimSet.other claims).put name written))).get? key =
      if key = name then some written else (s.token claims).get? key := by
  rw [token_get, token_get, other_set_other, fields_set_other, KeyMap.get_put]
  by_cases same : key = name
  · simp [same]
  · simp [same]

theorem registered_fields_kept_iff (s : Surface) (mapper : Mapper) (context : IssueContext)
    (config : MapperConfig) (claims after : s.Claims) (custom : WritesCustom mapper)
    (unhidden : ∀ field ∈ s.registered, (ClaimSet.other claims).get? field = none)
    (done : mapper.transform s context config claims = .ok after) :
    (∀ field ∈ s.registered, (s.token after).get? field = (s.token claims).get? field) ↔
      Claims.root (targetName config) ∉ s.registered ∨ after = claims ∨
        (ClaimSet.other after).get? (Claims.root (targetName config)) =
          (s.token claims).get? (Claims.root (targetName config)) := by
  rcases custom_writes s mapper context config claims after custom done with rfl | ⟨value, rfl⟩
  · simp
  · obtain ⟨written, changed⟩ := Claims.set_root (ClaimSet.other claims) (targetName config) value
    rw [changed]
    constructor
    · intro kept
      by_cases registered : Claims.root (targetName config) ∈ s.registered
      · have shown := kept _ registered
        rw [written_field, if_pos rfl] at shown
        exact .inr (.inr (by rw [other_set_other, KeyMap.get?_put_self, shown]))
      · exact .inl registered
    · rintro free field registered
      rw [written_field]
      split
      · rename_i same
        subst same
        rcases free with absent | unchanged | shown
        · exact absurd registered absent
        · -- No claim of this name was there before, and now there is one.
          have hidden := congrArg (fun c => (ClaimSet.other c).get? (Claims.root (targetName config))) unchanged
          simp [unhidden _ registered] at hidden
        · rw [← shown, other_set_other, KeyMap.get?_put_self]
      · rfl

def nonceNamedClaim : MapperConfig :=
  sampleMapper 0 Variant.namedClaim.mapperType [sampleSector, (OptionKey.claimName, "nonce.id")]

-- The nonce is a field of identity tokens only.
theorem nonce_claim_keeps_access_fields :
    WritesCustom (ofVariant .namedClaim) ∧
      (∀ field ∈ Surface.accessToken.registered, (ClaimSet.other sampleAccess).get? field = none) ∧
      ∃ after : AccessClaims, (ofVariant .namedClaim).transform .accessToken { user := some sampleUser }
        nonceNamedClaim sampleAccess = .ok after ∧
      ∀ field ∈ Surface.accessToken.registered,
        (AccessClaims.token after).get? field = (AccessClaims.token sampleAccess).get? field := by
  have unhidden : ∀ field ∈ Surface.accessToken.registered,
      (ClaimSet.other sampleAccess).get? field = none := fun _ _ => rfl
  have written := Outcome.eq_ok (C := AccessClaims)
    ((ofVariant .namedClaim).transform .accessToken { user := some sampleUser } nonceNamedClaim sampleAccess)
    (by decide +kernel)
  have kept := (registered_fields_kept_iff .accessToken (ofVariant .namedClaim) { user := some sampleUser }
    nonceNamedClaim sampleAccess _ (.inl rfl) unhidden written).mpr (.inl (by decide +kernel))
  exact ⟨.inl rfl, unhidden, _, written, kept⟩

def subjectNamedClaim : MapperConfig :=
  sampleMapper 0 Variant.namedClaim.mapperType
    [sampleSector, (OptionKey.claimName, "sub"), (OptionKey.algorithm, Algorithm.md5.name)]

def sampleSaving : SaveContext := ⟨.client "a", fun _ => none, {}, sampleSalt⟩

theorem custom_claim_hides_subject :
    ¬ ∀ (s : Surface) (saving : SaveContext) (submitted config : MapperConfig) (mapper : Mapper)
        (context : IssueContext) (claims after : s.Claims),
      WritesCustom mapper → Registry.pairwise.get? submitted.mapperType = some mapper →
      Registry.pairwise.checkSave saving submitted = .ok config →
      (∀ field ∈ s.registered, (ClaimSet.other claims).get? field = none) →
      mapper.transform s context config claims = .ok after →
      ∀ field ∈ s.registered, (s.token after).get? field = (s.token claims).get? field := by
  intro kept
  have accepted := to_option_ok (Registry.pairwise.checkSave sampleSaving subjectNamedClaim)
    subjectNamedClaim (by decide +kernel)
  have written := Outcome.eq_ok (C := AccessClaims)
    ((ofVariant .namedClaim).transform .accessToken { user := some sampleUser } subjectNamedClaim sampleAccess)
    (by decide +kernel)
  have same := kept .accessToken sampleSaving subjectNamedClaim subjectNamedClaim (ofVariant .namedClaim)
    { user := some sampleUser } sampleAccess _ (.inl rfl) (Registry.pairwise_get_variant .namedClaim) accepted
    (fun _ _ => rfl) written "sub" (by decide)
  have texts := congrArg (fun value => value.bind Json.asText?) same
  revert texts
  decide +kernel

end PairwiseId.Mapper
