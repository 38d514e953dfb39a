import PairwiseId.Proofs.Claims.Edits
import PairwiseId.Proofs.Mapper.Issue

/- Issuing claims twice. Whether the pairwise mappers succeed does not depend on the
   claims, and when they do, each of them amounts to edits that the configuration, the
   user and the other clients determine. -/
namespace PairwiseId

set_option autoImplicit false

variable {C : Type} [ClaimSet C]

-- Whatever the claims are, the same edits are made.
def AmountsTo (own : Option String) (step : C → Outcome C) (edits : List Edit) : Prop :=
  ∀ claims, step claims = .ok (runAll (Edit.apply own) edits claims)

namespace Mapping

def edit (p : Pseudonym) : Mapping → Edit
  | staticSector _ | simpleSector _ => .subject p.text
  | email _ configured => .email p.text configured
  | namedClaim _ claimName => .claim (Claims.segments claimName, .str p.text)

theorem target_domain_eq (configured : Option String) (user : User) (claims : C) :
    targetDomain? configured user claims = Edit.domain? user.email configured claims := by
  cases configured with
  | some domain => rfl
  | none =>
      simp only [targetDomain?, Edit.domain?]
      cases ClaimSet.email claims with
      | none => rfl
      | some address => rfl

theorem write_eq (mapping : Mapping) (p : Pseudonym) (user : User) (claims : C) :
    mapping.write p user claims = (mapping.edit p).apply user.email claims := by
  cases mapping with
  | email d configured =>
      cases chosen : Edit.domain? user.email configured claims with
      | none => simp only [write, edit, Edit.apply, target_domain_eq, chosen]
      | some domain => simp only [write, edit, Edit.apply, target_domain_eq, chosen]
  | staticSector d => rfl
  | simpleSector d => rfl
  | namedClaim d claimName => rfl

end Mapping

namespace Mapper

variable (context : IssueContext) (config : MapperConfig)

theorem variant_edits (variant : Variant) (claims after : C)
    (done : applyVariant variant context config claims = .ok after) :
    ∃ edits, AmountsTo (C := C) (context.user.bind User.email) (applyVariant variant context config) edits := by
  cases present : context.user with
  | none => exact ⟨[], fun claims => by simp only [applyVariant, present]; rfl⟩
  | some user =>
      obtain ⟨mapping, read, _⟩ := apply_variant_ok variant context config user claims after present done
      have applied := fun claims : C => apply_variant_read variant context config mapping user claims present read
      cases localId : (LocalSource.ofConfig config).resolve user with
      | none => exact ⟨[], fun claims => by rw [applied, localId]; rfl⟩
      | some l =>
          refine ⟨[mapping.edit (mapping.derive l)], fun claims => ?_⟩
          rw [applied, localId, Mapping.applied, Mapping.write_eq]
          rfl

theorem list_edits (list : PseudonymList) (lookup : Lookup) (user : User) (s : Surface)
    (claims after : s.Claims) (done : list.apply lookup user claims = .ok after) :
    ∃ edits, ∀ others : s.Claims,
      list.apply lookup user others = .ok (runAll (Edit.apply user.email) edits others) := by
  by_cases unnamed : list.claimName = ""
  · exact ⟨[], fun others => by rw [PseudonymList.apply, if_pos unnamed]; rfl⟩
  · rw [PseudonymList.apply, if_neg unnamed, bind_ok] at done
    obtain ⟨entries, collected, _⟩ := done
    have applied : ∀ others : s.Claims, list.apply lookup user others = .ok
        (if entries.isEmpty then others
          else ClaimSet.setOther others (Claims.merge (ClaimSet.other others) list.claimName entries)) := by
      intro others
      rw [PseudonymList.apply, if_neg unnamed, collected]
      simp only [bind, Except.bind, pure, Except.pure]
      split <;> rfl
    cases none : entries.isEmpty with
    | true => exact ⟨[], fun others => by rw [applied, none]; rfl⟩
    | false =>
        refine ⟨(Claims.mergeWrites list.claimName entries).map .claim, fun others => ?_⟩
        rw [applied, none, run_claims, Claims.merge_writes _ entries list.claimName none]
        rfl

theorem apply_list_edits (s : Surface) (claims after : s.Claims)
    (done : applyList context config claims = .ok after) :
    ∃ edits, AmountsTo (C := s.Claims) (context.user.bind User.email) (applyList context config) edits := by
  cases present : context.user with
  | none => exact ⟨[], fun claims => by simp only [applyList, present]; rfl⟩
  | some user =>
      cases known : context.lookup with
      | none => exact ⟨[], fun claims => by simp only [applyList, present, known]; rfl⟩
      | some lookup =>
          simp only [applyList, present, known] at done
          cases applied : (PseudonymList.ofConfig config).apply lookup user claims with
          | error fault => simp [applied, Outcome.ofExcept, Outcome.failed, Outcome.ok] at done
          | ok result =>
              obtain ⟨edits, same⟩ := list_edits _ lookup user s claims result applied
              refine ⟨edits, fun others => ?_⟩
              simp only [applyList, present, known, same]
              rfl

end Mapper

namespace Registry

variable (s : Surface) (context : IssueContext)

theorem transform_edits (config : MapperConfig) (mapper : Mapper) (claims after : s.Claims)
    (found : pairwise.get? config.mapperType = some mapper)
    (done : mapper.transform s context config claims = .ok after) :
    ∃ edits, AmountsTo (context.user.bind User.email) (mapper.transform s context config) edits := by
  rcases pairwise_get_some _ _ found with ⟨variant, _, rfl⟩ | ⟨_, rfl⟩
  · exact Mapper.variant_edits context config variant claims after done
  · exact Mapper.apply_list_edits context config s claims after done

theorem run_edits (configs : List MapperConfig) (claims after : s.Claims)
    (done : run pairwise s context configs claims = .ok after) :
    ∃ edits, AmountsTo (context.user.bind User.email) (run pairwise s context configs) edits := by
  induction configs generalizing claims with
  | nil => exact ⟨[], fun others => rfl⟩
  | cons config rest ih =>
      cases found : pairwise.get? config.mapperType with
      | none =>
          have skipped := run_unknown _ pairwise_in_step s context config rest
          rw [skipped claims found] at done
          obtain ⟨edits, same⟩ := ih claims done
          exact ⟨edits, fun others => (skipped others found).trans (same others)⟩
      | some mapper =>
          obtain ⟨next, performed, continued⟩ :=
            run_known_ok _ pairwise_in_step s context config rest claims mapper found after done
          obtain ⟨first, own⟩ := transform_edits s context config mapper claims next found performed
          obtain ⟨later, same⟩ := ih next continued
          refine ⟨first ++ later, fun others => ?_⟩
          rw [run_known _ pairwise_in_step s context config rest others mapper found, own others,
            run_all_append]
          exact same _

theorem issue_repeats (configs : List MapperConfig) (claims after : s.Claims)
    (done : pairwise.issue s context configs claims = .ok after) :
    pairwise.issue s context configs after = .ok after := by
  obtain ⟨edits, same⟩ := run_edits s context _ claims after done
  obtain rfl : runAll (Edit.apply _) edits claims = after :=
    congrArg Outcome.claims ((same claims).symm.trans done)
  rw [issue, same, run_all_twice (edits_settle _)]

def mailUser : User := { sampleUser with email := some "alice@mail.example" }

-- The last of them replaces the object that the one before it has made, and the address takes its
-- domain from the user first and from itself afterwards.
def overlappingMappers : List MapperConfig :=
  [sampleMapper 0 Variant.email.mapperType [sampleSector, (OptionKey.salt, sampleSalt.text)],
    sampleMapper 1 Variant.namedClaim.mapperType [sampleSector, (OptionKey.claimName, "ids.pairwise")],
    sampleMapper 2 Variant.namedClaim.mapperType [sampleSector, (OptionKey.claimName, "ids")]]

theorem overlapping_claims_repeat :
    ∃ after : AccessClaims,
      pairwise.issue .accessToken { user := some mailUser } overlappingMappers sampleAccess = .ok after ∧
      pairwise.issue .accessToken { user := some mailUser } overlappingMappers after = .ok after ∧
      after.email.isSome = true := by
  have done := Outcome.eq_ok (C := AccessClaims)
    (pairwise.issue .accessToken { user := some mailUser } overlappingMappers sampleAccess)
    (by decide +kernel)
  exact ⟨_, done, issue_repeats .accessToken { user := some mailUser } overlappingMappers sampleAccess _ done,
    by decide +kernel⟩

end Registry

end PairwiseId
