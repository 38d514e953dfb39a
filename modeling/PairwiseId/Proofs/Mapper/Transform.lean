import PairwiseId.Proofs.Claims.Surface
import PairwiseId.Proofs.Mapper.Types
import PairwiseId.Proofs.Mapping.Derivation

/- What the pairwise mappers do to the claims of a token once their configuration
   can be read. -/
namespace PairwiseId

set_option autoImplicit false

variable {C : Type} [ClaimSet C]

namespace Mapping

-- The claims with the pseudonym of a local identifier, if there is one.
def applied (mapping : Mapping) (localId : Option String) (user : User) (claims : C) : C :=
  match localId with
  | some l => mapping.write (mapping.derive l) user claims
  | none => claims

theorem apply_eq (variant : Variant) (config : MapperConfig) (mapping : Mapping) (user : User) (claims : C)
    (read : ofConfig variant config = .ok mapping) :
    mapping.apply user claims =
      .ok (mapping.applied ((LocalSource.ofConfig config).resolve user) user claims) := by
  rw [apply, pseudonym_for_eq variant config mapping user read]
  cases (LocalSource.ofConfig config).resolve user with
  | none => rfl
  | some localId => rfl

end Mapping

namespace Mapper

theorem apply_variant_read (variant : Variant) (context : IssueContext) (config : MapperConfig)
    (mapping : Mapping) (user : User) (claims : C) (present : context.user = some user)
    (read : Mapping.ofConfig variant config = .ok mapping) :
    applyVariant variant context config claims =
      .ok (mapping.applied ((LocalSource.ofConfig config).resolve user) user claims) := by
  simp only [applyVariant, present, read, bind, Except.bind,
    Mapping.apply_eq variant config mapping user claims read]
  rfl

theorem apply_variant_ok (variant : Variant) (context : IssueContext) (config : MapperConfig)
    (user : User) (claims after : C) (present : context.user = some user)
    (done : applyVariant variant context config claims = .ok after) :
    ∃ mapping, Mapping.ofConfig variant config = .ok mapping ∧
      after = mapping.applied ((LocalSource.ofConfig config).resolve user) user claims := by
  cases read : Mapping.ofConfig variant config with
  | error fault =>
      simp [applyVariant, present, read, bind, Except.bind, Outcome.ofExcept, Outcome.failed, Outcome.ok] at done
  | ok mapping =>
      rw [apply_variant_read variant context config mapping user claims present read] at done
      exact ⟨mapping, rfl, (congrArg Outcome.claims done).symm⟩

section Effects

variable (context : IssueContext) (config : MapperConfig) (claims : C)

-- The two things that a run comes to. Nothing is written unless it succeeds.
inductive VariantEffect (variant : Variant) : Outcome C → Prop where
  | kept (refusal : Option Refusal) : VariantEffect variant ⟨claims, refusal⟩
  | written (user : User) (mapping : Mapping) (localId : String) (present : context.user = some user)
      (read : Mapping.ofConfig variant config = .ok mapping)
      (resolved : (LocalSource.ofConfig config).resolve user = some localId) :
      VariantEffect variant (.ok (mapping.write (mapping.derive localId) user claims))

theorem apply_variant_effect (variant : Variant) :
    VariantEffect context config claims variant (applyVariant variant context config claims) := by
  cases present : context.user with
  | none =>
      rw [applyVariant, present]
      exact .kept none
  | some user =>
      cases read : Mapping.ofConfig variant config with
      | error fault =>
          simp only [applyVariant, present, read, bind, Except.bind]
          exact .kept (some (.mapper fault))
      | ok mapping =>
          rw [apply_variant_read variant context config mapping user claims present read]
          cases resolved : (LocalSource.ofConfig config).resolve user with
          | none => exact .kept none
          | some localId => exact .written user mapping localId present read resolved

inductive ListEffect : Outcome C → Prop where
  | kept (refusal : Option Refusal) : ListEffect ⟨claims, refusal⟩
  | written (user : User) (lookup : Lookup) (entries : KeyMap Json) (present : context.user = some user)
      (known : context.lookup = some lookup)
      (collected : (PseudonymList.ofConfig config).pseudonyms lookup user = .ok entries)
      (notEmpty : entries.isEmpty = false) :
      ListEffect (.ok (ClaimSet.setOther claims
        (Claims.merge (ClaimSet.other claims) (PseudonymList.ofConfig config).claimName entries)))

theorem apply_list_effect : ListEffect context config claims (applyList context config claims) := by
  unfold applyList
  split
  · rename_i user lookup present known
    unfold PseudonymList.apply
    split
    · exact .kept none
    · cases collected : (PseudonymList.ofConfig config).pseudonyms lookup user with
      | error fault => exact .kept (some (.mapper fault))
      | ok entries =>
          cases empty : entries.isEmpty with
          | true =>
              simp only [bind, Except.bind, empty]
              exact .kept none
          | false =>
              simp only [bind, Except.bind, empty]
              exact .written user lookup entries present known collected empty
  · exact .kept none

end Effects

theorem apply_list_ok (context : IssueContext) (config : MapperConfig) (claims after : C)
    (done : applyList context config claims = .ok after) :
    after = claims ∨ ∃ entries, after = ClaimSet.setOther claims
      (Claims.merge (ClaimSet.other claims) (PseudonymList.ofConfig config).claimName entries) := by
  have effect := apply_list_effect context config claims
  rw [done] at effect
  cases effect with
  | kept refusal => exact .inl rfl
  | written user lookup entries present known collected notEmpty => exact .inr ⟨entries, rfl⟩

end Mapper

end PairwiseId
