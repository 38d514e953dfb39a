import PairwiseId.Proofs.Mapper.Saves
import PairwiseId.Proofs.Mapping.Refused

/- Why the pairwise mappers refuse to have a configuration saved. The reason is always in what
   was submitted or in the clients that it names, so the answer blames the request. -/
namespace PairwiseId

set_option autoImplicit false

theorem Fault.config_fault_iff (fault : Fault) :
    fault.isConfigFault = true ↔
      fault ≠ .missingSalt ∧ (∀ name, fault ≠ .unresolvableAlgorithm name) ∧
        ∀ reason, fault ≠ .keyedHash reason := by
  cases fault <;> simp [isConfigFault, isFatal]

namespace PseudonymList

-- A list is checked from the outside in: its owner, its claim, its clients.
inductive Objection (owner : Owner) (lookup : Lookup) (list : PseudonymList) : Fault → Prop where
  | owner (realm : owner = .realm) : Objection owner lookup list .notOnClient
  | claim (attached : owner ≠ .realm) (unnamed : list.claimName = "") :
      Objection owner lookup list .targetClaimNotSet
  | client (attached : owner ≠ .realm) (named : list.claimName ≠ "") (id : String)
      (listed : id ∈ list.clients) (unusable : findStaticSector? lookup id = none) :
      Objection owner lookup list (.clientDoesNotExist id)

theorem check_refused (owner : Owner) (lookup : Lookup) (config : MapperConfig) (fault : Fault)
    (refused : check owner lookup config = .error fault) : Objection owner lookup (ofConfig config) fault := by
  simp only [check] at refused
  split at refused
  · rename_i realm
    obtain rfl := Except.error.inj refused
    exact .owner realm
  · rename_i attached
    split at refused
    · rename_i unnamed
      obtain rfl := Except.error.inj refused
      exact .claim attached unnamed
    · rename_i named
      split at refused
      · rename_i client missing
        obtain rfl := Except.error.inj refused
        have unusable := List.find?_some missing
        exact .client attached named client (List.mem_of_find?_eq_some missing)
          (Option.isNone_iff_eq_none.mp unusable)
      · cases refused

theorem objection_config_fault (owner : Owner) (lookup : Lookup) (list : PseudonymList) (fault : Fault)
    (objection : Objection owner lookup list fault) : fault.isConfigFault = true := by
  cases objection with
  | owner realm => rfl
  | claim attached unnamed => rfl
  | client attached named id listed unusable => rfl

end PseudonymList

namespace Registry

inductive Grounds (context : SaveContext) (config : MapperConfig) : Refusal → Prop where
  | type (unknown : pairwise.get? config.mapperType = none) :
      Grounds context config (unknownType config.mapperType)
  | variant (variant : Variant) (type : config.mapperType = variant.mapperType) (fault : Fault)
      (objection : Mapping.Objection variant config fault) : Grounds context config (.mapper fault)
  | list (type : config.mapperType = PseudonymList.mapperType) (fault : Fault)
      (objection : PseudonymList.Objection context.owner context.lookup (.ofConfig config) fault) :
      Grounds context config (.mapper fault)

theorem check_save_refused (context : SaveContext) (config : MapperConfig) (refusal : Refusal)
    (refused : pairwise.checkSave context config = .error refusal) : Grounds context config refusal := by
  unfold checkSave at refused
  split at refused
  · rename_i unknown
    obtain rfl := Except.error.inj refused
    exact .type unknown
  · rename_i mapper found
    rcases pairwise_get_some _ _ found with ⟨variant, type, rfl⟩ | ⟨type, rfl⟩
    · obtain ⟨fault, rejected, rfl⟩ := map_error_refused Refusal.mapper _ refusal refused
      exact .variant variant type fault (Mapping.normalize_refused variant _ _ config fault rejected)
    · dsimp only [Mapper.pseudonymList] at refused
      split at refused
      · cases refused
      · rename_i fault rejected
        obtain rfl := Except.error.inj refused
        exact .list type fault (PseudonymList.check_refused _ _ config fault rejected)

theorem grounds_config_fault (context : SaveContext) (config : MapperConfig) (fault : Fault)
    (grounds : Grounds context config (.mapper fault)) : fault.isConfigFault = true := by
  cases grounds with
  | variant variant type _ objection => exact Mapping.objection_config_fault variant config fault objection
  | list type _ objection => exact PseudonymList.objection_config_fault _ _ _ fault objection

end Registry

-- All that is not a fatal fault is answered as a bad request.
theorem Refusal.blames_request (refusal : Refusal)
    (harmless : ∀ fault, refusal = .mapper fault → fault.isConfigFault = true) :
    refusal.code = "invalid_request" ∧ refusal.status = 400 := by
  have caller : refusal.isServerError = false := by
    cases refusal with
    | invalidRequest detail => rfl
    | mapper fault => simpa [Fault.isConfigFault, isServerError] using harmless fault rfl
  simp [code, status, caller]

end PairwiseId
