import PairwiseId.Proofs.Mapper.Refusals
import PairwiseId.Proofs.Store.Steps

/- A save that is refused is the fault of the administrator, whatever the store holds and
   whatever salt is carried over from what was stored before. -/
namespace PairwiseId.Store

set_option autoImplicit false

theorem save_refused (st : Store) (owner : Owner) (config : MapperConfig) (fresh : Salt) (refusal : Refusal)
    (refused : st.save owner config fresh = .error refusal) :
    st.mappers? owner = none ∧ refusal = missingOwner owner ∨
      st.registry.checkSave ⟨owner, st.lookup, st.settings, fresh⟩
        (keepSalt (st.get? owner config.id) config) = .error refusal := by
  unfold save at refused
  split at refused
  · rename_i absent
    exact .inl ⟨absent, (Except.error.inj refused).symm⟩
  · simp only [bind_error, pure, Except.pure, reduceCtorEq, and_false, exists_false, or_false] at refused
    exact .inr refused

theorem refused_save_blames_request (settings : Settings) (ops : List Op) (owner : Owner) (config : MapperConfig)
    (fresh : Salt) (refusal : Refusal)
    (refused : (reached settings ops).save owner config fresh = .error refusal) :
    refusal.code = "invalid_request" ∧ refusal.status = 400 ∧
      ∀ fault, refusal = .mapper fault → fault.isConfigFault = true ∧
        fault ≠ .missingSalt ∧ (∀ name, fault ≠ .unresolvableAlgorithm name) ∧
          ∀ reason, fault ≠ .keyedHash reason := by
  have harmless : ∀ fault, refusal = .mapper fault → fault.isConfigFault = true := by
    rintro fault rfl
    rcases save_refused _ owner config fresh _ refused with ⟨_, missing⟩ | rejected
    · cases missing
    · rw [(reached_configured settings ops).registry] at rejected
      exact Registry.grounds_config_fault _ _ fault (Registry.check_save_refused _ _ _ rejected)
  obtain ⟨code, status⟩ := refusal.blames_request harmless
  refine ⟨code, status, fun fault same => ?_⟩
  have config := harmless fault same
  exact ⟨config, fault.config_fault_iff.mp config⟩

def saltedSetup : List Op :=
  [.createClient "a", .save (.client "a") (sampleMapper 0 Variant.email.mapperType [sampleSector]) sampleSalt]

-- Only the sector is wrong: the blank salt gives way to the stored one, and the name of the
-- algorithm is one of the catalog.
def relativeSector : MapperConfig :=
  sampleMapper 0 Variant.staticSector.mapperType
    [(OptionKey.sector, "a.example"), (OptionKey.salt, " "), (OptionKey.algorithm, " hmacsha3-256 ")]

theorem relative_sector_refused :
    ∃ refusal, (reached {} saltedSetup).save (.client "a") relativeSector sampleSalt = .error refusal ∧
      refusal = .mapper (.malformedSector "a.example") ∧ refusal.code = "invalid_request" ∧
      refusal.status = 400 := by
  have refused := (error_of_some ((reached {} saltedSetup).save (.client "a") relativeSector sampleSalt)
    (.mapper (.malformedSector "a.example"))).mp (by decide +kernel)
  obtain ⟨code, status, _⟩ := refused_save_blames_request {} saltedSetup _ _ _ _ refused
  exact ⟨_, refused, rfl, code, status⟩

end PairwiseId.Store
