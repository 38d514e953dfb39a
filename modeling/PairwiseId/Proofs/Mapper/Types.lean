import PairwiseId.Mapper.Pairwise
import PairwiseId.Proofs.Mapper.Registered
import PairwiseId.Proofs.Mapping.Normal

/- Which mappers the pairwise registry knows, and what a save through it can do
   to a configuration. -/
namespace PairwiseId

set_option autoImplicit false

namespace Registry

theorem pairwise_get (mapperType : String) :
    pairwise.get? mapperType =
      if mapperType = PseudonymList.mapperType then some Mapper.pseudonymList
      else if mapperType = Variant.namedClaim.mapperType then some (Mapper.ofVariant .namedClaim)
      else if mapperType = Variant.email.mapperType then some (Mapper.ofVariant .email)
      else if mapperType = Variant.simpleSector.mapperType then some (Mapper.ofVariant .simpleSector)
      else if mapperType = Variant.staticSector.mapperType then some (Mapper.ofVariant .staticSector)
      else none := by
  simp only [pairwise, Variant.all, List.map_cons, List.map_nil, List.cons_append, List.nil_append,
    List.foldl_cons, List.foldl_nil, get_register, eq_comm]
  rfl

theorem pairwise_in_step : pairwise.InStep := register_all_in_step _ empty empty_in_step

theorem pairwise_get_variant (variant : Variant) :
    pairwise.get? variant.mapperType = some (Mapper.ofVariant variant) := by
  cases variant <;> simp [pairwise_get, Variant.mapperType, PseudonymList.mapperType]

theorem pairwise_get_some (mapperType : String) (mapper : Mapper)
    (found : pairwise.get? mapperType = some mapper) :
    (∃ variant : Variant, mapperType = variant.mapperType ∧ mapper = Mapper.ofVariant variant) ∨
      mapperType = PseudonymList.mapperType ∧ mapper = Mapper.pseudonymList := by
  rw [pairwise_get] at found
  split at found
  · rename_i same
    exact .inr ⟨same, (Option.some.inj found).symm⟩
  split at found
  · rename_i same
    exact .inl ⟨.namedClaim, same, (Option.some.inj found).symm⟩
  split at found
  · rename_i same
    exact .inl ⟨.email, same, (Option.some.inj found).symm⟩
  split at found
  · rename_i same
    exact .inl ⟨.simpleSector, same, (Option.some.inj found).symm⟩
  split at found
  · rename_i same
    exact .inl ⟨.staticSector, same, (Option.some.inj found).symm⟩
  · cases found

end Registry

theorem Variant.mapper_type_injective (a b : Variant) (same : a.mapperType = b.mapperType) : a = b := by
  revert same
  cases a <;> cases b <;> decide

theorem Variant.mapper_type_not_list (variant : Variant) :
    variant.mapperType ≠ PseudonymList.mapperType := by
  cases variant <;> decide

namespace Registry

theorem check_save_ok (context : SaveContext) (config saved : MapperConfig)
    (accepted : pairwise.checkSave context config = .ok saved) :
    (∃ variant : Variant, config.mapperType = variant.mapperType ∧
        Mapping.normalize variant context.settings context.fresh config = .ok saved) ∨
      config.mapperType = PseudonymList.mapperType ∧
        PseudonymList.check context.owner context.lookup config = .ok () ∧ saved = config := by
  unfold checkSave at accepted
  split at accepted
  · cases accepted
  · rename_i mapper found
    rcases pairwise_get_some _ _ found with ⟨variant, type, rfl⟩ | ⟨type, rfl⟩
    · exact .inl ⟨variant, type, map_error_ok Refusal.mapper _ saved accepted⟩
    · refine .inr ⟨type, ?_⟩
      dsimp only [Mapper.pseudonymList] at accepted
      split at accepted
      · rename_i checked
        exact ⟨checked, (Except.ok.inj accepted).symm⟩
      · cases accepted

theorem check_save_id (context : SaveContext) (config saved : MapperConfig)
    (accepted : pairwise.checkSave context config = .ok saved) : saved.id = config.id := by
  rcases check_save_ok context config saved accepted with ⟨variant, _, normalized⟩ | ⟨_, _, rfl⟩
  · exact Mapping.normalize_id variant _ _ config saved normalized
  · rfl

theorem check_save_keeps_salt (context : SaveContext) (config saved : MapperConfig) (salt : String)
    (salted : config.salt? = some salt) (accepted : pairwise.checkSave context config = .ok saved) :
    saved.salt? = some salt := by
  rcases check_save_ok context config saved accepted with ⟨variant, _, normalized⟩ | ⟨_, _, rfl⟩
  · exact Mapping.normalize_keeps_salt variant _ _ config saved salt salted normalized
  · exact salted

theorem check_save_maps (context : SaveContext) (config saved : MapperConfig) (variant : Variant)
    (accepted : pairwise.checkSave context config = .ok saved)
    (type : saved.mapperType = variant.mapperType) :
    ∃ mapping, Mapping.ofConfig variant saved = .ok mapping := by
  rcases check_save_ok context config saved accepted with ⟨actual, submitted, normalized⟩ | ⟨list, _, rfl⟩
  · have kept := Mapping.normalize_type actual _ _ config saved normalized
    have same : actual = variant := Variant.mapper_type_injective _ _ (by rw [← submitted, ← kept, type])
    subst same
    obtain ⟨_, mapping, _, _, read⟩ := Mapping.normalize_ok actual _ _ config saved normalized
    exact ⟨mapping, read⟩
  · exact absurd (type.symm.trans list) variant.mapper_type_not_list

end Registry

def sampleSalt : Salt := ⟨"fresh", by decide⟩

def sampleId (n : UInt8) : Uuid := ⟨.replicate 16 n⟩

def sampleMapper (n : UInt8) (mapperType : String) (options : List (String × String)) : MapperConfig :=
  { id := sampleId n, name := "m", mapperType, options := KeyMap.ofEntries options }

def sampleSector : String × String := (OptionKey.sector, "https://a.example")

def sampleUser : User :=
  { id := sampleId 7, username := "alice", attributes := KeyMap.empty.put "nr" ["42"] }

end PairwiseId
