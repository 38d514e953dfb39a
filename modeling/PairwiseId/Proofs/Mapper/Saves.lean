import PairwiseId.Proofs.Mapper.Types
import PairwiseId.Proofs.Mapping.Accepted
import PairwiseId.Proofs.PseudonymList.Entries

/- When the pairwise mappers accept a configuration. The four variants look at
   nothing but the configuration. A list also depends on its owner and on the
   mappers of the clients that it names. -/
namespace PairwiseId

set_option autoImplicit false

namespace PseudonymList

theorem claim_name_iff (config : MapperConfig) :
    (ofConfig config).claimName ≠ "" ↔
      ∃ name, config.get? OptionKey.claimName = some name ∧ Text.isBlank name = false := by
  simp only [ofConfig, MapperConfig.getNonBlank?]
  cases config.get? OptionKey.claimName with
  | none => simp
  | some name =>
      cases blank : Text.isBlank name with
      | true => simp [blank]
      | false =>
          have kept : Text.trim name ≠ "" := fun empty => by
            simp [(Text.trim_empty_iff name).mp empty] at blank
          simp [blank, kept]

theorem check_ok_iff (owner : Owner) (lookup : Lookup) (config : MapperConfig) :
    check owner lookup config = .ok () ↔
      owner ≠ .realm ∧ (ofConfig config).claimName ≠ "" ∧
        ∀ client ∈ (ofConfig config).clients, ∃ found, findStaticSector? lookup client = some found := by
  simp only [check]
  split
  · rename_i realm
    simp [realm]
  · rename_i notRealm
    split
    · rename_i unnamed
      simp [unnamed]
    · rename_i named
      split
      · rename_i client missing
        have unusable := List.find?_some missing
        constructor
        · intro accepted
          cases accepted
        · rintro ⟨_, _, usable⟩
          obtain ⟨found, present⟩ := usable client (List.mem_of_find?_eq_some missing)
          simp [present] at unusable
      · rename_i complete
        refine ⟨fun _ => ⟨notRealm, named, fun client member => ?_⟩, fun _ => rfl⟩
        have usable := List.find?_eq_none.mp complete client member
        exact Option.isSome_iff_exists.mp (by simpa [Option.isSome_iff_ne_none] using usable)

end PseudonymList

namespace Registry

theorem pairwise_get_list : pairwise.get? PseudonymList.mapperType = some Mapper.pseudonymList := by
  rw [pairwise_get, if_pos rfl]

variable (context : SaveContext) (config : MapperConfig)

theorem check_save_variant (variant : Variant) (type : config.mapperType = variant.mapperType) :
    pairwise.checkSave context config =
      (Mapping.normalize variant context.settings context.fresh config).mapError .mapper := by
  simp only [checkSave, type, pairwise_get_variant]
  rfl

theorem check_save_variant_iff (variant : Variant) (type : config.mapperType = variant.mapperType) :
    (∃ saved, pairwise.checkSave context config = .ok saved) ↔ Mapping.admits variant config = true := by
  rw [← Mapping.admits_iff variant context.settings context.fresh config,
    check_save_variant context config variant type]
  constructor
  · rintro ⟨saved, accepted⟩
    exact ⟨saved, map_error_ok _ _ saved accepted⟩
  · rintro ⟨saved, normalized⟩
    exact ⟨saved, by rw [normalized]; rfl⟩

theorem check_save_list (type : config.mapperType = PseudonymList.mapperType)
    (checked : PseudonymList.check context.owner context.lookup config = .ok ()) :
    pairwise.checkSave context config = .ok config := by
  simp only [checkSave, type, pairwise_get_list, Mapper.pseudonymList, checked]

theorem check_save_list_iff (type : config.mapperType = PseudonymList.mapperType) :
    (∃ saved, pairwise.checkSave context config = .ok saved) ↔
      PseudonymList.check context.owner context.lookup config = .ok () := by
  constructor
  · rintro ⟨saved, accepted⟩
    rcases check_save_ok context config saved accepted with ⟨variant, other, _⟩ | ⟨_, checked, _⟩
    · exact absurd (other.symm.trans type) variant.mapper_type_not_list
    · exact checked
  · exact fun checked => ⟨config, check_save_list context config type checked⟩

theorem check_save_iff :
    (∃ saved, pairwise.checkSave context config = .ok saved) ↔
      (∃ variant : Variant, config.mapperType = variant.mapperType ∧ Mapping.admits variant config = true) ∨
        config.mapperType = PseudonymList.mapperType ∧
          PseudonymList.check context.owner context.lookup config = .ok () := by
  constructor
  · intro accepted
    obtain ⟨saved, done⟩ := accepted
    rcases check_save_ok context config saved done with ⟨variant, type, _⟩ | ⟨type, checked, _⟩
    · exact .inl ⟨variant, type, (check_save_variant_iff context config variant type).mp ⟨saved, done⟩⟩
    · exact .inr ⟨type, checked⟩
  · rintro (⟨variant, type, admitted⟩ | ⟨type, checked⟩)
    · exact (check_save_variant_iff context config variant type).mpr admitted
    · exact (check_save_list_iff context config type).mpr checked

theorem check_save_type (saved : MapperConfig) (accepted : pairwise.checkSave context config = .ok saved) :
    saved.mapperType = config.mapperType := by
  rcases check_save_ok context config saved accepted with ⟨variant, _, normalized⟩ | ⟨_, _, rfl⟩
  · exact Mapping.normalize_type variant _ _ config saved normalized
  · rfl

theorem check_save_name (saved : MapperConfig) (accepted : pairwise.checkSave context config = .ok saved) :
    saved.name = config.name := by
  rcases check_save_ok context config saved accepted with ⟨variant, _, normalized⟩ | ⟨_, _, rfl⟩
  · exact Mapping.normalize_name variant _ _ config saved normalized
  · rfl

-- The type of what is stored tells which of the variants has normalized it.
theorem check_save_normalized (variant : Variant) (saved : MapperConfig) (type : saved.mapperType = variant.mapperType)
    (accepted : pairwise.checkSave context config = .ok saved) :
    Mapping.normalize variant context.settings context.fresh config = .ok saved := by
  have submitted := (check_save_type context config saved accepted).symm.trans type
  rw [check_save_variant context config variant submitted] at accepted
  exact map_error_ok _ _ saved accepted

end Registry

end PairwiseId
