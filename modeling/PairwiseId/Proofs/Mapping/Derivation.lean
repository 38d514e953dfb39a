import PairwiseId.Mapping.Basic
import PairwiseId.Proofs.Mac
import PairwiseId.Proofs.Mapping.Normal

/- A mapping that could be read never fails for a user: it has a pseudonym exactly
   if the user has the local identifier, and nothing else about the user matters. -/
namespace PairwiseId

set_option autoImplicit false

theorem Text.utf8_ne_nil (text : String) (notBlank : Text.isBlank text = false) : Text.utf8 text ≠ [] := by
  intro empty
  have noChars : text.toList = [] := by
    rw [Text.utf8, List.flatMap_eq_nil_iff] at empty
    rw [List.eq_nil_iff_forall_not_mem]
    intro c member
    have positive := Char.utf8Size_pos c
    have encoded := congrArg List.length (empty c member)
    rw [String.length_utf8EncodeChar, List.length_nil] at encoded
    omega
  simp [Text.isBlank, noChars] at notBlank

namespace Pseudonym

-- No key is refused.
theorem generate_of_input (algorithm : Algorithm) (key : KeyMaterial) (sector : Sector) (localId : String)
    (input : MacInput) (prepared : macInput key sector localId = .ok input) :
    generate algorithm key sector localId =
      .ok (ofMac (Mac.ofMessage algorithm.digest input.key input.parts.flatten)) := by
  simp only [generate, prepared, Mac.hmac_eq]
  rfl

-- A salt that is not blank is a key that is not empty.
theorem salted_input (salt : String) (sector : Sector) (localId : String) (notBlank : Text.isBlank salt = false) :
    macInput (.salt (Text.utf8 salt)) sector localId =
      .ok ⟨Text.utf8 salt, [sector.bytes, Text.utf8 localId]⟩ := by
  have key := Text.utf8_ne_nil salt notBlank
  cases bytes : Text.utf8 salt with
  | nil => exact absurd bytes key
  | cons first rest => rfl

theorem generate_salted_eq (algorithm : Algorithm) (salt : String) (sector : Sector) (localId : String)
    (notBlank : Text.isBlank salt = false) :
    generateSalted algorithm (some salt) sector localId =
      .ok (ofMac (Mac.ofMessage algorithm.digest (Text.utf8 salt) [sector.bytes, Text.utf8 localId].flatten)) := by
  simp only [generateSalted, notBlank, Bool.false_eq_true, if_false]
  exact generate_of_input algorithm _ sector localId ⟨_, _⟩ (salted_input salt sector localId notBlank)

theorem generate_sector_keyed_eq (algorithm : Algorithm) (sector : Sector) (localId : String) :
    generateSectorKeyed algorithm sector localId =
      .ok (ofMac (Mac.ofMessage algorithm.digest sector.bytes [Text.utf8 localId].flatten)) :=
  generate_of_input algorithm .sector sector localId ⟨sector.bytes, [Text.utf8 localId]⟩ rfl

end Pseudonym

namespace SaltedDerivation

-- The pseudonym of a local identifier.
def derive (d : SaltedDerivation) (localId : String) : Pseudonym :=
  .ofMac (Mac.ofMessage d.algorithm.digest (Text.utf8 d.salt) [d.sector.bytes, Text.utf8 localId].flatten)

theorem of_config_ok (config : MapperConfig) (d : SaltedDerivation) (read : ofConfig config = .ok d) :
    config.salt? = some d.salt ∧ config.storedAlgorithm = .ok d.algorithm ∧
      config.sector .staticUri = .ok d.sector ∧ d.source = LocalSource.ofConfig config := by
  cases salted : config.salt? with
  | none => simp [ofConfig, salted, bind, Except.bind] at read
  | some salt =>
      simp only [ofConfig, salted, bind_ok, pure, Except.pure, Except.ok.injEq] at read
      obtain ⟨_, rfl, algorithm, named, sector, resolved, rfl⟩ := read
      exact ⟨rfl, named, resolved, rfl⟩

theorem generated (config : MapperConfig) (d : SaltedDerivation) (localId : String)
    (read : ofConfig config = .ok d) :
    Pseudonym.generateSalted d.algorithm (some d.salt) d.sector localId = .ok (d.derive localId) := by
  have salted := (of_config_ok config d read).1
  exact Pseudonym.generate_salted_eq _ _ _ _ ((MapperConfig.salt_some config d.salt).mp salted).2

theorem pseudonym_for_eq (config : MapperConfig) (d : SaltedDerivation) (user : User)
    (read : ofConfig config = .ok d) :
    d.pseudonymFor user = .ok (((LocalSource.ofConfig config).resolve user).map d.derive) := by
  rw [pseudonymFor, (of_config_ok config d read).2.2.2]
  cases (LocalSource.ofConfig config).resolve user with
  | none => rfl
  | some localId =>
      dsimp only
      rw [generated config d localId read]
      rfl

end SaltedDerivation

namespace SectorKeyedDerivation

def derive (d : SectorKeyedDerivation) (localId : String) : Pseudonym :=
  .ofMac (Mac.ofMessage d.algorithm.digest d.sector.bytes [Text.utf8 localId].flatten)

theorem of_config_ok (config : MapperConfig) (d : SectorKeyedDerivation) (read : ofConfig config = .ok d) :
    config.storedAlgorithm = .ok d.algorithm ∧ config.sector .simple = .ok d.sector ∧
      d.source = LocalSource.ofConfig config := by
  simp only [ofConfig, bind_ok, pure, Except.pure, Except.ok.injEq] at read
  obtain ⟨algorithm, named, sector, resolved, rfl⟩ := read
  exact ⟨named, resolved, rfl⟩

theorem pseudonym_for_eq (config : MapperConfig) (d : SectorKeyedDerivation) (user : User)
    (read : ofConfig config = .ok d) :
    d.pseudonymFor user = .ok (((LocalSource.ofConfig config).resolve user).map d.derive) := by
  obtain ⟨_, _, source⟩ := of_config_ok config d read
  rw [pseudonymFor, source]
  cases (LocalSource.ofConfig config).resolve user with
  | none => rfl
  | some localId =>
      dsimp only
      rw [Pseudonym.generate_sector_keyed_eq]
      rfl

end SectorKeyedDerivation

namespace Mapping

def derive : Mapping → String → Pseudonym
  | staticSector d | email d _ => d.derive
  | simpleSector d | namedClaim d _ => d.derive

-- Reading a configuration, with every variant on its own.
inductive Reads (config : MapperConfig) : Variant → Mapping → Prop where
  | staticSector (d : SaltedDerivation) (read : SaltedDerivation.ofConfig config = .ok d) :
      Reads config .staticSector (.staticSector d)
  | simpleSector (d : SectorKeyedDerivation) (read : SectorKeyedDerivation.ofConfig config = .ok d) :
      Reads config .simpleSector (.simpleSector d)
  | email (d : SaltedDerivation) (read : SaltedDerivation.ofConfig config = .ok d) :
      Reads config .email (.email d config.emailDomain?)
  | namedClaim (d : SectorKeyedDerivation) (read : SectorKeyedDerivation.ofConfig config = .ok d)
      (claimName : String) (named : config.getNonBlank? OptionKey.claimName = some claimName) :
      Reads config .namedClaim (.namedClaim d claimName)

theorem of_config_reads (variant : Variant) (config : MapperConfig) (mapping : Mapping)
    (read : ofConfig variant config = .ok mapping) : Reads config variant mapping := by
  cases variant with
  | staticSector =>
      simp only [ofConfig, map_ok] at read
      obtain ⟨d, parsed, rfl⟩ := read
      exact .staticSector d parsed
  | simpleSector =>
      simp only [ofConfig, map_ok] at read
      obtain ⟨d, parsed, rfl⟩ := read
      exact .simpleSector d parsed
  | email =>
      simp only [ofConfig, bind_ok, pure, Except.pure, Except.ok.injEq] at read
      obtain ⟨d, parsed, rfl⟩ := read
      exact .email d parsed
  | namedClaim =>
      simp only [ofConfig, bind_ok] at read
      obtain ⟨d, parsed, finished⟩ := read
      split at finished
      · rename_i claimName named
        obtain rfl : Mapping.namedClaim d claimName = mapping := Except.ok.inj finished
        exact .namedClaim d parsed claimName named
      · cases finished

theorem pseudonym_for_eq (variant : Variant) (config : MapperConfig) (mapping : Mapping) (user : User)
    (read : ofConfig variant config = .ok mapping) :
    mapping.pseudonymFor user = .ok (((LocalSource.ofConfig config).resolve user).map mapping.derive) := by
  cases of_config_reads variant config mapping read with
  | staticSector d parsed => exact SaltedDerivation.pseudonym_for_eq config d user parsed
  | simpleSector d parsed => exact SectorKeyedDerivation.pseudonym_for_eq config d user parsed
  | email d parsed => exact SaltedDerivation.pseudonym_for_eq config d user parsed
  | namedClaim d parsed claimName named => exact SectorKeyedDerivation.pseudonym_for_eq config d user parsed

end Mapping

end PairwiseId
