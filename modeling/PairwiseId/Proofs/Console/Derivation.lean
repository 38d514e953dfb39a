import PairwiseId.Console.Derivation
import PairwiseId.Proofs.Mapper.Targets
import PairwiseId.Proofs.Mapper.Saves
import PairwiseId.Proofs.Store.Issuance

/- A pseudonym from typed inputs is the one that a stored mapper writes, once its options are typed
   as they are stored. A save has left the catalog name of the algorithm behind, so that the
   default of the console never counts. -/
namespace PairwiseId

set_option autoImplicit false

theorem Algorithm.resolve_name (algorithm : Algorithm) : resolve algorithm.name = .ok algorithm := by
  rw [resolve, algorithm.of_name_name]

theorem MapperConfig.sector_ok (config : MapperConfig) (mode : SectorMode) (sector : Sector)
    (resolved : config.sector mode = .ok sector) :
    ∃ text, config.get? OptionKey.sector = some text ∧ Sector.resolve (some text) mode = .ok sector := by
  rw [MapperConfig.sector] at resolved
  cases stored : config.get? OptionKey.sector with
  | none =>
      rw [stored] at resolved
      cases resolved
  | some text => exact ⟨text, rfl, stored ▸ resolved⟩

-- What every variant leaves in the store.
theorem Store.reached_named (settings : Settings) (ops : List Op) (owner : Owner) (config : MapperConfig)
    (variant : Variant) (stored : config ∈ (reached settings ops).list owner)
    (type : config.mapperType = variant.mapperType) :
    ∃ algorithm, config.get? OptionKey.algorithm = some algorithm.name ∧ config.storedAlgorithm = .ok algorithm := by
  obtain ⟨lookup, fresh, submitted, accepted⟩ := reached_accepted settings ops owner config stored
  have normalized := Registry.check_save_normalized _ submitted variant config type accepted
  obtain ⟨algorithm, _, _, rfl, _⟩ := Mapping.normalize_ok variant _ _ submitted config normalized
  exact ⟨algorithm, MapperConfig.get?_put_self _ _ _, MapperConfig.stored_put_algorithm _ algorithm⟩

namespace Console.Derivation

-- The options of a mapper, typed as they are stored, and a local identifier.
def ofStored (convention : Convention) (config : MapperConfig) (sector localId : String) : Derivation :=
  { convention
    algorithm := config.get? OptionKey.algorithm
    salt := config.get? OptionKey.salt
    sector, localId }

section Compute

variable (config : MapperConfig) (algorithm fallback : Algorithm) (localId : String)
  (named : config.get? OptionKey.algorithm = some algorithm.name)
  (resolvable : config.storedAlgorithm = .ok algorithm)

include named resolvable

theorem compute_salted (d : SaltedDerivation) (read : SaltedDerivation.ofConfig config = .ok d) :
    ∃ sector, config.get? OptionKey.sector = some sector ∧
      (ofStored .salted config sector localId).compute fallback = .ok (algorithm, d.derive localId) := by
  obtain ⟨salted, same, resolved, _⟩ := SaltedDerivation.of_config_ok config d read
  obtain rfl := Except.ok.inj (resolvable.symm.trans same)
  obtain ⟨sector, stored, accepted⟩ := config.sector_ok _ _ resolved
  have salt := ((MapperConfig.salt_some config d.salt).mp salted).1
  have generated := SaltedDerivation.generated config d localId read
  refine ⟨sector, stored, ?_⟩
  simp only [compute, ofStored, resolvedAlgorithm, named, Algorithm.resolve_name, Except.mapError, bind, Except.bind,
    Convention.sectorMode, accepted, salt, generated]
  rfl

theorem compute_sector_keyed (d : SectorKeyedDerivation) (read : SectorKeyedDerivation.ofConfig config = .ok d) :
    ∃ sector, config.get? OptionKey.sector = some sector ∧
      (ofStored .sectorKeyed config sector localId).compute fallback = .ok (algorithm, d.derive localId) := by
  obtain ⟨same, resolved, _⟩ := SectorKeyedDerivation.of_config_ok config d read
  obtain rfl := Except.ok.inj (resolvable.symm.trans same)
  obtain ⟨sector, stored, accepted⟩ := config.sector_ok _ _ resolved
  refine ⟨sector, stored, ?_⟩
  simp only [compute, ofStored, resolvedAlgorithm, named, Algorithm.resolve_name, Except.mapError, bind, Except.bind,
    Convention.sectorMode, accepted, Pseudonym.generate_sector_keyed_eq]
  rfl

theorem compute_stored (convention : Convention) (derive : String → Pseudonym)
    (derives : Mapping.DerivesBy config convention derive) :
    ∃ sector, config.get? OptionKey.sector = some sector ∧
      (ofStored convention config sector localId).compute fallback = .ok (algorithm, derive localId) := by
  cases convention with
  | salted =>
      obtain ⟨d, read, rfl⟩ := derives
      exact compute_salted config algorithm fallback localId named resolvable d read
  | sectorKeyed =>
      obtain ⟨d, read, rfl⟩ := derives
      exact compute_sector_keyed config algorithm fallback localId named resolvable d read

end Compute

theorem typed_derivation_repeats_mapper (settings : Settings) (ops : List Store.Op) (owner : Owner)
    (config : MapperConfig) (variant : Variant) (user : User) (localId : String)
    (stored : config ∈ (Store.reached settings ops).list owner) (type : config.mapperType = variant.mapperType)
    (present : (LocalSource.ofConfig config).resolve user = some localId) :
    ∃ sector algorithm mapping p, config.get? OptionKey.sector = some sector ∧
      config.get? OptionKey.algorithm = some algorithm.name ∧ Mapping.ofConfig variant config = .ok mapping ∧
      (∀ fallback, (ofStored variant.convention config sector localId).compute fallback = .ok (algorithm, p)) ∧
      ∀ (s : Surface) (context : IssueContext) (claims : s.Claims), context.user = some user →
        (Mapper.ofVariant variant).transform s context config claims = .ok (mapping.write p user claims) ∧
          Mapper.Uses variant config user claims (mapping.write p user claims) p := by
  obtain ⟨algorithm, named, resolvable⟩ := Store.reached_named settings ops owner config variant stored type
  obtain ⟨mapping, read⟩ := Store.reached_maps settings ops owner config variant stored type
  have derives := Mapping.derives_by_convention variant config mapping read
  have computed (fallback : Algorithm) :=
    compute_stored config algorithm fallback localId named resolvable variant.convention mapping.derive derives
  obtain ⟨sector, typed, _⟩ := computed .standard
  refine ⟨sector, algorithm, mapping, mapping.derive localId, typed, named, read, fun fallback => ?_,
    fun s context claims known => ⟨?_, ⟨mapping, read, ?_⟩, ?_⟩⟩
  · obtain ⟨text, also, done⟩ := computed fallback
    obtain rfl := Option.some.inj (typed.symm.trans also)
    exact done
  · have applied := Mapper.apply_variant_read variant context config mapping user claims known read
    rw [present] at applied
    exact applied
  · rw [Mapping.pseudonym_for_eq variant config mapping user read, present]
    rfl
  · exact Mapper.write_shows variant config mapping _ user claims read

-- The salt keeps its blanks, the name of the algorithm has lost them.
def paddedOptions (algorithm : String) : MapperConfig :=
  sampleMapper 0 Variant.staticSector.mapperType
    [sampleSector, (OptionKey.salt, " s "), (OptionKey.algorithm, algorithm),
      (OptionKey.localIdAttribute, " nr ")]

def paddedStore : List Store.Op :=
  [.createClient "a", .save (.client "a") (paddedOptions " hmacsha512/224 ") sampleSalt]

def paddedTyped : Derivation :=
  { algorithm := some "HmacSHA512/224", salt := some " s ", sector := "https://a.example", localId := "42" }

theorem padded_mapper_repeated :
    paddedOptions "HmacSHA512/224" ∈ (Store.reached {} paddedStore).list (.client "a") ∧
      (paddedOptions "HmacSHA512/224").mapperType = Variant.staticSector.mapperType ∧
      (LocalSource.ofConfig (paddedOptions "HmacSHA512/224")).resolve sampleUser = some "42" ∧
      ∃ p, (∀ fallback, paddedTyped.compute fallback = .ok (.sha512_224, p)) ∧
        ((Mapper.ofVariant .staticSector).transform .accessToken { user := some sampleUser }
          (paddedOptions "HmacSHA512/224") sampleAccess).claims.subject = p.text := by
  have stored : paddedOptions "HmacSHA512/224" ∈ (Store.reached {} paddedStore).list (.client "a") := by
    decide +kernel
  have present : (LocalSource.ofConfig (paddedOptions "HmacSHA512/224")).resolve sampleUser = some "42" := by
    decide +kernel
  obtain ⟨sector, algorithm, mapping, p, typed, named, _, computed, writes⟩ :=
    typed_derivation_repeats_mapper {} paddedStore (.client "a") _ .staticSector sampleUser "42" stored rfl present
  obtain rfl : "https://a.example" = sector := Option.some.inj (Eq.trans (by decide +kernel) typed)
  have same : algorithm.name = Algorithm.sha512_224.name := Option.some.inj (named.symm.trans (by decide +kernel))
  obtain rfl : algorithm = .sha512_224 := by
    revert same
    cases algorithm <;> decide
  obtain ⟨written, uses⟩ := writes .accessToken { user := some sampleUser } sampleAccess rfl
  refine ⟨stored, rfl, present, p, computed, ?_⟩
  rw [written]
  exact uses.shown

end Console.Derivation

end PairwiseId
