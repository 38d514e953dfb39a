import PairwiseId.Proofs.Mapper.Issue
import PairwiseId.Proofs.PseudonymList.Entries
import PairwiseId.Proofs.Store.Steps

/- What has passed a save can be issued: every stored configuration can be read,
   and so can those of the other clients that a pseudonym list looks at. -/
namespace PairwiseId.Store

set_option autoImplicit false

theorem reached_maps (settings : Settings) (ops : List Op) (owner : Owner) (config : MapperConfig)
    (variant : Variant) (stored : config ∈ (reached settings ops).list owner)
    (type : config.mapperType = variant.mapperType) :
    ∃ mapping, Mapping.ofConfig variant config = .ok mapping := by
  obtain ⟨lookup, fresh, submitted, accepted⟩ := reached_accepted settings ops owner config stored
  exact Registry.check_save_maps _ submitted config variant accepted type

theorem reached_static (settings : Settings) (ops : List Op) (owner : Owner) (config : MapperConfig)
    (stored : config ∈ (reached settings ops).list owner)
    (static : PseudonymList.isStaticSector config = true) :
    ∃ d, SaltedDerivation.ofConfig config = .ok d ∧
      Mapping.ofConfig .staticSector config = .ok (.staticSector d) := by
  have type : config.mapperType = Variant.staticSector.mapperType := eq_of_beq static
  obtain ⟨mapping, read⟩ := reached_maps settings ops owner config .staticSector stored type
  cases Mapping.of_config_reads .staticSector config mapping read with
  | staticSector d parsed => exact ⟨d, parsed, read⟩

theorem reached_readable (settings : Settings) (ops : List Op) :
    PseudonymList.Readable (reached settings ops).lookup := by
  intro client config found
  obtain ⟨configs, known, single⟩ := (PseudonymList.find_static_some _ client config).mp found
  have member := PseudonymList.single_mem configs config single
  have stored : config ∈ (reached settings ops).list (.client client) := by
    rw [list_eq _ (.client client) configs known]
    exact member.1
  obtain ⟨d, parsed, _⟩ := reached_static settings ops _ config stored member.2
  exact ⟨d, parsed⟩

-- Mappers see this store, or no other clients at all.
def SeenBy (st : Store) (context : IssueContext) : Prop :=
  context.lookup = none ∨ context.lookup = some st.lookup

theorem reached_transforms (settings : Settings) (ops : List Op) (owner : Owner) (s : Surface)
    (context : IssueContext) (config : MapperConfig) (mapper : Mapper) (claims : s.Claims)
    (seen : SeenBy (reached settings ops) context)
    (stored : config ∈ (reached settings ops).list owner)
    (found : Registry.pairwise.get? config.mapperType = some mapper) :
    ∃ after, mapper.transform s context config claims = .ok after := by
  rcases Registry.pairwise_get_some _ _ found with ⟨variant, type, rfl⟩ | ⟨type, rfl⟩
  · obtain ⟨mapping, read⟩ := reached_maps settings ops owner config variant stored type
    change ∃ after, Mapper.applyVariant variant context config claims = .ok after
    cases present : context.user with
    | none => exact ⟨claims, by rw [Mapper.applyVariant, present]⟩
    | some user => exact ⟨_, Mapper.apply_variant_read variant context config mapping user claims present read⟩
  · change ∃ after, Mapper.applyList context config claims = .ok after
    cases present : context.user with
    | none => exact ⟨claims, by rw [Mapper.applyList, present]⟩
    | some user =>
        rcases seen with hidden | shown
        · exact ⟨claims, by rw [Mapper.applyList, present, hidden]⟩
        · obtain ⟨after, applied⟩ := PseudonymList.apply_readable (PseudonymList.ofConfig config) _ user claims
            (reached_readable settings ops)
          simp only [Mapper.applyList, present, shown, applied]
          exact ⟨after, rfl⟩

theorem stored_mappers_issue (settings : Settings) (ops : List Op) (owner : Owner) (s : Surface)
    (context : IssueContext) (claims : s.Claims) (seen : SeenBy (reached settings ops) context) :
    ∃ after, (reached settings ops).registry.issue s context ((reached settings ops).list owner) claims =
      .ok after := by
  rw [(reached_configured settings ops).registry]
  exact Registry.issue_ok .pairwise Registry.pairwise_in_step s context _ claims
    fun config stored mapper found claims =>
    reached_transforms settings ops owner s context config mapper claims seen stored found

-- The mapper of client a changes its type after client b has listed it.
def listedSetup : List Op :=
  [.createClient "a", .createClient "b",
    .save (.client "a") (sampleMapper 0 Variant.staticSector.mapperType [sampleSector]) sampleSalt,
    .save (.client "b")
      (sampleMapper 1 PseudonymList.mapperType [(OptionKey.claimName, "ids"), (OptionKey.clients, "a")])
      sampleSalt,
    .save (.client "b") (sampleMapper 2 Variant.email.mapperType [sampleSector]) sampleSalt,
    .save (.client "b") (sampleMapper 3 Variant.simpleSector.mapperType [sampleSector]) sampleSalt,
    .save (.client "a") (sampleMapper 0 Variant.simpleSector.mapperType [sampleSector]) sampleSalt]

theorem listing_client_issues :
    ((reached {} listedSetup).list (.client "b")).length = 3 ∧
      SeenBy (reached {} listedSetup)
        { user := some sampleUser, lookup := some (reached {} listedSetup).lookup } ∧
      ∃ after, (reached {} listedSetup).registry.issue .accessToken
        { user := some sampleUser, lookup := some (reached {} listedSetup).lookup }
        ((reached {} listedSetup).list (.client "b")) sampleAccess = .ok after ∧
        ClaimSet.subject after ≠ ClaimSet.subject sampleAccess := by
  have seen : SeenBy (reached {} listedSetup)
      { user := some sampleUser, lookup := some (reached {} listedSetup).lookup } := .inr rfl
  have changed : ClaimSet.subject ((reached {} listedSetup).registry.issue .accessToken
      { user := some sampleUser, lookup := some (reached {} listedSetup).lookup }
      ((reached {} listedSetup).list (.client "b")) sampleAccess).claims ≠ ClaimSet.subject sampleAccess := by
    decide +kernel
  obtain ⟨after, issued⟩ := stored_mappers_issue {} listedSetup (.client "b") .accessToken _ sampleAccess seen
  rw [issued] at changed
  exact ⟨by decide +kernel, seen, after, issued, changed⟩

end PairwiseId.Store
