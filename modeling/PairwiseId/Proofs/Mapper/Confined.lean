import PairwiseId.Proofs.Mapper.Failures
import PairwiseId.Proofs.Mapper.Repeat

/- What a token tells about its user: the local identifiers that the configurations resolve,
   and the domain of the email address. Two users with the same of both get the same token, or
   fail alike, whatever their ids, names and other attributes are. -/
namespace PairwiseId

set_option autoImplicit false

-- Both users have the same local identifier here, or neither has one.
def MapperConfig.SameLocalId (config : MapperConfig) (one other : User) : Prop :=
  (LocalSource.ofConfig config).resolve one = (LocalSource.ofConfig config).resolve other

def IssueContext.forUser (context : IssueContext) (user : User) : IssueContext :=
  { context with user := some user }

variable {one other : User}

section Transform

variable {C : Type} [ClaimSet C] (context : IssueContext) (config : MapperConfig) (claims : C)

theorem Mapping.applied_same (mapping : Mapping) (sameEmail : one.email = other.email)
    (same : config.SameLocalId one other) :
    mapping.applied ((LocalSource.ofConfig config).resolve one) one claims =
      mapping.applied ((LocalSource.ofConfig config).resolve other) other claims := by
  rw [same]
  cases (LocalSource.ofConfig config).resolve other with
  | none => rfl
  | some localId => simp only [applied, write_eq, sameEmail]

theorem Mapper.apply_variant_same (variant : Variant) (sameEmail : one.email = other.email)
    (same : config.SameLocalId one other) :
    applyVariant variant (context.forUser one) config claims =
      applyVariant variant (context.forUser other) config claims := by
  cases read : Mapping.ofConfig variant config with
  | error fault => simp only [applyVariant, IssueContext.forUser, read, bind, Except.bind]
  | ok mapping =>
      rw [apply_variant_read variant (context.forUser one) config mapping one claims rfl read,
        apply_variant_read variant (context.forUser other) config mapping other claims rfl read,
        mapping.applied_same config claims sameEmail same]

theorem PseudonymList.collect_same (lookup : Lookup) (clients : List String) (done : KeyMap Json)
    (same : ∀ config ∈ clients.filterMap (findStaticSector? lookup), config.SameLocalId one other) :
    collect lookup one clients done = collect lookup other clients done := by
  induction clients generalizing done with
  | nil => rfl
  | cons client rest ih =>
      cases found : findStaticSector? lookup client with
      | none =>
          rw [List.filterMap_cons_none found] at same
          simp only [collect, found, ih done same]
      | some config =>
          rw [List.filterMap_cons_some found] at same
          have own : (LocalSource.ofConfig config).resolve one = (LocalSource.ofConfig config).resolve other :=
            same config List.mem_cons_self
          have later := fun done => ih done fun c member => same c (List.mem_cons_of_mem config member)
          cases read : SaltedDerivation.ofConfig config with
          | error fault => simp only [collect, found, read, bind, Except.bind]
          | ok d =>
              simp only [collect, found, read, SaltedDerivation.pseudonym_for_eq config d _ read, own, later, bind,
                Except.bind]

theorem PseudonymList.apply_same (list : PseudonymList) (lookup : Lookup)
    (same : ∀ config ∈ list.reads (some lookup), config.SameLocalId one other) :
    list.apply lookup one claims = list.apply lookup other claims := by
  by_cases unnamed : list.claimName = ""
  · rw [apply, apply, if_pos unnamed, if_pos unnamed]
  · rw [reads, if_neg unnamed] at same
    rw [apply, apply, if_neg unnamed, if_neg unnamed, pseudonyms, pseudonyms,
      collect_same lookup list.clients KeyMap.empty same]

theorem Mapper.apply_list_same
    (same : ∀ read ∈ (PseudonymList.ofConfig config).reads context.lookup, read.SameLocalId one other) :
    applyList (context.forUser one) config claims = applyList (context.forUser other) config claims := by
  cases known : context.lookup with
  | none => simp only [applyList, IssueContext.forUser, known]
  | some lookup =>
      rw [known] at same
      simp only [applyList, IssueContext.forUser, known, PseudonymList.apply_same claims _ lookup same]

end Transform

namespace Registry

variable (s : Surface) (context : IssueContext)

theorem transform_same (config : MapperConfig) (mapper : Mapper) (claims : s.Claims)
    (found : pairwise.get? config.mapperType = some mapper) (sameEmail : one.email = other.email)
    (same : ∀ read ∈ readFor context.lookup config, read.2.SameLocalId one other) :
    mapper.transform s (context.forUser one) config claims =
      mapper.transform s (context.forUser other) config claims := by
  rcases pairwise_get_some _ _ found with ⟨variant, type, rfl⟩ | ⟨type, rfl⟩
  · rw [read_for_variant config context.lookup variant type] at same
    exact Mapper.apply_variant_same context config claims variant sameEmail (same _ (List.mem_singleton_self _))
  · rw [read_for_list config context.lookup type] at same
    exact Mapper.apply_list_same context config claims fun read member =>
      same (.staticSector, read) (List.mem_map_of_mem member)

theorem run_same (configs : List MapperConfig) (claims : s.Claims) (sameEmail : one.email = other.email)
    (same : ∀ config ∈ configs, ∀ read ∈ readFor context.lookup config, read.2.SameLocalId one other) :
    run pairwise s (context.forUser one) configs claims = run pairwise s (context.forUser other) configs claims := by
  induction configs generalizing claims with
  | nil => rfl
  | cons config rest ih =>
      have later := fun claims => ih claims fun c member => same c (List.mem_cons_of_mem config member)
      cases found : pairwise.get? config.mapperType with
      | none =>
          rw [run_unknown _ pairwise_in_step s _ config rest claims found,
            run_unknown _ pairwise_in_step s _ config rest claims found, later]
      | some mapper =>
          have own := transform_same s context config mapper claims found sameEmail
            (same config List.mem_cons_self)
          simp only [run_known _ pairwise_in_step s _ config rest claims mapper found, own, later]

theorem issue_reveals_local_ids (s : Surface) (context : IssueContext) (configs : List MapperConfig)
    (claims : s.Claims) (one other : User) (sameEmail : one.email = other.email)
    (sameOwn : ∀ config ∈ configs, config.SameLocalId one other)
    (sameListed : ∀ lookup, context.lookup = some lookup → ∀ client mappers, lookup client = some mappers →
      ∀ config ∈ mappers, PseudonymList.isStaticSector config = true → config.SameLocalId one other) :
    pairwise.issue s (context.forUser one) configs claims =
      pairwise.issue s (context.forUser other) configs claims := by
  apply run_same s context _ claims sameEmail
  intro config included read member
  rcases mem_read_for config context.lookup read member with same | ⟨lookup, client, known, found⟩
  · rw [same]
    exact sameOwn config (mem_included pairwise s configs config included)
  · obtain ⟨mappers, present, single⟩ := (PseudonymList.find_static_some lookup client read.2).mp found
    obtain ⟨stored, static⟩ := PseudonymList.single_mem mappers read.2 single
    exact sameListed lookup known client mappers present read.2 stored static

-- Someone else with the same number and the same address.
def namesake : User :=
  { id := sampleId 8, username := "bob", email := some "alice@mail.example"
    attributes := (KeyMap.empty.put "nr" ["42", "43"]).put "room" ["7"] }

def numbered (n : UInt8) (mapperType : String) (options : List (String × String)) : MapperConfig :=
  sampleMapper n mapperType
    ([sampleSector, (OptionKey.salt, "s"), (OptionKey.localIdAttribute, "nr"),
      (OptionKey.algorithm, Algorithm.md5.name)] ++ options)

def numberedMappers : List MapperConfig :=
  [numbered 0 Variant.simpleSector.mapperType [], numbered 1 Variant.email.mapperType [],
    numbered 2 PseudonymList.mapperType [(OptionKey.claimName, "ids"), (OptionKey.clients, "b")]]

def numberedContext : IssueContext :=
  { lookup := some fun _ => some [numbered 3 Variant.staticSector.mapperType []] }

def numberedToken (user : User) : Outcome AccessClaims :=
  pairwise.issue .accessToken (numberedContext.forUser user) numberedMappers sampleAccess

theorem namesakes_receive_one_token :
    mailUser.id ≠ namesake.id ∧ mailUser.username ≠ namesake.username ∧
      numberedToken mailUser = numberedToken namesake ∧ (numberedToken namesake).refusal = none ∧
      (numberedToken namesake).claims.email.isSome = true ∧
      (numberedToken namesake).claims.other.isEmpty = false := by
  have sameOwn : ∀ config ∈ numberedMappers, config.SameLocalId mailUser namesake := by
    unfold MapperConfig.SameLocalId
    decide +kernel
  have sameListed : ∀ lookup, numberedContext.lookup = some lookup → ∀ client mappers,
      lookup client = some mappers → ∀ config ∈ mappers, PseudonymList.isStaticSector config = true →
        config.SameLocalId mailUser namesake := by
    rintro _ ⟨⟩ _ _ ⟨⟩ config member _
    rw [List.mem_singleton.mp member]
    unfold MapperConfig.SameLocalId
    decide +kernel
  have same := issue_reveals_local_ids .accessToken numberedContext numberedMappers sampleAccess mailUser namesake
    rfl sameOwn sameListed
  exact ⟨by decide, by decide, same, by decide +kernel⟩

end Registry

end PairwiseId
