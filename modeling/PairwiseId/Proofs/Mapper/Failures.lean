import PairwiseId.Proofs.Mapper.Order
import PairwiseId.Proofs.Mapper.Transform
import PairwiseId.Proofs.Mapping.Refused
import PairwiseId.Proofs.PseudonymList.Entries

/- Why an issuance fails: the first configuration that is read for it and cannot be read. If its
   salt or its algorithm is at fault, the answer blames the server. A fault of its sector or of
   its claim is reported as if the configuration had just been submitted. -/
namespace PairwiseId

set_option autoImplicit false

theorem Outcome.refusal_of_except {C : Type} (before : C) (value : Except Fault C) :
    (ofExcept before value).refusal = (errorOf? value).map .mapper := by
  cases value <;> rfl

namespace PseudonymList

-- The mappers that a list reads, in the order of its clients.
def reads (list : PseudonymList) : Option Lookup → List MapperConfig
  | some lookup => if list.claimName = "" then [] else list.clients.filterMap (findStaticSector? lookup)
  | none => []

-- Whether the user has the local identifier of a client does not matter here, and neither does
-- what was collected before.
theorem collect_error (lookup : Lookup) (user : User) (clients : List String) (done : KeyMap Json) :
    errorOf? (collect lookup user clients done) =
      (clients.filterMap (findStaticSector? lookup)).findSome? fun config =>
        errorOf? (SaltedDerivation.ofConfig config) := by
  induction clients generalizing done with
  | nil => rfl
  | cons client rest ih =>
      cases found : findStaticSector? lookup client with
      | none =>
          rw [List.filterMap_cons_none found, ← ih done]
          simp only [collect, found]
      | some config =>
          rw [List.filterMap_cons_some found, List.findSome?_cons]
          cases read : SaltedDerivation.ofConfig config with
          | error fault => simp only [collect, found, read, bind, Except.bind, errorOf?]
          | ok d =>
              simp only [collect, found, read, SaltedDerivation.pseudonym_for_eq config d user read, bind,
                Except.bind]
              cases (LocalSource.ofConfig config).resolve user with
              | none => exact ih done
              | some localId => exact ih _

theorem apply_error {C : Type} [ClaimSet C] (list : PseudonymList) (lookup : Lookup) (user : User) (claims : C) :
    errorOf? (list.apply lookup user claims) =
      (list.reads (some lookup)).findSome? fun config => errorOf? (SaltedDerivation.ofConfig config) := by
  by_cases unnamed : list.claimName = ""
  · rw [apply, reads, if_pos unnamed, if_pos unnamed]
    rfl
  · rw [apply, reads, if_neg unnamed, if_neg unnamed, ← collect_error lookup user list.clients KeyMap.empty]
    simp only [pseudonyms]
    cases collect lookup user list.clients KeyMap.empty with
    | error fault => rfl
    | ok entries =>
        simp only [bind, Except.bind, pure, Except.pure]
        split <;> rfl

end PseudonymList

def Variant.ofType? (mapperType : String) : Option Variant :=
  all.find? fun variant => variant.mapperType == mapperType

theorem Variant.of_type_mapper_type (variant : Variant) : ofType? variant.mapperType = some variant := by
  cases variant <;> decide

namespace Mapper

variable {C : Type} [ClaimSet C] (context : IssueContext) (config : MapperConfig) (claims : C)

theorem apply_variant_refusal (variant : Variant) (user : User) (present : context.user = some user) :
    (applyVariant variant context config claims).refusal =
      (errorOf? (Mapping.ofConfig variant config)).map .mapper := by
  cases read : Mapping.ofConfig variant config with
  | error fault =>
      simp only [applyVariant, present, Outcome.refusal_of_except, read, bind, Except.bind, errorOf?]
  | ok mapping =>
      rw [apply_variant_read variant context config mapping user claims present read]
      rfl

theorem apply_list_refusal (user : User) (present : context.user = some user) :
    (applyList context config claims).refusal =
      (((PseudonymList.ofConfig config).reads context.lookup).findSome? fun config =>
        errorOf? (SaltedDerivation.ofConfig config)).map .mapper := by
  cases known : context.lookup with
  | none =>
      simp only [applyList, present, known]
      rfl
  | some lookup => simp only [applyList, present, known, Outcome.refusal_of_except, PseudonymList.apply_error]

end Mapper

namespace Registry

-- The configurations that are read to run one of them, each with the variant that it is read as.
def readFor (lookup : Option Lookup) (config : MapperConfig) : List (Variant × MapperConfig) :=
  match Variant.ofType? config.mapperType with
  | some variant => [(variant, config)]
  | none =>
    if config.mapperType = PseudonymList.mapperType then
      ((PseudonymList.ofConfig config).reads lookup).map (Prod.mk .staticSector)
    else []

-- The configurations that are read to issue a token, in this order.
def consulted (s : Surface) (context : IssueContext) (configs : List MapperConfig) : List (Variant × MapperConfig) :=
  match context.user with
  | some _ => (pairwise.inOrder (configs.filter (MapperConfig.isIncluded s))).flatMap (readFor context.lookup)
  | none => []

def faultOf? (read : Variant × MapperConfig) : Option Fault := errorOf? (Mapping.ofConfig read.1 read.2)

variable (s : Surface) (context : IssueContext)

theorem read_for_variant (config : MapperConfig) (lookup : Option Lookup) (variant : Variant)
    (type : config.mapperType = variant.mapperType) : readFor lookup config = [(variant, config)] := by
  simp only [readFor, type, variant.of_type_mapper_type]

theorem read_for_list (config : MapperConfig) (lookup : Option Lookup)
    (type : config.mapperType = PseudonymList.mapperType) :
    readFor lookup config = ((PseudonymList.ofConfig config).reads lookup).map (Prod.mk .staticSector) := by
  have other : Variant.ofType? config.mapperType = none := by
    rw [type]
    decide
  simp only [readFor, other, if_pos type]

theorem read_for_unknown (config : MapperConfig) (lookup : Option Lookup)
    (unknown : pairwise.get? config.mapperType = none) : readFor lookup config = [] := by
  have noVariant : Variant.ofType? config.mapperType = none := by
    cases chosen : Variant.ofType? config.mapperType with
    | none => rfl
    | some variant =>
        have same := List.find?_some chosen
        rw [← eq_of_beq same, pairwise_get_variant] at unknown
        cases unknown
  have noList : config.mapperType ≠ PseudonymList.mapperType := by
    intro same
    simp [pairwise_get, same] at unknown
  simp only [readFor, noVariant, if_neg noList]

-- It is the configuration itself, or what the one static-sector mapper of a client is configured with.
theorem mem_read_for (config : MapperConfig) (lookup : Option Lookup) (read : Variant × MapperConfig)
    (member : read ∈ readFor lookup config) :
    read.2 = config ∨ ∃ table client, lookup = some table ∧
      PseudonymList.findStaticSector? table client = some read.2 := by
  unfold readFor at member
  split at member
  · exact .inl (congrArg Prod.snd (List.mem_singleton.mp member))
  · split at member
    · obtain ⟨c, listed, rfl⟩ := List.mem_map.mp member
      unfold PseudonymList.reads at listed
      split at listed
      · rename_i table
        split at listed
        · cases listed
        · obtain ⟨client, _, found⟩ := List.mem_filterMap.mp listed
          exact .inr ⟨table, client, rfl, found⟩
      · cases listed
    · cases member

theorem transform_refusal (config : MapperConfig) (mapper : Mapper) (user : User) (claims : s.Claims)
    (present : context.user = some user) (found : pairwise.get? config.mapperType = some mapper) :
    (mapper.transform s context config claims).refusal =
      ((readFor context.lookup config).findSome? faultOf?).map .mapper := by
  rcases pairwise_get_some _ _ found with ⟨variant, type, rfl⟩ | ⟨type, rfl⟩
  · rw [read_for_variant config context.lookup variant type, List.findSome?_singleton]
    exact Mapper.apply_variant_refusal context config claims variant user present
  · have same : faultOf? ∘ Prod.mk Variant.staticSector = fun c => errorOf? (SaltedDerivation.ofConfig c) :=
      funext fun c => error_of_map _ _
    rw [read_for_list config context.lookup type, List.findSome?_map, same]
    exact Mapper.apply_list_refusal context config claims user present

theorem run_refusal (configs : List MapperConfig) (user : User) (claims : s.Claims)
    (present : context.user = some user) :
    (run pairwise s context configs claims).refusal =
      ((configs.flatMap (readFor context.lookup)).findSome? faultOf?).map .mapper := by
  induction configs generalizing claims with
  | nil => rfl
  | cons config rest ih =>
      rw [List.flatMap_cons, List.findSome?_append]
      cases found : pairwise.get? config.mapperType with
      | none =>
          rw [run_unknown _ pairwise_in_step s context config rest claims found, ih claims,
            read_for_unknown config context.lookup found, List.findSome?_nil, Option.none_or]
      | some mapper =>
          have own := transform_refusal s context config mapper user claims present found
          rw [run_known _ pairwise_in_step s context config rest claims mapper found]
          cases first : (readFor context.lookup config).findSome? faultOf? with
          | none =>
              rw [first] at own
              simp only [own, Option.map_none, Option.none_or]
              exact ih _
          | some fault =>
              rw [first] at own
              simp only [own, Option.map_some, Option.some_or]

-- Without a user nothing is read and nothing fails.
theorem run_without_user (configs : List MapperConfig) (claims : s.Claims) (absent : context.user = none) :
    run pairwise s context configs claims = .ok claims := by
  induction configs with
  | nil => rfl
  | cons config rest ih =>
      cases found : pairwise.get? config.mapperType with
      | none => rw [run_unknown _ pairwise_in_step s context config rest claims found, ih]
      | some mapper =>
          have idle : mapper.transform s context config claims = .ok claims := by
            rcases pairwise_get_some _ _ found with ⟨variant, _, rfl⟩ | ⟨_, rfl⟩
            · simp only [Mapper.ofVariant, Mapper.applyVariant, absent]
            · simp only [Mapper.pseudonymList, Mapper.applyList, absent]
          rw [run_known _ pairwise_in_step s context config rest claims mapper found, idle]
          exact ih

theorem issue_refusal (configs : List MapperConfig) (claims : s.Claims) :
    (pairwise.issue s context configs claims).refusal =
      ((consulted s context configs).findSome? faultOf?).map .mapper := by
  cases present : context.user with
  | none => simp [issue, run_without_user s context _ claims present, consulted, present, Outcome.ok]
  | some user => simp only [issue, run_refusal s context _ user claims present, consulted, present]

-- The first one that cannot be read.
structure Culprit (reads : List (Variant × MapperConfig)) (variant : Variant) (config : MapperConfig)
    (fault : Fault) : Prop where
  first : ∃ before after, reads = before ++ (variant, config) :: after ∧ ∀ read ∈ before, faultOf? read = none
  unreadable : Mapping.ofConfig variant config = .error fault

theorem culprit_of_first (reads : List (Variant × MapperConfig)) (fault : Fault)
    (first : reads.findSome? faultOf? = some fault) : ∃ variant config, Culprit reads variant config fault := by
  obtain ⟨before, ⟨variant, config⟩, after, split, own, readable⟩ := List.findSome?_eq_some_iff.mp first
  exact ⟨variant, config, ⟨before, after, split, readable⟩, (error_of_some _ fault).mp own⟩

end Registry

-- A fatal fault of a mapper, answered without a word about the mapper.
structure Refusal.BlamesServer (refusal : Refusal) : Prop where
  fatal : ∃ fault, refusal = .mapper fault ∧ fault.isFatal = true
  code : refusal.code = "server_error"
  status : refusal.status = 500
  description : refusal.response.description = some "token could not be issued"

theorem Fault.blames_server_iff (fault : Fault) :
    (Refusal.mapper fault).BlamesServer ↔ fault.isFatal = true := by
  constructor
  · intro blamed
    obtain ⟨own, same, fatal⟩ := blamed.fatal
    rw [Refusal.mapper.inj same, fatal]
  · intro fatal
    exact
      { fatal := ⟨fault, rfl, fatal⟩
        code := by simp [Refusal.code, Refusal.isServerError, fatal]
        status := by simp [Refusal.status, Refusal.isServerError, fatal]
        description := by simp [Refusal.response, fatal] }

namespace Registry

theorem failure_blames_server_iff (s : Surface) (context : IssueContext) (configs : List MapperConfig)
    (claims : s.Claims) (refusal : Refusal)
    (failed : (pairwise.issue s context configs claims).refusal = some refusal) :
    ∃ variant config fault, Culprit (consulted s context configs) variant config fault ∧
      refusal = .mapper fault ∧ (refusal.BlamesServer ↔ ¬ Mapping.Keyed variant config) := by
  rw [issue_refusal] at failed
  obtain ⟨fault, first, rfl⟩ := Option.map_eq_some_iff.mp failed
  obtain ⟨variant, config, culprit⟩ := culprit_of_first _ fault first
  have unreadable := Mapping.of_config_refused variant config fault culprit.unreadable
  exact ⟨variant, config, fault, culprit, rfl,
    fault.blames_server_iff.trans (Mapping.unreadable_fatal_iff variant config fault unreadable)⟩

-- A mapper that was never saved, so it has no salt.
def unsavedMapper : MapperConfig := sampleMapper 1 Variant.staticSector.mapperType [sampleSector]

def unsavedListing : IssueContext :=
  { user := some sampleUser
    lookup := some fun client => if client = "b" then some [unsavedMapper] else none }

-- Client a does not exist and is passed over.
def listOfUnsaved : MapperConfig :=
  sampleMapper 0 PseudonymList.mapperType [(OptionKey.claimName, "ids"), (OptionKey.clients, "a##b")]

theorem unsaved_client_blames_server :
    ∃ refusal, (pairwise.issue .accessToken unsavedListing [listOfUnsaved] sampleAccess).refusal = some refusal ∧
      consulted .accessToken unsavedListing [listOfUnsaved] = [(.staticSector, unsavedMapper)] ∧
      refusal.BlamesServer := by
  have failed : (pairwise.issue .accessToken unsavedListing [listOfUnsaved] sampleAccess).refusal =
      some (.mapper .missingSalt) := by decide +kernel
  have reads : consulted .accessToken unsavedListing [listOfUnsaved] = [(.staticSector, unsavedMapper)] := by
    decide +kernel
  obtain ⟨variant, config, fault, culprit, _, blamed⟩ :=
    failure_blames_server_iff .accessToken unsavedListing [listOfUnsaved] sampleAccess _ failed
  have member : (variant, config) ∈ [(Variant.staticSector, unsavedMapper)] := by
    obtain ⟨before, after, split, _⟩ := culprit.first
    simp [← reads, split]
  obtain ⟨rfl, rfl⟩ := Prod.mk.inj (List.mem_singleton.mp member)
  refine ⟨_, failed, reads, blamed.mpr fun keyed => ?_⟩
  obtain ⟨salt, present⟩ := keyed.salt rfl
  have absent : unsavedMapper.salt? = none := by decide +kernel
  simp [absent] at present

theorem missing_sector_blames_request :
    ¬ ∀ (s : Surface) (context : IssueContext) (configs : List MapperConfig) (claims : s.Claims)
        (refusal : Refusal),
      (pairwise.issue s context configs claims).refusal = some refusal → refusal.BlamesServer := by
  intro always
  have failed : (pairwise.issue .accessToken { user := some sampleUser }
      [sampleMapper 0 Variant.simpleSector.mapperType []] sampleAccess).refusal =
        some (.mapper .missingSector) := by decide +kernel
  have blamed := always .accessToken _ _ sampleAccess _ failed
  have fatal := (Fault.blames_server_iff _).mp blamed
  cases fatal

end Registry

end PairwiseId
