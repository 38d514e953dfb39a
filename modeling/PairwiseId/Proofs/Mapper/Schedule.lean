import PairwiseId.Proofs.Mapper.Order
import PairwiseId.Proofs.Mapper.Registered
import PairwiseId.Proofs.Mapper.Transform

/- Issuing through a registry of any mappers: the included configurations of known
   types are run once each, lower priorities first and equal ones in the given order,
   until one of them fails. -/
namespace PairwiseId.Registry

set_option autoImplicit false

-- A mapper together with the configuration it is run with.
abbrev Job := Mapper × MapperConfig

def job? (mappers : List Mapper) (config : MapperConfig) : Option Job :=
  (latest? mappers config.mapperType).map fun mapper => (mapper, config)

def jobs (mappers : List Mapper) (s : Surface) (configs : List MapperConfig) : List Job :=
  (configs.filter fun c => c.get? s.optionKey != some "false").filterMap (job? mappers)

-- Included, and of a type that is known.
def isEffective (mappers : List Mapper) (s : Surface) (config : MapperConfig) : Bool :=
  config.get? s.optionKey != some "false" && (latest? mappers config.mapperType).isSome

def atLevel (level : Int) (jobs : List Job) : List Job := jobs.filter fun job => job.1.priority == level

structure Schedule (jobs schedule : List Job) : Prop where
  once : schedule.Perm jobs
  ascending : schedule.Pairwise fun a b => a.1.priority ≤ b.1.priority
  stable : ∀ level, atLevel level schedule = atLevel level jobs

-- Each job begins with the claims that the one before has left. A failure is the outcome of the
-- whole, with the claims that it leaves.
inductive Performs (s : Surface) (context : IssueContext) : List Job → s.Claims → Outcome s.Claims → Prop where
  | done (claims : s.Claims) : Performs s context [] claims (.ok claims)
  | failed (mapper : Mapper) (config : MapperConfig) (rest : List Job) (claims left : s.Claims)
      (refusal : Refusal) (fails : mapper.transform s context config claims = .failed left refusal) :
      Performs s context ((mapper, config) :: rest) claims (.failed left refusal)
  | passed (mapper : Mapper) (config : MapperConfig) (rest : List Job) (claims next : s.Claims)
      (outcome : Outcome s.Claims) (passes : mapper.transform s context config claims = .ok next)
      (later : Performs s context rest next outcome) :
      Performs s context ((mapper, config) :: rest) claims outcome

theorem performs_unique (s : Surface) (context : IssueContext) (jobs : List Job) (claims : s.Claims)
    (first second : Outcome s.Claims) (one : Performs s context jobs claims first)
    (other : Performs s context jobs claims second) : first = second := by
  induction one with
  | done claims =>
      cases other with
      | done _ => rfl
  | failed mapper config rest claims left refusal fails =>
      cases other with
      | failed _ _ _ _ left' refusal' fails' => rw [← fails, ← fails']
      | passed _ _ _ _ next _ passes _ => cases (congrArg Outcome.refusal (fails.symm.trans passes))
  | passed mapper config rest claims next outcome passes later ih =>
      cases other with
      | failed _ _ _ _ left refusal fails => cases (congrArg Outcome.refusal (fails.symm.trans passes))
      | passed _ _ _ _ next' _ passes' later' =>
          obtain rfl : next = next' := congrArg Outcome.claims (passes.symm.trans passes')
          exact ih later'

theorem job_of_config (mappers : List Mapper) (config : MapperConfig) (job : Job)
    (found : job? mappers config = some job) :
    job.2 = config ∧ (ofMappers mappers).priority config = job.1.priority := by
  obtain ⟨mapper, known, rfl⟩ := Option.map_eq_some_iff.mp found
  simp [priority, get_of_mappers, known]

theorem run_performs (mappers : List Mapper) (s : Surface) (context : IssueContext)
    (configs : List MapperConfig) (claims : s.Claims) :
    Performs s context (configs.filterMap (job? mappers)) claims
      (run (ofMappers mappers) s context configs claims) := by
  induction configs generalizing claims with
  | nil => exact .done claims
  | cons config rest ih =>
      have inStep := of_mappers_in_step mappers
      have found := get_of_mappers mappers config.mapperType
      cases known : latest? mappers config.mapperType with
      | none =>
          have skipped : job? mappers config = none := by simp [job?, known]
          rw [run_unknown _ inStep s context config rest claims (found.trans known),
            List.filterMap_cons_none skipped]
          exact ih claims
      | some mapper =>
          have first : job? mappers config = some (mapper, config) := by simp [job?, known]
          rw [run_known _ inStep s context config rest claims mapper (found.trans known),
            List.filterMap_cons_some first]
          cases refused : (mapper.transform s context config claims).refusal with
          | none =>
              have passes := Outcome.eq_ok _ refused
              exact .passed mapper config _ claims _ _ passes (ih _)
          | some refusal =>
              have fails : mapper.transform s context config claims =
                  .failed (mapper.transform s context config claims).claims refusal := by
                rw [Outcome.failed, ← refused]
              dsimp only
              rw [fails]
              exact .failed mapper config _ claims _ refusal fails

variable (r : Registry)

theorem place_ascending (config : MapperConfig) (configs : List MapperConfig)
    (ascending : configs.Pairwise fun a b => r.priority a ≤ r.priority b) :
    (placeByPriority r config configs).Pairwise fun a b => r.priority a ≤ r.priority b := by
  induction configs with
  | nil => simp [placeByPriority]
  | cons c rest ih =>
      obtain ⟨first, restAscending⟩ := List.pairwise_cons.mp ascending
      by_cases before : r.priority config ≤ r.priority c
      · rw [placeByPriority, if_pos before, List.pairwise_cons]
        refine ⟨fun other member => ?_, ascending⟩
        rcases List.mem_cons.mp member with rfl | later
        · exact before
        · exact Int.le_trans before (first other later)
      · rw [placeByPriority, if_neg before, List.pairwise_cons]
        refine ⟨fun other member => ?_, ih restAscending⟩
        rcases List.mem_cons.mp ((place_by_priority_perm r config rest).mem_iff.mp member) with rfl | later
        · omega
        · exact first other later

theorem in_order_ascending (configs : List MapperConfig) :
    (r.inOrder configs).Pairwise fun a b => r.priority a ≤ r.priority b := by
  induction configs with
  | nil => exact .nil
  | cons config rest ih => exact place_ascending r config _ ih

theorem in_order_schedule (mappers : List Mapper) (configs : List MapperConfig) :
    Schedule (configs.filterMap (job? mappers))
      (((ofMappers mappers).inOrder configs).filterMap (job? mappers)) := by
  refine ⟨(in_order_perm _ configs).filterMap _, ?_, fun level => ?_⟩
  · refine (in_order_ascending _ configs).filterMap _ fun a b less first isFirst second isSecond => ?_
    rw [← (job_of_config mappers a first isFirst).2, ← (job_of_config mappers b second isSecond).2]
    exact less
  · simp only [atLevel, List.filter_filterMap]
    refine filter_map_in_order _ _ level configs fun config _ chosen => ?_
    obtain ⟨job, found⟩ := Option.ne_none_iff_exists'.mp chosen
    obtain ⟨known, same⟩ := Option.filter_eq_some_iff.mp found
    rw [(job_of_config mappers config job known).2]
    exact eq_of_beq same

theorem level_cons (level : Int) (job : Job) (rest : List Job) :
    atLevel level (job :: rest) =
      if job.1.priority = level then job :: atLevel level rest else atLevel level rest := by
  simp [atLevel, List.filter_cons]

-- The first job of each schedule has the least priority, so both begin at the same level, and there
-- they agree.
theorem schedule_unique (jobs first second : List Job) (one : Schedule jobs first)
    (other : Schedule jobs second) : first = second := by
  have least : ∀ (job : Job) (rest list : List Job),
      (job :: rest).Pairwise (fun a b => a.1.priority ≤ b.1.priority) → (job :: rest).Perm list →
      ∀ later ∈ list, job.1.priority ≤ later.1.priority := by
    intro job rest list ascending perm later member
    rcases List.mem_cons.mp (perm.mem_iff.mpr member) with rfl | inRest
    · exact Int.le_refl _
    · exact (List.pairwise_cons.mp ascending).1 later inRest
  induction first generalizing second jobs with
  | nil =>
      have none : jobs = [] := List.nil_perm.mp one.once
      exact (List.perm_nil.mp (none ▸ other.once)).symm
  | cons job rest ih =>
      cases second with
      | nil => exact (List.cons_ne_nil _ _ (List.perm_nil.mp (one.once.trans other.once.symm))).elim
      | cons head tail =>
          have perm := one.once.trans other.once.symm
          have below := least job rest _ one.ascending perm head List.mem_cons_self
          have above := least head tail _ other.ascending perm.symm job List.mem_cons_self
          have level := Int.le_antisymm below above
          have agree := fun level => (one.stable level).trans (other.stable level).symm
          obtain rfl : job = head := by
            have same := agree job.1.priority
            rw [level_cons, level_cons, if_pos rfl, if_pos level.symm] at same
            exact (List.cons.inj same).1
          have remaining : ∀ level, atLevel level rest = atLevel level tail := by
            intro level
            have same := agree level
            rw [level_cons, level_cons] at same
            split at same
            · exact (List.cons.inj same).2
            · exact same
          rw [ih rest tail ⟨.refl _, one.ascending.tail, fun _ => rfl⟩
            ⟨(List.perm_cons job).mp perm.symm, other.ascending.tail, fun level => (remaining level).symm⟩]

theorem is_included_eq (s : Surface) (config : MapperConfig) :
    config.isIncluded s = (config.get? s.optionKey != some "false") := by
  simp only [MapperConfig.isIncluded, MapperConfig.getBool?]
  cases config.get? s.optionKey with
  | none => rfl
  | some value =>
      by_cases yes : value = "true"
      · simp [yes]
      · by_cases no : value = "false"
        · simp [no]
        · simp [yes, no]

theorem issue_scheduled (mappers : List Mapper) (s : Surface) (context : IssueContext)
    (configs : List MapperConfig) (claims : s.Claims) :
    ∃ schedule, Schedule (jobs mappers s configs) schedule ∧
      Performs s context schedule claims ((ofMappers mappers).issue s context configs claims) := by
  have included : configs.filter (MapperConfig.isIncluded s) =
      configs.filter fun c => c.get? s.optionKey != some "false" :=
    List.filter_congr fun config _ => is_included_eq s config
  refine ⟨_, in_order_schedule mappers _, ?_⟩
  rw [issue, included]
  exact run_performs mappers s context _ claims

theorem jobs_effective (mappers : List Mapper) (s : Surface) (configs : List MapperConfig) :
    jobs mappers s (configs.filter (isEffective mappers s)) = jobs mappers s configs := by
  rw [jobs, jobs, List.filter_filter, List.filterMap_filter, List.filterMap_filter]
  apply List.filterMap_congr
  intro config _
  cases known : latest? mappers config.mapperType with
  | none => simp [job?, known]
  | some mapper => simp [isEffective, known]

theorem issue_follows_schedule (mappers : List Mapper) (s : Surface) (context : IssueContext)
    (configs : List MapperConfig) (claims : s.Claims) :
    (∃! schedule, Schedule (jobs mappers s configs) schedule) ∧
      (∀ schedule, Schedule (jobs mappers s configs) schedule → ∀ outcome,
        Performs s context schedule claims outcome ↔
          outcome = (ofMappers mappers).issue s context configs claims) ∧
      (ofMappers mappers).issue s context (configs.filter (isEffective mappers s)) claims =
        (ofMappers mappers).issue s context configs claims := by
  obtain ⟨order, scheduled, performed⟩ := issue_scheduled mappers s context configs claims
  refine ⟨⟨order, scheduled, fun other also => schedule_unique _ other order also scheduled⟩, ?_, ?_⟩
  · intro schedule also outcome
    obtain rfl := schedule_unique _ schedule order also scheduled
    constructor
    · exact fun performs => performs_unique s context _ claims _ _ performs performed
    · rintro rfl
      exact performed
  · obtain ⟨fewer, alsoScheduled, alsoPerformed⟩ := issue_scheduled mappers s context
      (configs.filter (isEffective mappers s)) claims
    rw [jobs_effective] at alsoScheduled
    obtain rfl := schedule_unique _ fewer order alsoScheduled scheduled
    exact performs_unique s context _ claims _ _ alsoPerformed performed

end PairwiseId.Registry
