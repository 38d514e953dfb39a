import PairwiseId.Proofs.Mapper.Order
import PairwiseId.Proofs.Mapper.Targets

/- Issuing claims through the pairwise registry: when it succeeds, and which of
   the configurations decides the subject. -/
namespace PairwiseId.Registry

set_option autoImplicit false

theorem run_ok (r : Registry) (inStep : r.InStep) (s : Surface) (context : IssueContext)
    (configs : List MapperConfig) (claims : s.Claims)
    (each : ∀ config ∈ configs, ∀ mapper, r.get? config.mapperType = some mapper →
      ∀ claims, ∃ after, mapper.transform s context config claims = .ok after) :
    ∃ after, run r s context configs claims = .ok after := by
  induction configs generalizing claims with
  | nil => exact ⟨claims, rfl⟩
  | cons config rest ih =>
      have later := fun claims => ih claims fun c member => each c (List.mem_cons_of_mem _ member)
      cases found : r.get? config.mapperType with
      | none =>
          rw [run_unknown r inStep s context config rest claims found]
          exact later claims
      | some mapper =>
          obtain ⟨next, done⟩ := each config List.mem_cons_self mapper found claims
          rw [run_known r inStep s context config rest claims mapper found, done]
          exact later next

-- A run that fails keeps what the mapper that failed has left.
theorem run_preserves (r : Registry) (inStep : r.InStep) (s : Surface) (context : IssueContext)
    (inv : s.Claims → Prop) (configs : List MapperConfig) (claims : s.Claims) (start : inv claims)
    (step : ∀ config ∈ configs, ∀ mapper, r.get? config.mapperType = some mapper →
      ∀ claims, inv claims → inv (mapper.transform s context config claims).claims) :
    inv (run r s context configs claims).claims := by
  induction configs generalizing claims with
  | nil => exact start
  | cons config rest ih =>
      have later := fun claims start => ih claims start fun c member => step c (List.mem_cons_of_mem _ member)
      cases found : r.get? config.mapperType with
      | none =>
          rw [run_unknown r inStep s context config rest claims found]
          exact later claims start
      | some mapper =>
          have next := step config List.mem_cons_self mapper found claims start
          rw [run_known r inStep s context config rest claims mapper found]
          cases refused : (mapper.transform s context config claims).refusal with
          | none => exact later _ next
          | some refusal => exact next

theorem mem_included (r : Registry) (s : Surface) (configs : List MapperConfig) (config : MapperConfig)
    (member : config ∈ r.inOrder (configs.filter (MapperConfig.isIncluded s))) : config ∈ configs :=
  (List.mem_filter.mp ((in_order_perm r _).mem_iff.mp member)).1

theorem issue_ok (r : Registry) (inStep : r.InStep) (s : Surface) (context : IssueContext)
    (configs : List MapperConfig) (claims : s.Claims)
    (each : ∀ config ∈ configs, ∀ mapper, r.get? config.mapperType = some mapper →
      ∀ claims, ∃ after, mapper.transform s context config claims = .ok after) :
    ∃ after, r.issue s context configs claims = .ok after :=
  run_ok r inStep s context _ claims fun config member => each config (mem_included r s configs config member)

-- The variants that write the subject.
def subjectVariant? (config : MapperConfig) : Option Variant :=
  [Variant.staticSector, .simpleSector].find? fun variant => variant.mapperType == config.mapperType

-- What a configuration makes of the subject of a user, if it does anything.
def subjectOf? (user : User) (config : MapperConfig) : Option Pseudonym := do
  let variant ← subjectVariant? config
  let mapping ← (Mapping.ofConfig variant config).toOption
  let localId ← (LocalSource.ofConfig config).resolve user
  return mapping.derive localId

theorem subject_of_mapped (user : User) (config : MapperConfig) (variant : Variant) (mapping : Mapping)
    (chosen : subjectVariant? config = some variant)
    (read : Mapping.ofConfig variant config = .ok mapping) :
    subjectOf? user config = ((LocalSource.ofConfig config).resolve user).map mapping.derive := by
  simp only [subjectOf?, chosen, read, Except.toOption, Option.bind_eq_bind, Option.bind_some]
  cases (LocalSource.ofConfig config).resolve user with
  | none => rfl
  | some localId => rfl

theorem subject_of_other (user : User) (config : MapperConfig) (ignored : subjectVariant? config = none) :
    subjectOf? user config = none := by
  simp [subjectOf?, ignored]

theorem subject_variant_type (config : MapperConfig) (variant : Variant)
    (chosen : subjectVariant? config = some variant) : config.mapperType = variant.mapperType := by
  have same := List.find?_some chosen
  exact (eq_of_beq same).symm

theorem subject_variant_cases (config : MapperConfig) (variant : Variant)
    (chosen : subjectVariant? config = some variant) : variant = .staticSector ∨ variant = .simpleSector := by
  simpa using List.mem_of_find?_eq_some chosen

theorem subject_variant_none (config : MapperConfig) (variant : Variant)
    (type : config.mapperType = variant.mapperType) (ignored : subjectVariant? config = none) :
    variant ≠ .staticSector ∧ variant ≠ .simpleSector := by
  have differs := List.find?_eq_none.mp ignored
  rw [type] at differs
  constructor
  · intro same
    subst same
    exact differs .staticSector (by simp) (beq_self_eq_true _)
  · intro same
    subst same
    exact differs .simpleSector (by simp) (beq_self_eq_true _)

-- All variants are registered, so an unknown type is none of them.
theorem subject_variant_unknown (config : MapperConfig) (unknown : pairwise.get? config.mapperType = none) :
    subjectVariant? config = none := by
  cases chosen : subjectVariant? config with
  | none => rfl
  | some variant =>
      rw [subject_variant_type config variant chosen, pairwise_get_variant] at unknown
      cases unknown

-- Only the two sector variants write the subject; each of the others writes somewhere else.
theorem transform_keeps_subject (s : Surface) (context : IssueContext) (config : MapperConfig) (mapper : Mapper)
    (claims : s.Claims) (found : pairwise.get? config.mapperType = some mapper)
    (ignored : subjectVariant? config = none) :
    ClaimSet.subject (mapper.transform s context config claims).claims = ClaimSet.subject claims := by
  rcases pairwise_get_some _ _ found with ⟨variant, type, rfl⟩ | ⟨_, rfl⟩
  · have changed := Mapper.transform_changes_only context config claims (.mapping variant)
    obtain ⟨notStatic, notSimple⟩ := subject_variant_none config variant type ignored
    cases variant with
    | staticSector => exact absurd rfl notStatic
    | simpleSector => exact absurd rfl notSimple
    | email => exact changed.subject (by simp [Mapper.Kind.part])
    | namedClaim => exact changed.subject (by simp [Mapper.Kind.part])
  · exact (Mapper.transform_changes_only context config claims .list).subject (by simp [Mapper.Kind.part])

theorem transform_subject (s : Surface) (context : IssueContext) (config : MapperConfig) (user : User)
    (mapper : Mapper) (claims after : s.Claims) (present : context.user = some user)
    (found : pairwise.get? config.mapperType = some mapper)
    (done : mapper.transform s context config claims = .ok after) :
    ClaimSet.subject after =
      ((subjectOf? user config).map Pseudonym.text).getD (ClaimSet.subject claims) := by
  cases chosen : subjectVariant? config with
  | none =>
      have kept := transform_keeps_subject s context config mapper claims found chosen
      rw [done] at kept
      rw [subject_of_other user config chosen]
      exact kept
  | some variant =>
      have own := pairwise_get_variant variant
      rw [← subject_variant_type config variant chosen, found] at own
      obtain rfl := Option.some.inj own
      obtain ⟨mapping, read, rfl⟩ := Mapper.apply_variant_ok variant context config user claims after present done
      rw [subject_of_mapped user config variant mapping chosen read]
      cases (LocalSource.ofConfig config).resolve user with
      | none => rfl
      | some localId =>
          have shown := Mapper.write_shows variant config mapping (mapping.derive localId) user claims read
          rcases subject_variant_cases config variant chosen with rfl | rfl
          · exact shown
          · exact shown

-- Every pseudonym overwrites the subject before it, so the last one stays.
theorem run_subject (s : Surface) (context : IssueContext) (user : User) (configs : List MapperConfig)
    (claims after : s.Claims) (present : context.user = some user)
    (done : run pairwise s context configs claims = .ok after) :
    ClaimSet.subject after =
      ((configs.filterMap (subjectOf? user)).getLast?.map Pseudonym.text).getD (ClaimSet.subject claims) := by
  induction configs generalizing claims with
  | nil =>
      obtain rfl : claims = after := congrArg Outcome.claims done
      rfl
  | cons config rest ih =>
      cases found : pairwise.get? config.mapperType with
      | none =>
          have ignored := subject_variant_unknown config found
          rw [run_unknown _ pairwise_in_step s context config rest claims found] at done
          rw [ih claims done, List.filterMap_cons, subject_of_other user config ignored]
      | some mapper =>
          obtain ⟨next, first, later⟩ :=
            run_known_ok _ pairwise_in_step s context config rest claims mapper found after done
          have changed := transform_subject s context config user mapper claims next present found first
          rw [ih next later, changed, List.filterMap_cons]
          cases subjectOf? user config with
          | none => rfl
          | some pseudonym =>
              rw [List.getLast?_cons]
              cases (rest.filterMap (subjectOf? user)).getLast? with
              | none => rfl
              | some last => rfl

theorem subject_priority (user : User) (config : MapperConfig) (effective : subjectOf? user config ≠ none) :
    pairwise.priority config = 0 := by
  cases chosen : subjectVariant? config with
  | none => exact absurd (subject_of_other user config chosen) effective
  | some variant =>
      have type := subject_variant_type config variant chosen
      simp only [priority, type, pairwise_get_variant]
      rcases subject_variant_cases config variant chosen with rfl | rfl
      · rfl
      · rfl

-- Those that write the subject share one priority, so sorting leaves them in the stored order.
theorem issue_subject (s : Surface) (context : IssueContext) (user : User) (configs : List MapperConfig)
    (claims after : s.Claims) (present : context.user = some user)
    (done : pairwise.issue s context configs claims = .ok after) :
    ClaimSet.subject after =
      (((configs.filter (MapperConfig.isIncluded s)).filterMap (subjectOf? user)).getLast?.map
        Pseudonym.text).getD (ClaimSet.subject claims) := by
  rw [run_subject s context user _ claims after present done,
    filter_map_in_order pairwise (subjectOf? user) 0 _ fun c _ => subject_priority user c]

end PairwiseId.Registry
