import PairwiseId.Proofs.Mapper.Types
import PairwiseId.Store

/- What one request does to a store, and which configurations a store can hold
   after any requests: each of them has passed a save under its owner. -/
namespace PairwiseId.Store

set_option autoImplicit false

theorem mappers_with_self (st : Store) (owner : Owner) (configs : List MapperConfig) :
    (st.withMappers owner configs).mappers? owner = some configs := by
  cases owner <;> simp [withMappers, mappers?]

theorem mappers_with_other (st : Store) (owner other : Owner) (configs : List MapperConfig)
    (different : other ≠ owner) :
    (st.withMappers owner configs).mappers? other = st.mappers? other := by
  cases owner with
  | realm =>
      cases other with
      | realm => exact absurd rfl different
      | client id => rfl
  | client id =>
      cases other with
      | realm => rfl
      | client o => exact KeyMap.get?_put_other _ _ _ _ fun same => different (congrArg Owner.client same)

theorem mappers_erase_other (st : Store) (client : String) (owner : Owner) (different : owner ≠ .client client) :
    Store.mappers? { st with clients := st.clients.erase client } owner = st.mappers? owner := by
  cases owner with
  | realm => rfl
  | client id => exact KeyMap.get_erase_other _ _ _ fun same => different (congrArg Owner.client same)

theorem list_eq (st : Store) (owner : Owner) (configs : List MapperConfig)
    (present : st.mappers? owner = some configs) : st.list owner = configs := by
  simp [list, present]

theorem list_same (st next : Store) (owner : Owner) (same : next.mappers? owner = st.mappers? owner) :
    next.list owner = st.list owner := by
  simp only [list, same]

theorem mem_upsert (config other : MapperConfig) (configs : List MapperConfig)
    (member : other ∈ upsert config configs) : other = config ∨ other ∈ configs := by
  induction configs with
  | nil => exact .inl (List.mem_singleton.mp member)
  | cons c rest ih =>
      rw [upsert] at member
      split at member
      · rcases List.mem_cons.mp member with atHead | later
        · exact .inl atHead
        · exact .inr (List.mem_cons_of_mem c later)
      · rcases List.mem_cons.mp member with atHead | later
        · exact .inr (atHead ▸ List.mem_cons_self)
        · exact (ih later).imp_right (List.mem_cons_of_mem c)

-- What a request can do: nothing, or exactly one of the four changes. Proofs about a step
-- go through these cases and not through its definition.
inductive Effect (st : Store) : Op → Store → Prop where
  | unchanged (op : Op) : Effect st op st
  | created (client : String) (absent : st.mappers? (.client client) = none) :
      Effect st (.createClient client) (st.withMappers (.client client) [])
  | removed (client : String) :
      Effect st (.deleteClient client) { st with clients := st.clients.erase client }
  | saved (owner : Owner) (config : MapperConfig) (fresh : Salt) (configs : List MapperConfig)
      (stored : MapperConfig) (present : st.mappers? owner = some configs)
      (accepted : st.registry.checkSave ⟨owner, st.lookup, st.settings, fresh⟩
        (keepSalt (st.get? owner config.id) config) = .ok stored) :
      Effect st (.save owner config fresh) (st.withMappers owner (upsert stored configs))
  | deleted (owner : Owner) (id : Uuid) (configs : List MapperConfig)
      (present : st.mappers? owner = some configs) :
      Effect st (.delete owner id) (st.withMappers owner (configs.filter fun c => c.id != id))

theorem save_ok (st : Store) (owner : Owner) (config : MapperConfig) (fresh : Salt)
    (stored : MapperConfig) (next : Store) (done : st.save owner config fresh = .ok (stored, next)) :
    ∃ configs, st.mappers? owner = some configs ∧
      st.registry.checkSave ⟨owner, st.lookup, st.settings, fresh⟩
        (keepSalt (st.get? owner config.id) config) = .ok stored ∧
      next = st.withMappers owner (upsert stored configs) := by
  unfold save at done
  split at done
  · cases done
  · rename_i configs present
    simp only [bind_ok, pure, Except.pure, Except.ok.injEq, Prod.mk.injEq] at done
    obtain ⟨result, accepted, rfl, rfl⟩ := done
    exact ⟨configs, present, accepted, rfl⟩

theorem step_effect (st : Store) (op : Op) : Effect st op (st.step op) := by
  cases op with
  | createClient client =>
      cases present : st.clients.get? client with
      | some configs => simpa [step, createClient, present] using Effect.unchanged (.createClient client)
      | none => simpa [step, createClient, present] using Effect.created client present
  | deleteClient client =>
      cases present : st.clients.get? client with
      | none => simpa [step, deleteClient, present] using Effect.unchanged (.deleteClient client)
      | some configs => simpa [step, deleteClient, present] using Effect.removed client
  | save owner config fresh =>
      cases done : st.save owner config fresh with
      | error refusal => simpa [step, done] using Effect.unchanged (.save owner config fresh)
      | ok result =>
          obtain ⟨configs, present, accepted, same⟩ := save_ok st owner config fresh result.1 result.2 done
          have effect := Effect.saved owner config fresh configs result.1 present accepted
          simpa [step, done, ← same] using effect
  | delete owner id =>
      cases present : st.mappers? owner with
      | none => simpa [step, delete, present] using Effect.unchanged (.delete owner id)
      | some configs => simpa [step, delete, present] using Effect.deleted owner id configs present

structure Configured (settings : Settings) (st : Store) : Prop where
  registry : st.registry = .pairwise
  settings : st.settings = settings

theorem step_configured (settings : Settings) (st : Store) (op : Op) (configured : Configured settings st) :
    Configured settings (st.step op) := by
  have with_mappers : ∀ owner configs, Configured settings (st.withMappers owner configs) := by
    intro owner configs
    cases owner <;> exact ⟨configured.registry, configured.settings⟩
  have effect := step_effect st op
  generalize st.step op = next at effect ⊢
  cases effect with
  | unchanged op => exact configured
  | created client absent => exact with_mappers _ _
  | removed client => exact ⟨configured.registry, configured.settings⟩
  | saved owner config fresh configs stored present accepted => exact with_mappers _ _
  | deleted owner id configs present => exact with_mappers _ _

-- No request touches the registry or the settings, so a step may rely on both.
theorem run_induction (settings : Settings) (inv : Store → Prop) (ops : List Op) (st : Store)
    (configured : Configured settings st) (start : inv st)
    (preserved : ∀ st op, op ∈ ops → Configured settings st → inv st → inv (st.step op)) :
    Configured settings (st.run ops) ∧ inv (st.run ops) := by
  induction ops generalizing st with
  | nil => exact ⟨configured, start⟩
  | cons op rest ih =>
      have next := preserved st op List.mem_cons_self configured start
      exact ih (st.step op) (step_configured settings st op configured) next
        fun st op member => preserved st op (List.mem_cons_of_mem _ member)

-- The store after some requests, from an empty one with the pairwise mappers.
def reached (settings : Settings) (ops : List Op) : Store :=
  (empty .pairwise settings).run ops

theorem empty_configured (settings : Settings) : Configured settings (empty .pairwise settings) :=
  ⟨rfl, rfl⟩

theorem reached_configured (settings : Settings) (ops : List Op) :
    Configured settings (reached settings ops) :=
  (run_induction settings (fun _ => True) ops _ (empty_configured settings) trivial
    fun _ _ _ _ _ => trivial).1

-- A configuration that some save under this owner has returned. The view of the clients is
-- the one at that save: the clients may have changed since.
def Accepted (settings : Settings) (owner : Owner) (config : MapperConfig) : Prop :=
  ∃ lookup fresh submitted,
    Registry.pairwise.checkSave ⟨owner, lookup, settings, fresh⟩ submitted = .ok config

def AllAccepted (settings : Settings) (st : Store) : Prop :=
  ∀ owner, ∀ config ∈ st.list owner, Accepted settings owner config

theorem with_mappers_accepted (settings : Settings) (st : Store) (owner : Owner) (configs : List MapperConfig)
    (all : AllAccepted settings st) (accepted : ∀ config ∈ configs, Accepted settings owner config) :
    AllAccepted settings (st.withMappers owner configs) := by
  intro other config member
  by_cases same : other = owner
  · subst same
    rw [list_eq _ _ _ (mappers_with_self st other configs)] at member
    exact accepted config member
  · rw [list_same st _ other (mappers_with_other st owner other configs same)] at member
    exact all other config member

theorem step_accepted (settings : Settings) (st : Store) (op : Op) (configured : Configured settings st)
    (all : AllAccepted settings st) : AllAccepted settings (st.step op) := by
  have effect := step_effect st op
  generalize st.step op = next at effect ⊢
  cases effect with
  | unchanged op => exact all
  | created client absent => exact with_mappers_accepted settings st _ [] all (by simp)
  | removed client =>
      intro owner config member
      by_cases same : owner = .client client
      · subst same
        simp [list, mappers?, KeyMap.get_erase_self] at member
      · rw [list_same st _ owner (mappers_erase_other st client owner same)] at member
        exact all owner config member
  | saved owner config fresh configs stored present accepted =>
      refine with_mappers_accepted settings st owner _ all fun other member => ?_
      rcases mem_upsert stored other configs member with rfl | old
      · rw [configured.registry, configured.settings] at accepted
        exact ⟨_, _, _, accepted⟩
      · exact all owner other (by rwa [list_eq st owner configs present])
  | deleted owner id configs present =>
      refine with_mappers_accepted settings st owner _ all fun other member => ?_
      have old : other ∈ configs := (List.mem_filter.mp member).1
      exact all owner other (by rwa [list_eq st owner configs present])

theorem reached_accepted (settings : Settings) (ops : List Op) : AllAccepted settings (reached settings ops) :=
  (run_induction settings (AllAccepted settings) ops _ (empty_configured settings)
    (by intro owner config member; cases owner <;> simp [list, mappers?, empty] at member)
    fun st op _ => step_accepted settings st op).2

end PairwiseId.Store
