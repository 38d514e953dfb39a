import Mathlib.Logic.Function.Basic
import PairwiseId.Proofs.Store.Ids

/- The store as it is seen from outside: the mappers of each owner that exists, a
   list with distinct ids. Whatever mappers are registered, every request is answered
   from these lists alone and changes nothing but the list that it names. -/
namespace PairwiseId.Store

set_option autoImplicit false

inductive Request where
  | change (op : Op)
  | get (owner : Owner) (id : Uuid)
  | list (owner : Owner)

inductive Answer where
  | created (new : Bool)
  | dropped (count : Option Nat)
  | saved (result : Except Refusal MapperConfig)
  | deleted (existed : Bool)
  | found (config : Option MapperConfig)
  | listed (configs : List MapperConfig)
deriving DecidableEq

def answer (st : Store) : Request → Answer
  | .change (.createClient client) => .created (st.createClient client).1
  | .change (.deleteClient client) => .dropped (st.deleteClient client).1
  | .change (.save owner config fresh) => .saved ((st.save owner config fresh).map Prod.fst)
  | .change (.delete owner id) => .deleted (st.delete owner id).1
  | .get owner id => .found (st.get? owner id)
  | .list owner => .listed (st.list owner)

def after (st : Store) : Request → Store
  | .change op => st.step op
  | .get _ _ | .list _ => st

def transcript : Store → List Request → List (Request × Answer)
  | _, [] => []
  | st, request :: rest => (request, st.answer request) :: transcript (st.after request) rest

-- What is seen of a store: `none` for a client that does not exist.
abbrev View := Owner → Option (List MapperConfig)

def View.initial : View
  | .realm => some []
  | .client _ => none

structure View.Keyed (view : View) : Prop where
  realm : view .realm ≠ none
  distinct : ∀ owner configs, view owner = some configs → (ids configs).Nodup

open Function (update)

-- The answers that a view allows and the view after each of them. Only the verdict on a saved
-- configuration and what the save makes of it are left to the registered mappers.
inductive Permits (view : View) : Request → Answer → View → Prop where
  | created (client : String) (absent : view (.client client) = none) :
      Permits view (.change (.createClient client)) (.created true)
        (update view (.client client) (some []))
  | known (client : String) (configs : List MapperConfig) (present : view (.client client) = some configs) :
      Permits view (.change (.createClient client)) (.created false) view
  | dropped (client : String) (configs : List MapperConfig)
      (present : view (.client client) = some configs) :
      Permits view (.change (.deleteClient client)) (.dropped (some configs.length))
        (update view (.client client) none)
  | unknown (client : String) (absent : view (.client client) = none) :
      Permits view (.change (.deleteClient client)) (.dropped none) view
  | refused (owner : Owner) (config : MapperConfig) (fresh : Salt) (refusal : Refusal) :
      Permits view (.change (.save owner config fresh)) (.saved (.error refusal)) view
  | replaced (owner : Owner) (config : MapperConfig) (fresh : Salt) (stored old : MapperConfig)
      (front back : List MapperConfig) (present : view owner = some (front ++ old :: back))
      (same : old.id = stored.id) :
      Permits view (.change (.save owner config fresh)) (.saved (.ok stored))
        (update view owner (some (front ++ stored :: back)))
  | appended (owner : Owner) (config : MapperConfig) (fresh : Salt) (stored : MapperConfig)
      (configs : List MapperConfig) (present : view owner = some configs) (absent : stored.id ∉ ids configs) :
      Permits view (.change (.save owner config fresh)) (.saved (.ok stored))
        (update view owner (some (configs ++ [stored])))
  | deleted (owner : Owner) (old : MapperConfig) (front back : List MapperConfig)
      (present : view owner = some (front ++ old :: back)) :
      Permits view (.change (.delete owner old.id)) (.deleted true)
        (update view owner (some (front ++ back)))
  | missed (owner : Owner) (id : Uuid) (absent : id ∉ ids ((view owner).getD [])) :
      Permits view (.change (.delete owner id)) (.deleted false) view
  | found (owner : Owner) (config : MapperConfig) (member : config ∈ (view owner).getD []) :
      Permits view (.get owner config.id) (.found (some config)) view
  | notFound (owner : Owner) (id : Uuid) (absent : id ∉ ids ((view owner).getD [])) :
      Permits view (.get owner id) (.found none) view
  | listed (owner : Owner) : Permits view (.list owner) (.listed ((view owner).getD [])) view

-- A run whose every view has distinct ids and whose every answer is permitted.
inductive Behaves : View → List (Request × Answer) → View → Prop where
  | done (view : View) (keyed : view.Keyed) : Behaves view [] view
  | next (view mid last : View) (request : Request) (answer : Answer) (rest : List (Request × Answer))
      (keyed : view.Keyed) (permitted : Permits view request answer mid) (later : Behaves mid rest last) :
      Behaves view ((request, answer) :: rest) last

theorem mappers_with (st : Store) (owner : Owner) (configs : List MapperConfig) :
    (st.withMappers owner configs).mappers? = update st.mappers? owner (some configs) := by
  funext other
  by_cases same : other = owner
  · subst same
    rw [mappers_with_self, Function.update_self]
  · rw [mappers_with_other st owner other configs same, Function.update_of_ne same]

theorem mappers_erase (st : Store) (client : String) :
    Store.mappers? { st with clients := st.clients.erase client } =
      update st.mappers? (.client client) none := by
  funext other
  by_cases same : other = .client client
  · subst same
    rw [Function.update_self]
    exact KeyMap.get_erase_self st.clients client
  · rw [mappers_erase_other st client other same, Function.update_of_ne same]

theorem split_at_id (configs : List MapperConfig) (id : Uuid) (distinct : (ids configs).Nodup)
    (present : id ∈ ids configs) :
    ∃ front old back, configs = front ++ old :: back ∧ old.id = id ∧ id ∉ ids front ∧ id ∉ ids back := by
  obtain ⟨old, member, rfl⟩ := List.mem_map.mp present
  obtain ⟨front, back, rfl⟩ := List.append_of_mem member
  have others : old.id ∉ ids front ++ ids back := by
    rw [ids, List.map_append, List.map_cons, List.nodup_middle] at distinct
    exact (List.nodup_cons.mp distinct).1
  rw [List.mem_append, not_or] at others
  exact ⟨front, old, back, rfl, rfl, others⟩

theorem upsert_split (config old : MapperConfig) (front back : List MapperConfig)
    (same : old.id = config.id) (absent : config.id ∉ ids front) :
    upsert config (front ++ old :: back) = front ++ config :: back := by
  induction front with
  | nil => simp [upsert, same]
  | cons c rest ih =>
      obtain ⟨different, later⟩ := not_or.mp (mt List.mem_cons.mpr absent)
      simp only [List.cons_append, upsert, if_neg (Ne.symm different), ih later]

theorem filter_absent (configs : List MapperConfig) (id : Uuid) (absent : id ∉ ids configs) :
    configs.filter (fun c => c.id != id) = configs := by
  apply List.filter_eq_self.mpr
  intro c member
  rw [bne_iff_ne]
  rintro rfl
  exact absent (List.mem_map_of_mem member)

theorem saved_permitted (st : Store) (owner : Owner) (config : MapperConfig) (fresh : Salt)
    (stored : MapperConfig) (configs : List MapperConfig) (present : st.mappers? owner = some configs)
    (distinct : (ids configs).Nodup) :
    Permits st.mappers? (.change (.save owner config fresh)) (.saved (.ok stored))
      (st.withMappers owner (upsert stored configs)).mappers? := by
  rw [mappers_with]
  by_cases known : stored.id ∈ ids configs
  · obtain ⟨front, old, back, rfl, same, absent, _⟩ := split_at_id configs stored.id distinct known
    rw [upsert_split stored old front back same absent]
    exact .replaced owner config fresh stored old front back present same
  · rw [upsert_absent stored configs known]
    exact .appended owner config fresh stored configs present known

theorem deleted_permitted (st : Store) (owner : Owner) (id : Uuid) (configs : List MapperConfig)
    (present : st.mappers? owner = some configs) (distinct : (ids configs).Nodup) :
    Permits st.mappers? (.change (.delete owner id)) (.deleted (st.delete owner id).1)
      (st.delete owner id).2.mappers? := by
  simp only [delete, present, mappers_with]
  by_cases known : id ∈ ids configs
  · obtain ⟨front, old, back, rfl, rfl, notFront, notBack⟩ := split_at_id configs id distinct known
    have kept : (front ++ old :: back).filter (fun c => c.id != old.id) = front ++ back := by
      simp [filter_absent front old.id notFront, filter_absent back old.id notBack]
    have shorter : ((front ++ back).length != (front ++ old :: back).length) = true := by simp
    rw [kept, shorter]
    exact .deleted owner old front back present
  · rw [filter_absent configs id known, ← present, Function.update_eq_self, bne_self_eq_false]
    exact .missed owner id (by simpa [present] using known)

theorem created_permitted (st : Store) (client : String) :
    Permits st.mappers? (.change (.createClient client)) (.created (st.createClient client).1)
      (st.createClient client).2.mappers? := by
  cases present : st.clients.get? client with
  | some configs => simpa [createClient, present] using Permits.known client configs present
  | none => simpa [createClient, present, mappers_with] using Permits.created client present

theorem dropped_permitted (st : Store) (client : String) :
    Permits st.mappers? (.change (.deleteClient client)) (.dropped (st.deleteClient client).1)
      (st.deleteClient client).2.mappers? := by
  cases present : st.clients.get? client with
  | some configs =>
      simpa [deleteClient, present, mappers_erase] using Permits.dropped client configs present
  | none => simpa [deleteClient, present] using Permits.unknown client present

theorem found_permitted (st : Store) (owner : Owner) (id : Uuid) (distinct : DistinctIds st) :
    Permits st.mappers? (.get owner id) (.found (st.get? owner id)) st.mappers? := by
  cases found : st.get? owner id with
  | some config =>
      obtain ⟨member, rfl⟩ := (find_id_iff _ id config (distinct owner)).mp found
      exact .found owner config member
  | none =>
      refine .notFound owner id fun present => ?_
      obtain ⟨config, member, same⟩ := List.mem_map.mp present
      simp [(find_id_iff (st.list owner) id config (distinct owner)).mpr ⟨member, same⟩, get?] at found

theorem answer_permitted (st : Store) (request : Request) (distinct : DistinctIds st) :
    Permits st.mappers? request (st.answer request) (st.after request).mappers? := by
  have held : ∀ owner configs, st.mappers? owner = some configs → (ids configs).Nodup := by
    intro owner configs present
    rw [← list_eq st owner configs present]
    exact distinct owner
  cases request with
  | change op =>
      cases op with
      | createClient client => exact created_permitted st client
      | deleteClient client => exact dropped_permitted st client
      | save owner config fresh =>
          cases done : st.save owner config fresh with
          | error refusal =>
              simpa [answer, after, step, done, Except.map] using Permits.refused owner config fresh refusal
          | ok result =>
              obtain ⟨configs, present, _, same⟩ := save_ok st owner config fresh result.1 result.2 done
              have permitted := saved_permitted st owner config fresh result.1 configs present
                (held owner configs present)
              simpa [answer, after, step, done, Except.map, same] using permitted
      | delete owner id =>
          cases present : st.mappers? owner with
          | none =>
              simpa [answer, after, step, delete, present] using
                Permits.missed owner id (by simp [present, ids])
          | some configs => exact deleted_permitted st owner id configs present (held owner configs present)
  | get owner id => exact found_permitted st owner id distinct
  | list owner => exact .listed owner

theorem mappers_keyed (st : Store) (distinct : DistinctIds st) : View.Keyed st.mappers? := by
  refine ⟨nofun, fun owner configs present => ?_⟩
  rw [← list_eq st owner configs present]
  exact distinct owner

theorem after_distinct (st : Store) (request : Request) (distinct : DistinctIds st) :
    DistinctIds (st.after request) := by
  cases request with
  | change op => exact step_distinct st op distinct
  | get owner id => exact distinct
  | list owner => exact distinct

theorem transcript_behaves (st : Store) (requests : List Request) (distinct : DistinctIds st) :
    Behaves st.mappers? (st.transcript requests) (requests.foldl after st).mappers? := by
  induction requests generalizing st with
  | nil => exact .done _ (mappers_keyed st distinct)
  | cons request rest ih =>
      have later := ih (st.after request) (after_distinct st request distinct)
      exact .next _ _ _ request _ _ (mappers_keyed st distinct) (answer_permitted st request distinct) later

theorem store_behaves_as_lists (registry : Registry) (settings : Settings) (requests : List Request) :
    Behaves View.initial ((empty registry settings).transcript requests)
      (requests.foldl after (empty registry settings)).mappers? := by
  have start : (empty registry settings).mappers? = View.initial := by
    funext owner
    cases owner <;> rfl
  have distinct : DistinctIds (empty registry settings) := by
    intro owner
    cases owner <;> simp [list, mappers?, empty, ids]
  rw [← start]
  exact transcript_behaves _ requests distinct

def firstEdit : MapperConfig := sampleMapper 0 Variant.simpleSector.mapperType [sampleSector]

def secondEdit : MapperConfig := sampleMapper 1 Variant.email.mapperType [sampleSector]

-- Takes the place of the first one, under its id.
def thirdEdit : MapperConfig :=
  sampleMapper 0 Variant.namedClaim.mapperType [sampleSector, (OptionKey.claimName, "ids")]

def edits : List Request :=
  [.change (.createClient "a"),
    .change (.save (.client "a") firstEdit sampleSalt),
    .change (.save (.client "a") secondEdit sampleSalt),
    .change (.save (.client "b") secondEdit sampleSalt),
    .change (.save (.client "a") thirdEdit sampleSalt),
    .list (.client "a"),
    .change (.delete (.client "a") (sampleId 0)),
    .get (.client "a") (sampleId 1)]

def asStandard (config : MapperConfig) : MapperConfig :=
  config.put OptionKey.algorithm Algorithm.standard.name

theorem edits_behave_as_lists :
    ((empty Registry.pairwise {}).transcript edits).map Prod.snd =
        [.created true,
          .saved (.ok (asStandard firstEdit)),
          .saved (.ok (asStandard (secondEdit.put OptionKey.salt sampleSalt.text))),
          .saved (.error (missingOwner (.client "b"))),
          .saved (.ok (asStandard thirdEdit)),
          .listed [asStandard thirdEdit, asStandard (secondEdit.put OptionKey.salt sampleSalt.text)],
          .deleted true,
          .found (some (asStandard (secondEdit.put OptionKey.salt sampleSalt.text)))] ∧
      Behaves View.initial ((empty Registry.pairwise {}).transcript edits)
        (edits.foldl after (empty Registry.pairwise {})).mappers? :=
  ⟨by decide +kernel, store_behaves_as_lists Registry.pairwise {} edits⟩

end PairwiseId.Store
