import PairwiseId.Export
import PairwiseId.Proofs.Store.Ids

/- An export by its owners. The order in which it is saved keeps the mappers of
   each owner in their order, apart from the lists, which come last. -/
namespace PairwiseId

set_option autoImplicit false

namespace Export

def mappers? (e : Export) : Owner → Option (List MapperConfig)
  | .realm => some e.realm
  | .client id => e.clients.get? id

def mappers (e : Export) (owner : Owner) : List MapperConfig := (e.mappers? owner).getD []

-- No owner has two mappers of one id. Different owners may.
structure DistinctIds (e : Export) : Prop where
  realm : (Store.ids e.realm).Nodup
  clients : ∀ entry ∈ e.clients.entries, (Store.ids entry.2).Nodup

theorem distinct_iff (e : Export) :
    e.DistinctIds ↔ ∀ owner, (Store.ids (e.mappers owner)).Nodup := by
  constructor
  · intro distinct owner
    cases owner with
    | realm => exact distinct.realm
    | client id =>
        cases present : e.clients.get? id with
        | none => simp [mappers, mappers?, present, Store.ids]
        | some configs =>
            have stored := (KeyMap.get_some_iff_mem e.clients id configs).mp present
            simpa [mappers, mappers?, present] using distinct.clients _ stored
  · intro distinct
    refine ⟨distinct .realm, ?_⟩
    rintro ⟨id, configs⟩ stored
    have present := (KeyMap.get_some_iff_mem e.clients id configs).mpr stored
    simpa [mappers, mappers?, present] using distinct (.client id)

theorem ext_mappers (a b : Export) (same : ∀ owner, a.mappers? owner = b.mappers? owner) : a = b := by
  have realm : a.realm = b.realm := Option.some.inj (same .realm)
  have clients : a.clients = b.clients := KeyMap.ext_get _ _ fun id => same (.client id)
  cases a; cases b; cases realm; cases clients; rfl

def ofOwner (owner : Owner) (pairs : List (Owner × MapperConfig)) : List MapperConfig :=
  (pairs.filter fun pair => pair.1 == owner).map Prod.snd

theorem of_owner_append (owner : Owner) (first second : List (Owner × MapperConfig)) :
    ofOwner owner (first ++ second) = ofOwner owner first ++ ofOwner owner second := by
  simp [ofOwner]

theorem of_owner_perm (owner : Owner) (first second : List (Owner × MapperConfig))
    (perm : first.Perm second) : (ofOwner owner first).Perm (ofOwner owner second) :=
  (perm.filter _).map _

theorem of_owner_filter (owner : Owner) (keep : MapperConfig → Bool) (pairs : List (Owner × MapperConfig)) :
    ofOwner owner (pairs.filter fun pair => keep pair.2) = (ofOwner owner pairs).filter keep := by
  simp only [ofOwner, List.filter_filter, List.filter_map, Function.comp_def]
  congr 2
  funext pair
  exact Bool.and_comm _ _

theorem mem_of_owner (owner : Owner) (config : MapperConfig) (pairs : List (Owner × MapperConfig)) :
    config ∈ ofOwner owner pairs ↔ (owner, config) ∈ pairs := by
  simp [ofOwner]

theorem of_owner_same (owner : Owner) (configs : List MapperConfig) :
    ofOwner owner (configs.map fun config => (owner, config)) = configs := by
  simp [ofOwner, List.filter_map, Function.comp_def]

theorem of_owner_other (owner other : Owner) (configs : List MapperConfig) (different : other ≠ owner) :
    ofOwner owner (configs.map fun config => (other, config)) = [] := by
  simp [ofOwner, List.filter_map, Function.comp_def, different]

theorem of_owner_entries (owner : Owner) (entries : List (String × List MapperConfig))
    (ordered : Entries.Ordered entries) :
    ofOwner owner (entries.flatMap fun entry => entry.2.map fun config => (.client entry.1, config)) =
      (owner.clientId?.bind fun id => Entries.get? id entries).getD [] := by
  induction entries with
  | nil => cases owner <;> rfl
  | cons entry rest ih =>
      rcases entry with ⟨k, configs⟩
      obtain ⟨below, restOrdered⟩ := List.pairwise_cons.mp ordered
      rw [List.flatMap_cons, of_owner_append, ih restOrdered]
      cases owner with
      | realm => simp [of_owner_other, Owner.clientId?]
      | client id =>
          by_cases same : k = id
          · subst same
            have absent : Entries.get? k rest = none := by
              rw [Entries.get?_eq_none_iff]
              exact fun later => String.lt_irrefl k (below k later)
            simp [of_owner_same, Owner.clientId?, Entries.get?, absent]
          · have different : Owner.client k ≠ .client id := fun equal => same (Owner.client.inj equal)
            simp [of_owner_other _ _ configs different, Owner.clientId?, Entries.get?, same]

theorem owned_of (e : Export) (owner : Owner) : ofOwner owner e.owned = e.mappers owner := by
  rw [owned, of_owner_append, of_owner_entries owner _ e.clients.ordered]
  cases owner with
  | realm => simp [of_owner_same, Owner.clientId?, mappers, mappers?]
  | client id => simp [of_owner_other, Owner.clientId?, mappers, mappers?, KeyMap.get?]

theorem owned_mem (e : Export) (owner : Owner) (config : MapperConfig) :
    (owner, config) ∈ e.owned ↔ config ∈ e.mappers owner := by
  rw [← owned_of, mem_of_owner]

theorem mappers_perm (e other : Export) (perm : other.owned.Perm e.owned) (owner : Owner) :
    (other.mappers owner).Perm (e.mappers owner) := by
  rw [← owned_of, ← owned_of]
  exact of_owner_perm owner _ _ perm

theorem distinct_perm (e other : Export) (perm : other.owned.Perm e.owned) (distinct : e.DistinctIds) :
    other.DistinctIds := by
  rw [distinct_iff] at distinct ⊢
  intro owner
  rw [Store.ids, ((mappers_perm e other perm owner).map MapperConfig.id).nodup_iff]
  exact distinct owner

theorem save_order_perm (e : Export) : e.saveOrder.Perm e.owned := by
  have split := List.filter_append_perm (fun pair => isList pair.2) e.owned
  exact List.perm_append_comm.trans split

-- Lists last, each of the two parts in its own order.
def listsLast (configs : List MapperConfig) : List MapperConfig :=
  configs.filter (fun config => !isList config) ++ configs.filter isList

theorem save_order_of (e : Export) (owner : Owner) :
    ofOwner owner e.saveOrder = listsLast (e.mappers owner) := by
  rw [saveOrder, of_owner_append, of_owner_filter owner (fun config => !isList config), of_owner_filter owner isList,
    owned_of, listsLast]

def ListsLast (configs : List MapperConfig) : Prop :=
  configs.Pairwise fun earlier later => isList earlier = true → isList later = true

theorem save_order_lists_last (e : Export) : ListsLast (e.saveOrder.map Prod.snd) := by
  rw [ListsLast, List.pairwise_map, saveOrder, List.pairwise_append]
  refine ⟨?_, ?_, ?_⟩
  · apply List.pairwise_of_forall_mem_list
    intro earlier member later _ list
    simp [list] at member
  · apply List.pairwise_of_forall_mem_list
    intro earlier _ later member _
    exact (List.mem_filter.mp member).2
  · intro earlier _ later member _
    exact (List.mem_filter.mp member).2

theorem lists_last_eq (configs : List MapperConfig) (last : ListsLast configs) :
    listsLast configs = configs := by
  induction configs with
  | nil => rfl
  | cons config rest ih =>
      obtain ⟨first, restLast⟩ := List.pairwise_cons.mp last
      cases list : isList config with
      | false => simpa [listsLast, list] using ih restLast
      | true =>
          have all : ∀ c ∈ rest, isList c = true := fun c member => first c member list
          have none : rest.filter (fun c => !isList c) = [] := by
            apply List.filter_eq_nil_iff.mpr
            intro c member
            simp [all c member]
          simp [listsLast, list, none, List.filter_eq_self.mpr all]

end Export

namespace Store

theorem create_client_mappers (st : Store) (id : String) (owner : Owner) :
    (st.createClient id).2.mappers? owner =
      if owner = .client id then some (st.list owner) else st.mappers? owner := by
  by_cases same : owner = .client id
  · subst same
    rw [if_pos rfl]
    cases present : st.clients.get? id with
    | some configs => simp [createClient, present, list, mappers?]
    | none => simp [createClient, present, list, mappers?, withMappers]
  · rw [if_neg same, createClient]
    split
    · rfl
    · exact mappers_with_other st (.client id) owner [] same

theorem create_clients_mappers (clients : List String) (st : Store) (owner : Owner) :
    (clients.foldl (fun st id => (st.createClient id).2) st).mappers? owner =
      if ∃ id ∈ clients, owner = .client id then some (st.list owner) else st.mappers? owner := by
  induction clients generalizing st with
  | nil => simp
  | cons client rest ih =>
      rw [List.foldl_cons, ih, list, create_client_mappers]
      by_cases same : owner = .client client
      · simp [same]
      · simp [same, list]

theorem for_export_mappers (settings : Settings) (e : Export) (owner : Owner) :
    (forExport settings e).mappers? owner = (e.mappers? owner).map fun _ => [] := by
  rw [forExport, create_clients_mappers]
  cases owner with
  | realm => simp [mappers?, Export.mappers?, empty]
  | client id =>
      have known : (∃ other ∈ e.clients.keys, Owner.client id = .client other) ↔ e.clients.get? id ≠ none := by
        simp [KeyMap.get_ne_none_iff]
      simp only [known, Export.mappers?]
      cases e.clients.get? id with
      | none => simp [mappers?, empty]
      | some configs => simp [list, mappers?, empty]

-- The store of an export is one that requests can reach.
theorem for_export_reached (settings : Settings) (e : Export) :
    forExport settings e = reached settings (e.clients.keys.map Op.createClient) := by
  rw [forExport, reached, run, List.foldl_map]
  rfl

end Store

end PairwiseId
