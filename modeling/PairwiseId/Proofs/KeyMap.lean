import Mathlib.Data.List.Sort
import PairwiseId.KeyMap

/- Looking up a key after a change of the map. A map is determined by what it
   answers to each key. -/
namespace PairwiseId

set_option autoImplicit false

variable {α : Type}

namespace Entries

theorem get_erase_self (key : String) (entries : List (String × α)) :
    get? key (erase key entries) = none := by
  rw [get?_eq_none_iff]
  simp [keys, erase]

theorem get_erase_other (key other : String) (entries : List (String × α)) (different : other ≠ key) :
    get? other (erase key entries) = get? other entries := by
  induction entries with
  | nil => rfl
  | cons entry rest ih =>
      rcases entry with ⟨k, v⟩
      by_cases same : k = key
      · subst same
        simpa [erase, get?, Ne.symm different] using ih
      · simp only [erase] at ih
        simp [erase, get?, same, ih]

theorem overwrite_same (key : String) (value : α) (entries : List (String × α))
    (found : get? key entries = some value) : overwrite key value entries = entries := by
  induction entries with
  | nil => rfl
  | cons entry rest ih =>
      rcases entry with ⟨k, v⟩
      by_cases same : k = key
      · obtain rfl : v = value := by simpa [get?, same] using found
        simp [overwrite, same]
      · have later : get? key rest = some value := by simpa [get?, same] using found
        simp [overwrite, same, ih later]

theorem put_same (key : String) (value : α) (entries : List (String × α))
    (found : get? key entries = some value) : put key value entries = entries := by
  have present : has key entries = true := by
    rw [has_iff_mem]
    by_contra absent
    simp [(get?_eq_none_iff key entries).mpr absent] at found
  rw [put, if_pos present]
  exact overwrite_same key value entries found

section Twice

variable (key : String) (v w : α) (entries : List (String × α))

theorem has_overwrite (other : String) : has other (overwrite key v entries) = has other entries := by
  rw [Bool.eq_iff_iff, has_iff_mem, has_iff_mem, keys_overwrite]

theorem has_place (other : String) : has other (place key v entries) = (other == key || has other entries) := by
  rw [Bool.eq_iff_iff, has_iff_mem, mem_keys_place, Bool.or_eq_true, beq_iff_eq, has_iff_mem]

theorem overwrite_overwrite : overwrite key w (overwrite key v entries) = overwrite key w entries := by
  induction entries with
  | nil => rfl
  | cons entry rest ih =>
      rcases entry with ⟨k, value⟩
      by_cases same : k = key
      · simp [overwrite, same]
      · simp [overwrite, same, ih]

theorem overwrite_place (absent : has key entries = false) :
    overwrite key w (place key v entries) = place key w entries := by
  induction entries with
  | nil => simp [place, overwrite]
  | cons entry rest ih =>
      rcases entry with ⟨k, value⟩
      obtain ⟨different, later⟩ : k ≠ key ∧ has key rest = false := by simpa [has] using absent
      by_cases before : key < k
      · simp [place, before, overwrite]
      · simp [place, before, overwrite, different, ih later]

theorem put_put_same : put key w (put key v entries) = put key w entries := by
  cases present : has key entries with
  | true => simp [put, present, has_overwrite, overwrite_overwrite]
  | false => simp [put, present, has_place, overwrite_place key v w entries present]

variable (other : String) (different : other ≠ key)

include different

theorem overwrite_overwrite_other :
    overwrite other w (overwrite key v entries) = overwrite key v (overwrite other w entries) := by
  induction entries with
  | nil => rfl
  | cons entry rest ih =>
      rcases entry with ⟨k, value⟩
      by_cases same : k = key
      · subst same
        simp [overwrite, Ne.symm different]
      · by_cases equal : k = other
        · simp [overwrite, equal, different]
        · simp [overwrite, same, equal, ih]

theorem overwrite_place_other :
    overwrite other w (place key v entries) = place key v (overwrite other w entries) := by
  induction entries with
  | nil => simp [place, overwrite, Ne.symm different]
  | cons entry rest ih =>
      rcases entry with ⟨k, value⟩
      by_cases before : key < k
      · by_cases equal : k = other
        · subst equal
          simp [place, overwrite, before, Ne.symm different]
        · simp [place, overwrite, before, equal, Ne.symm different]
      · by_cases equal : k = other
        · subst equal
          simp [place, overwrite, before]
        · simp [place, overwrite, before, equal, ih]

omit different in
theorem place_place_less (less : key < other) :
    place other w (place key v entries) = place key v (place other w entries) := by
  have notGreater : ¬ other < key := fun greater => String.lt_irrefl key (String.lt_trans less greater)
  induction entries with
  | nil => simp [place, less, notGreater]
  | cons entry rest ih =>
      rcases entry with ⟨k, value⟩
      by_cases later : other < k
      · have before : key < k := String.lt_trans less later
        simp [place, less, later, before, notGreater]
      · by_cases before : key < k
        · simp [place, later, before, notGreater]
        · simp [place, later, before, ih]

theorem place_place_other : place other w (place key v entries) = place key v (place other w entries) := by
  by_cases less : key < other
  · exact place_place_less key v w entries other less
  · have greater : other < key := by
      rcases String.le_total key other with le | ge
      · exact absurd (String.le_antisymm (String.not_lt.mp less) le) different
      · exact String.not_le.mp fun le => different (String.le_antisymm ge le)
    exact (place_place_less other w v entries key greater).symm

theorem put_put_other : put other w (put key v entries) = put key v (put other w entries) := by
  cases first : has key entries with
  | true =>
      cases second : has other entries with
      | true => simp [put, first, second, has_overwrite, overwrite_overwrite_other, different]
      | false => simp [put, first, second, has_overwrite, has_place, overwrite_place_other, Ne.symm different]
  | false =>
      cases second : has other entries with
      | true => simp [put, first, second, has_overwrite, has_place, overwrite_place_other, different]
      | false =>
          simp [put, first, second, has_place, different, Ne.symm different, place_place_other]

end Twice

theorem get_some_iff_mem (key : String) (value : α) (entries : List (String × α))
    (ordered : Ordered entries) : get? key entries = some value ↔ (key, value) ∈ entries := by
  induction entries with
  | nil => simp
  | cons entry rest ih =>
      rcases entry with ⟨k, v⟩
      obtain ⟨below, restOrdered⟩ := List.pairwise_cons.mp ordered
      by_cases same : k = key
      · subst same
        have absent : (k, value) ∉ rest := fun later =>
          String.lt_irrefl k (below k (List.mem_map_of_mem later))
        simp [get?, absent, eq_comm]
      · simp [get?, same, Ne.symm same, ih restOrdered]

theorem get_put (key other : String) (value : α) (entries : List (String × α)) :
    get? other (put key value entries) = if other = key then some value else get? other entries := by
  by_cases same : other = key
  · rw [same, get?_put_self, if_pos rfl]
  · rw [get?_put_other key other value entries same, if_neg same]

-- Each entry is put over the ones before it, so with distinct keys the entries hide what they are
-- put into and not each other.
theorem get_put_all (key : String) (entries fields : List (String × α)) (ordered : Ordered entries) :
    get? key (entries.foldl (fun fields entry => put entry.1 entry.2 fields) fields) =
      (get? key entries).or (get? key fields) := by
  induction entries generalizing fields with
  | nil => rfl
  | cons entry rest ih =>
      rcases entry with ⟨k, v⟩
      obtain ⟨below, restOrdered⟩ := List.pairwise_cons.mp ordered
      rw [List.foldl_cons, ih _ restOrdered, get_put]
      by_cases same : k = key
      · have absent : get? key rest = none := by
          rw [get?_eq_none_iff]
          intro later
          exact String.lt_irrefl key (by simpa [same] using below key later)
        simp [get?, same, absent]
      · simp [get?, same, Ne.symm same]

theorem filter_key (key : String) (entries : List (String × α)) (ordered : Ordered entries) :
    (entries.filter fun entry => entry.1 == key) = (get? key entries).toList.map (Prod.mk key) := by
  induction entries with
  | nil => rfl
  | cons entry rest ih =>
      rcases entry with ⟨k, v⟩
      obtain ⟨below, restOrdered⟩ := List.pairwise_cons.mp ordered
      by_cases same : k = key
      · subst same
        have absent : get? k rest = none := by
          rw [get?_eq_none_iff]
          exact fun later => String.lt_irrefl k (below k later)
        simp [get?, ih restOrdered, absent]
      · simp [get?, same, ih restOrdered]

end Entries

namespace KeyMap

theorem get_put (m : KeyMap α) (key other : String) (value : α) :
    (m.put key value).get? other = if other = key then some value else m.get? other :=
  Entries.get_put key other value m.entries

theorem get_erase_self (m : KeyMap α) (key : String) : (m.erase key).get? key = none :=
  Entries.get_erase_self key m.entries

theorem get_erase_other (m : KeyMap α) (key other : String) (different : other ≠ key) :
    (m.erase key).get? other = m.get? other :=
  Entries.get_erase_other key other m.entries different

theorem put_same (m : KeyMap α) (key : String) (value : α) (found : m.get? key = some value) :
    m.put key value = m :=
  ext_entries (Entries.put_same key value m.entries found)

theorem get_some_iff_mem (m : KeyMap α) (key : String) (value : α) :
    m.get? key = some value ↔ (key, value) ∈ m.entries :=
  Entries.get_some_iff_mem key value m.entries m.ordered

theorem get_ne_none_iff (m : KeyMap α) (key : String) : m.get? key ≠ none ↔ key ∈ m.keys := by
  rw [ne_eq, get?, Entries.get?_eq_none_iff, not_not, keys]

theorem ext_get (a b : KeyMap α) (same : ∀ key, a.get? key = b.get? key) : a = b := by
  have irrefl : Std.Irrefl fun x y : String × α => x.1 < y.1 := ⟨fun x => String.lt_irrefl x.1⟩
  have antisymm : Std.Antisymm fun x y : String × α => x.1 < y.1 :=
    ⟨fun x y less greater => absurd (String.lt_trans less greater) (String.lt_irrefl x.1)⟩
  apply ext_entries
  refine List.Pairwise.eq_of_mem_iff (List.pairwise_map.mp a.ordered) (List.pairwise_map.mp b.ordered) ?_
  rintro ⟨key, value⟩
  rw [← get_some_iff_mem, ← get_some_iff_mem, same]

theorem put_put_same (m : KeyMap α) (key : String) (v w : α) : (m.put key v).put key w = m.put key w :=
  ext_entries (Entries.put_put_same key v w m.entries)

theorem put_put_other (m : KeyMap α) (key other : String) (v w : α) (different : other ≠ key) :
    (m.put key v).put other w = (m.put other w).put key v :=
  ext_entries (Entries.put_put_other key v w m.entries other different)

theorem get_map {β : Type} (f : α → β) (m : KeyMap α) (key : String) :
    (m.map f).get? key = (m.get? key).map f := by
  rcases m with ⟨entries, ordered⟩
  simp only [map, get?]
  clear ordered
  induction entries with
  | nil => rfl
  | cons entry rest ih =>
      rcases entry with ⟨k, v⟩
      by_cases same : k = key
      · simp [Entries.get?, same]
      · simp only [List.map_cons, Entries.get?, same, if_false, ih]

theorem map_put {β : Type} (f : α → β) (m : KeyMap α) (key : String) (value : α) :
    (m.put key value).map f = (m.map f).put key (f value) := by
  apply ext_get
  intro other
  rw [get_map, get_put, get_put, get_map]
  split <;> rfl

theorem entries_put_all (entries : List (String × α)) (m : KeyMap α) :
    (entries.foldl (fun m entry => m.put entry.1 entry.2) m).entries =
      entries.foldl (fun fields entry => Entries.put entry.1 entry.2 fields) m.entries := by
  induction entries generalizing m with
  | nil => rfl
  | cons entry rest ih => exact ih (m.put entry.1 entry.2)

theorem get_put_all (key : String) (entries : List (String × α)) (m : KeyMap α)
    (ordered : Entries.Ordered entries) :
    (entries.foldl (fun m entry => m.put entry.1 entry.2) m).get? key =
      (Entries.get? key entries).or (m.get? key) := by
  rw [get?, entries_put_all, Entries.get_put_all key entries m.entries ordered]
  rfl

theorem get_of_entries (entries : List (String × α)) (key : String) :
    (ofEntries entries).get? key = (entries.filter fun entry => entry.1 == key).getLast?.map Prod.snd := by
  have puts : ∀ m : KeyMap α, (entries.foldl (fun m entry => m.put entry.1 entry.2) m).get? key =
      ((entries.filter fun entry => entry.1 == key).getLast?.map Prod.snd).or (m.get? key) := by
    induction entries with
    | nil => exact fun m => rfl
    | cons entry rest ih =>
        intro m
        rw [List.foldl_cons, ih, get_put]
        by_cases same : entry.1 = key
        · rw [List.filter_cons_of_pos (by simpa using same), List.getLast?_cons]
          cases (rest.filter fun entry => entry.1 == key).getLast? <;> simp [same]
        · simp [same, Ne.symm same]
  rw [ofEntries, puts, get?_empty, Option.or_none]

section Order

variable (m : KeyMap α) (entries : List (String × α)) (order : entries.Perm m.entries)

include order

theorem filter_key_perm (key : String) :
    (entries.filter fun entry => entry.1 == key) = (m.get? key).toList.map (Prod.mk key) := by
  have same : (entries.filter fun entry => entry.1 == key).Perm ((m.get? key).toList.map (Prod.mk key)) := by
    rw [get?, ← Entries.filter_key key m.entries m.ordered]
    exact order.filter fun entry => entry.1 == key
  cases found : m.get? key with
  | none =>
      rw [found] at same
      exact same.eq_nil
  | some value =>
      rw [found] at same
      exact same.eq_singleton

theorem of_entries_perm : ofEntries entries = m := by
  apply ext_get
  intro key
  rw [get_of_entries, filter_key_perm m entries order key]
  cases m.get? key <;> rfl

end Order

def filter (keep : String → α → Bool) (m : KeyMap α) : KeyMap α :=
  ⟨m.entries.filter fun entry => keep entry.1 entry.2, Entries.ordered_filter _ m.entries m.ordered⟩

theorem get_filter (keep : String → α → Bool) (m : KeyMap α) (key : String) :
    (m.filter keep).get? key = (m.get? key).filter (keep key) := by
  apply Option.ext
  intro value
  rw [get_some_iff_mem, Option.filter_eq_some_iff, get_some_iff_mem]
  exact List.mem_filter

end KeyMap

end PairwiseId
