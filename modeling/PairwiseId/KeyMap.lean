/- Finite maps from text keys. The entries stand in ascending key order, which
   is the order of the code points, so two maps with the same contents are the
   same value. The list operations below also make sense on lists that are not
   ordered: a present key is overwritten where it stands, an absent one goes
   before the first greater key. -/
namespace PairwiseId

set_option autoImplicit false

namespace Entries

variable {α : Type}

def keys (entries : List (String × α)) : List String := entries.map Prod.fst

def get? (key : String) : List (String × α) → Option α
  | [] => none
  | (k, v) :: rest => if k = key then some v else get? key rest

def has (key : String) (entries : List (String × α)) : Bool :=
  entries.any fun entry => entry.1 == key

def overwrite (key : String) (value : α) : List (String × α) → List (String × α)
  | [] => []
  | (k, v) :: rest => if k = key then (k, value) :: rest else (k, v) :: overwrite key value rest

def place (key : String) (value : α) : List (String × α) → List (String × α)
  | [] => [(key, value)]
  | (k, v) :: rest =>
    if key < k then (key, value) :: (k, v) :: rest else (k, v) :: place key value rest

def put (key : String) (value : α) (entries : List (String × α)) : List (String × α) :=
  if has key entries then overwrite key value entries else place key value entries

def erase (key : String) (entries : List (String × α)) : List (String × α) :=
  entries.filter fun entry => entry.1 != key

def Ordered (entries : List (String × α)) : Prop := (keys entries).Pairwise (· < ·)

instance (entries : List (String × α)) : Decidable (Ordered entries) :=
  inferInstanceAs (Decidable ((keys entries).Pairwise (· < ·)))

@[simp] theorem get?_nil (key : String) : get? key ([] : List (String × α)) = none := rfl

theorem has_iff_mem (key : String) (entries : List (String × α)) :
    has key entries = true ↔ key ∈ keys entries := by
  simp [has, keys]

theorem get?_eq_none_iff (key : String) (entries : List (String × α)) :
    get? key entries = none ↔ key ∉ keys entries := by
  induction entries with
  | nil => simp [keys]
  | cons entry rest ih =>
    rcases entry with ⟨k, v⟩
    simp only [get?, keys, List.map_cons, List.mem_cons] at ih ⊢
    split
    · simp_all
    · rename_i h
      rw [ih]
      constructor
      · rintro absent (rfl | present)
        · exact h rfl
        · exact absent present
      · exact fun absent present => absent (.inr present)

theorem keys_overwrite (key : String) (value : α) (entries : List (String × α)) :
    keys (overwrite key value entries) = keys entries := by
  induction entries with
  | nil => rfl
  | cons entry rest ih =>
    rcases entry with ⟨k, v⟩
    simp only [overwrite]
    split <;> simp_all [keys]

theorem get?_overwrite_self (key : String) (value : α) (entries : List (String × α))
    (h : has key entries = true) : get? key (overwrite key value entries) = some value := by
  induction entries with
  | nil => simp [has] at h
  | cons entry rest ih =>
    rcases entry with ⟨k, v⟩
    simp only [overwrite]
    split
    · simp [get?, *]
    · rename_i hk
      have hr : has key rest = true := by simpa [has, hk] using h
      simp [get?, hk, ih hr]

theorem get?_overwrite_other (key other : String) (value : α) (entries : List (String × α))
    (h : other ≠ key) : get? other (overwrite key value entries) = get? other entries := by
  induction entries with
  | nil => rfl
  | cons entry rest ih =>
    rcases entry with ⟨k, v⟩
    simp only [overwrite]
    split
    · rename_i hk
      subst hk
      simp [get?, Ne.symm h]
    · simp [get?, ih]

theorem get?_place_self (key : String) (value : α) (entries : List (String × α))
    (h : has key entries = false) : get? key (place key value entries) = some value := by
  induction entries with
  | nil => simp [place, get?]
  | cons entry rest ih =>
    rcases entry with ⟨k, v⟩
    simp only [has, List.any_cons, Bool.or_eq_false_iff, beq_eq_false_iff_ne] at h
    simp only [place]
    split
    · simp [get?]
    · simp [get?, h.1, ih h.2]

theorem get?_place_other (key other : String) (value : α) (entries : List (String × α))
    (h : other ≠ key) : get? other (place key value entries) = get? other entries := by
  induction entries with
  | nil => simp [place, get?, Ne.symm h]
  | cons entry rest ih =>
    rcases entry with ⟨k, v⟩
    simp only [place]
    split
    · simp [get?, Ne.symm h]
    · simp [get?, ih]

theorem get?_put_self (key : String) (value : α) (entries : List (String × α)) :
    get? key (put key value entries) = some value := by
  unfold put
  split
  · rename_i h
    exact get?_overwrite_self key value entries h
  · rename_i h
    exact get?_place_self key value entries (by simpa using h)

theorem get?_put_other (key other : String) (value : α) (entries : List (String × α))
    (h : other ≠ key) : get? other (put key value entries) = get? other entries := by
  unfold put
  split
  · exact get?_overwrite_other key other value entries h
  · exact get?_place_other key other value entries h

theorem mem_keys_place (key k : String) (value : α) (entries : List (String × α)) :
    k ∈ keys (place key value entries) ↔ k = key ∨ k ∈ keys entries := by
  induction entries with
  | nil => simp [place, keys]
  | cons entry rest ih =>
    rcases entry with ⟨k', v⟩
    simp only [place]
    split
    · simp [keys]
    · simp only [keys, List.map_cons, List.mem_cons] at ih ⊢
      rw [ih]
      constructor
      · rintro (a | a | a) <;> simp [a]
      · rintro (a | a | a) <;> simp [a]

theorem ordered_place (key : String) (value : α) (entries : List (String × α))
    (h : Ordered entries) (absent : has key entries = false) :
    Ordered (place key value entries) := by
  induction entries with
  | nil => simp [place, Ordered, keys]
  | cons entry rest ih =>
    rcases entry with ⟨k, v⟩
    simp only [has, List.any_cons, Bool.or_eq_false_iff, beq_eq_false_iff_ne] at absent
    simp only [Ordered, keys, List.map_cons, List.pairwise_cons] at h
    simp only [place]
    split
    · rename_i less
      simp only [Ordered, keys, List.map_cons, List.pairwise_cons, List.mem_cons]
      refine ⟨?_, h.1, h.2⟩
      rintro k' (rfl | later)
      · exact less
      · exact String.lt_trans less (h.1 k' later)
    · rename_i notLess
      have below : k < key := by
        rcases String.le_total key k with le | le
        · exact absurd (String.le_antisymm le (String.not_lt.mp notLess)) (Ne.symm absent.1)
        · exact String.not_le.mp fun ge =>
            absurd (String.le_antisymm ge le) (Ne.symm absent.1)
      simp only [Ordered, keys, List.map_cons, List.pairwise_cons]
      refine ⟨?_, ih h.2 absent.2⟩
      intro k' member
      rcases (mem_keys_place key k' value rest).mp member with rfl | later
      · exact below
      · exact h.1 k' later

theorem ordered_put (key : String) (value : α) (entries : List (String × α))
    (h : Ordered entries) : Ordered (put key value entries) := by
  unfold put
  split
  · simpa only [Ordered, keys_overwrite] using h
  · rename_i absent
    exact ordered_place key value entries h (by simpa using absent)

theorem keys_map {β : Type} (f : α → β) (entries : List (String × α)) :
    keys (entries.map fun entry => (entry.1, f entry.2)) = keys entries := by
  simp [keys, Function.comp_def]

theorem ordered_filter (keep : String × α → Bool) (entries : List (String × α))
    (h : Ordered entries) : Ordered (entries.filter keep) := by
  unfold Ordered keys at h ⊢
  exact h.sublist (List.filter_sublist.map Prod.fst)

end Entries

structure KeyMap (α : Type) where
  entries : List (String × α)
  ordered : Entries.Ordered entries

namespace KeyMap

variable {α : Type}

def empty : KeyMap α := ⟨[], List.Pairwise.nil⟩

def get? (m : KeyMap α) (key : String) : Option α := Entries.get? key m.entries

def keys (m : KeyMap α) : List String := Entries.keys m.entries

def put (m : KeyMap α) (key : String) (value : α) : KeyMap α :=
  ⟨Entries.put key value m.entries, Entries.ordered_put key value m.entries m.ordered⟩

def erase (m : KeyMap α) (key : String) : KeyMap α :=
  ⟨Entries.erase key m.entries, Entries.ordered_filter _ m.entries m.ordered⟩

-- Later entries win.
def ofEntries (entries : List (String × α)) : KeyMap α :=
  entries.foldl (fun m entry => m.put entry.1 entry.2) empty

def map {β : Type} (f : α → β) (m : KeyMap α) : KeyMap β :=
  ⟨m.entries.map fun entry => (entry.1, f entry.2), by
    simpa only [Entries.Ordered, Entries.keys_map] using m.ordered⟩

def isEmpty (m : KeyMap α) : Bool := m.entries.isEmpty

instance : Inhabited (KeyMap α) := ⟨empty⟩

instance [DecidableEq α] : DecidableEq (KeyMap α) := fun a b =>
  if h : a.entries = b.entries then
    isTrue (by cases a; cases b; cases h; rfl)
  else isFalse fun same => h (congrArg entries same)

theorem ext_entries {a b : KeyMap α} (h : a.entries = b.entries) : a = b := by
  cases a; cases b; cases h; rfl

@[simp] theorem get?_put_self (m : KeyMap α) (key : String) (value : α) :
    (m.put key value).get? key = some value :=
  Entries.get?_put_self key value m.entries

theorem get?_put_other (m : KeyMap α) (key other : String) (value : α) (h : other ≠ key) :
    (m.put key value).get? other = m.get? other :=
  Entries.get?_put_other key other value m.entries h

@[simp] theorem get?_empty (key : String) : (empty : KeyMap α).get? key = none := rfl

end KeyMap

end PairwiseId
