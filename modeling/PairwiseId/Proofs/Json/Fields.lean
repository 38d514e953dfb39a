import PairwiseId.Json.Basic
import PairwiseId.Proofs.KeyMap

/- Reading records from objects. What a reader finds in the fields as they stand in a
   document is what the map of these fields holds, and what a writer put into a map is
   found there again. -/
namespace PairwiseId.Json

set_option autoImplicit false

variable {α : Type} {read : Json → Option α} {write : α → Json}

def isNull : Json → Bool
  | null => true
  | _ => false

theorem field_found (key : String) (fields : List (String × Json)) (found : Option Json)
    (once : field key fields = some found) : (KeyMap.ofEntries fields).get? key = found := by
  rw [KeyMap.get_of_entries]
  unfold field at once
  split at once
  · rename_i none
    rw [none, ← Option.some.inj once]
    rfl
  · rename_i k value one
    rw [one, ← Option.some.inj once]
    rfl
  · cases once

theorem field_entries (key : String) (m : KeyMap Json) (fields : List (String × Json))
    (order : fields.Perm m.entries) : field key fields = some (m.get? key) := by
  have single := m.filter_key_perm fields order key
  unfold field
  cases found : m.get? key with
  | none =>
      rw [found] at single
      simp [single]
  | some value =>
      rw [found] at single
      simp [single]

theorem as_text_back (s : String) : (str s).asText? = some s := rfl

theorem list_back {β : Type} (read : β → Option α) (write : α → β) (back : ∀ a, read (write a) = some a)
    (items : List α) : (items.map write).mapM read = some items := by
  induction items with
  | nil => rfl
  | cons item rest ih => simp [List.mapM_cons, back, ih]

section Written

variable (written : α → Json → Prop)

def WrittenList (items : List α) (j : Json) : Prop := ∃ js, List.Forall₂ written items js ∧ j = arr js

-- The entries of a map may be written in any order.
def WrittenMap (m : KeyMap α) (j : Json) : Prop :=
  ∃ (entries : List (String × α)) (fields : List (String × Json)), entries.Perm m.entries ∧
    List.Forall₂ (fun entry f => f.1 = entry.1 ∧ written entry.2 f.2) entries fields ∧ j = obj fields

variable {written}

theorem list_written (write : α → Json) (own : ∀ a, written a (write a)) (items : List α) :
    WrittenList written items (arr (items.map write)) :=
  ⟨_, List.forall₂_map_right_iff.mpr (List.forall₂_same.mpr fun a _ => own a), rfl⟩

theorem map_written (write : α → Json) (own : ∀ a, written a (write a)) (m : KeyMap α) :
    WrittenMap written m (ofMap write m) :=
  ⟨m.entries, _, List.Perm.refl _,
    List.forall₂_map_right_iff.mpr (List.forall₂_same.mpr fun entry _ => ⟨rfl, own entry.2⟩), rfl⟩

variable (reads : ∀ a j, written a j → read j = some a)

include reads

theorem list_read (items : List α) (js : List Json) (same : List.Forall₂ written items js) :
    js.mapM read = some items := by
  induction same with
  | nil => rfl
  | cons own _ ih => simp [List.mapM_cons, reads _ _ own, ih]

theorem map_read (m : KeyMap α) (j : Json) (whole : WrittenMap written m j) : asMap? read j = some m := by
  obtain ⟨entries, fields, order, same, rfl⟩ := whole
  have found : fields.mapM (fun f => (read f.2).bind fun value => some (f.1, value)) = some entries := by
    clear order
    induction same with
    | nil => rfl
    | cons own _ ih => simp [List.mapM_cons, own.1, reads _ _ own.2, ih]
  exact (congrArg (Option.bind · fun entries => some (KeyMap.ofEntries entries)) found).trans
    (congrArg some (m.of_entries_perm entries order))

end Written

section Records

variable (key : String) (fields : List (String × Json)) (m : KeyMap Json)
  (order : fields.Perm m.entries)

theorem required_found (value : α) (found : required key read fields = some value)
    (faithful : ∀ j a, read j = some a → j = write a) :
    (KeyMap.ofEntries fields).get? key = some (write value) := by
  obtain ⟨present, once, shown⟩ := Option.bind_eq_some_iff.mp found
  obtain ⟨j, rfl, parsed⟩ := Option.bind_eq_some_iff.mp shown
  rw [field_found key fields _ once, faithful j value parsed]

-- A field that was null is written no more.
theorem optional_found (value : Option α) (found : optional key read fields = some value)
    (faithful : ∀ j a, read j = some a → j = write a) :
    ((KeyMap.ofEntries fields).get? key).filter (fun j => !j.isNull) = value.map write := by
  obtain ⟨present, once, shown⟩ := Option.bind_eq_some_iff.mp found
  rw [field_found key fields present once]
  split at shown
  · obtain rfl := Option.some.inj shown
    rfl
  · obtain rfl := Option.some.inj shown
    rfl
  · rename_i j notNull
    obtain ⟨a, parsed, rfl⟩ := Option.map_eq_some_iff.mp shown
    have kept : j.isNull = false := by
      cases j with
      | null => exact (notNull rfl).elim
      | _ => rfl
    obtain rfl := faithful j a parsed
    simp [kept]

include order

theorem required_entries (write : α → Json) (value : α) (held : m.get? key = some (write value))
    (back : read (write value) = some value) : required key read fields = some value := by
  simp only [required, field_entries key m fields order, held, Option.bind_eq_bind, Option.bind_some, back]

theorem optional_entries (write : α → Json) (value : Option α) (held : m.get? key = value.map write)
    (back : ∀ a, read (write a) = some a) (notNull : ∀ a, (write a).isNull = false) :
    optional key read fields = some value := by
  simp only [optional, field_entries key m fields order, held, Option.bind_eq_bind, Option.bind_some]
  cases value with
  | none => rfl
  | some a =>
      split
      · rename_i absent
        cases absent
      · rename_i null
        have kept := notNull a
        rw [Option.some.inj null] at kept
        cases kept
      · rename_i j written
        rw [← Option.some.inj written, back a]
        rfl

end Records

end PairwiseId.Json
