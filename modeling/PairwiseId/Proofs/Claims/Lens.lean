import PairwiseId.Proofs.Claims.Path
import PairwiseId.Proofs.Text.Split

/- Reading and writing claims at paths obey the laws of a lens, whatever stands in the way
   of a path. Two paths of which neither begins with the other are independent. -/
namespace PairwiseId.Claims

set_option autoImplicit false

-- A step into a value finds something in objects only.
def child (value : Json) (key : String) : Option Json := Entries.get? key (fieldsOf (some value))

-- Reading goes from each value to the next one.
theorem get_in_steps (key : String) (rest : List String) (fields : List (String × Json)) :
    getIn fields (key :: rest) = (Entries.get? key fields).bind fun value => rest.foldlM child value := by
  induction rest generalizing key fields with
  | nil => simp [getIn]
  | cons next more ih =>
      rw [get_in_cons, ih]
      cases Entries.get? key fields with
      | none => rfl
      | some value => rfl

theorem get_in_nothing (path : List String) : getIn [] path = none := by
  cases path with
  | nil => rfl
  | cons key rest => exact get_in_steps key rest []

section Steps

variable (key : String) (rest : List String) (fields : List (String × Json))

theorem get_in_inner (inside : rest ≠ []) :
    getIn fields (key :: rest) = getIn (fieldsOf (Entries.get? key fields)) rest := by
  obtain ⟨next, more, rfl⟩ := List.exists_cons_of_ne_nil inside
  exact get_in_cons key next more fields

theorem write_inner (value : Json) (inside : rest ≠ []) :
    writeAt (key :: rest, value) fields =
      Entries.put key (.obj (writeAt (rest, value) (fieldsOf (Entries.get? key fields)))) fields := by
  obtain ⟨next, more, rfl⟩ := List.exists_cons_of_ne_nil inside
  rw [write_cons, ← fields_held]
  rfl

-- The first key is all that is read of the outermost object.
theorem get_in_first (others : List (String × Json)) (same : Entries.get? key fields = Entries.get? key others) :
    getIn fields (key :: rest) = getIn others (key :: rest) := by
  cases rest with
  | nil => exact same
  | cons next more => rw [get_in_cons, get_in_cons, same]

-- Only an object can have been in the way of what was found.
theorem object_in_way (reached : Option Json) (value : Json) (found : getIn (fieldsOf reached) rest = some value) :
    reached = some (.obj (fieldsOf reached)) := by
  cases reached with
  | none => cases (get_in_nothing rest).symm.trans found
  | some there =>
      cases there with
      | obj inner => rfl
      | _ => cases (get_in_nothing rest).symm.trans found

end Steps

-- Each of the paths leaves the other one at some segment.
def Apart (p q : List String) : Prop := ¬ p <+: q ∧ ¬ q <+: p

instance (p q : List String) : Decidable (Apart p q) := inferInstanceAs (Decidable (_ ∧ _))

-- Where two paths part, they name different keys of one object.
inductive Fork : List String → List String → Prop where
  | here (key other : String) (p q : List String) (different : other ≠ key) : Fork (key :: p) (other :: q)
  | later (key : String) (p q : List String) (fork : Fork p q) : Fork (key :: p) (key :: q)

theorem fork_of_apart (p q : List String) (apart : Apart p q) : Fork p q := by
  induction p generalizing q with
  | nil => exact absurd List.nil_prefix apart.1
  | cons key p ih =>
      cases q with
      | nil => exact absurd List.nil_prefix apart.2
      | cons other q =>
          by_cases same : other = key
          · subst same
            exact .later other p q (ih q (by simpa [Apart, List.cons_prefix_cons] using apart))
          · exact .here key other p q same

theorem fork_ne_nil (p q : List String) (fork : Fork p q) : p ≠ [] ∧ q ≠ [] := by
  cases fork with
  | here => exact ⟨List.cons_ne_nil _ _, List.cons_ne_nil _ _⟩
  | later => exact ⟨List.cons_ne_nil _ _, List.cons_ne_nil _ _⟩

theorem get_in_fork (p q : List String) (value : Json) (fields : List (String × Json)) (fork : Fork p q) :
    getIn (writeAt (p, value) fields) q = getIn fields q := by
  induction fork generalizing fields with
  | here key other p q different =>
      rw [write_cons]
      exact get_in_first other q _ _ (Entries.get?_put_other _ _ _ _ different)
  | later key p q fork ih =>
      obtain ⟨inside, alsoInside⟩ := fork_ne_nil p q fork
      rw [write_inner key p fields value inside, get_in_inner key q _ alsoInside, Entries.get?_put_self,
        get_in_inner key q _ alsoInside]
      exact ih (fieldsOf (Entries.get? key fields))

theorem write_fork (p q : List String) (v w : Json) (fields : List (String × Json)) (fork : Fork p q) :
    writeAt (q, w) (writeAt (p, v) fields) = writeAt (p, v) (writeAt (q, w) fields) := by
  induction fork generalizing fields with
  | here key other p q different => exact write_other_key key p q v w fields other different
  | later key p q fork ih =>
      obtain ⟨inside, alsoInside⟩ := fork_ne_nil p q fork
      simp only [write_inner key p _ v inside, write_inner key q _ w alsoInside, Entries.get?_put_self,
        Entries.put_put_same]
      exact congrArg (fun inner => Entries.put key (.obj inner) fields) (ih (fieldsOf (Entries.get? key fields)))

-- The value was reached through objects, so nothing in the way of it is replaced.
theorem write_found (path : List String) (value : Json) (fields : List (String × Json))
    (found : getIn fields path = some value) : writeAt (path, value) fields = fields := by
  induction path generalizing fields with
  | nil => rfl
  | cons key rest ih =>
      by_cases inside : rest = []
      · subst inside
        exact Entries.put_same key value fields found
      · rw [get_in_inner key rest fields inside] at found
        rw [write_inner key rest fields value inside, ih _ found]
        exact Entries.put_same key _ fields (object_in_way rest _ value found)

theorem paths_are_lenses (claims : KeyMap Json) (p q : String) (v w : Json) :
    get? (set claims p v) p = some v ∧
      set (set claims p v) p w = set claims p w ∧
      (∀ found, get? claims p = some found → set claims p found = claims) ∧
      (Apart (segments p) (segments q) →
        get? (set claims p v) q = get? claims q ∧
          set (set claims p v) q w = set (set claims q w) p v) := by
  refine ⟨get_set claims p v, ?_, fun found there => ?_, fun apart => ?_⟩
  · exact KeyMap.ext_entries (write_again (segments p) v w claims.entries)
  · exact KeyMap.ext_entries (write_found (segments p) found claims.entries there)
  · have fork := fork_of_apart (segments p) (segments q) apart
    exact ⟨get_in_fork (segments p) (segments q) v claims.entries fork,
      KeyMap.ext_entries (write_fork (segments p) (segments q) v w claims.entries fork)⟩

-- The one name begins with the other, but as segments they are different.
def similarNames : KeyMap Json := KeyMap.empty.put "ids" (.obj [("ab", .str "x")])

theorem similar_names_independent :
    get? similarNames "ids.ab" = some (.str "x") ∧ set similarNames "ids.ab" (.str "x") = similarNames ∧
      Apart (segments "ids.ab") (segments "ids.a") ∧
      get? (set similarNames "ids.ab" .null) "ids.a" = get? similarNames "ids.a" ∧
      set (set similarNames "ids.ab" .null) "ids.a" (.int 1) =
        set (set similarNames "ids.a" (.int 1)) "ids.ab" .null := by
  have there : get? similarNames "ids.ab" = some (.str "x") := rfl
  have apart : Apart (segments "ids.ab") (segments "ids.a") := by decide
  obtain ⟨_, _, unchanged, independent⟩ := paths_are_lenses similarNames "ids.ab" "ids.a" .null (.int 1)
  exact ⟨there, unchanged _ there, apart, independent apart⟩

end PairwiseId.Claims
