import PairwiseId.Proofs.Claims.Token
import PairwiseId.Proofs.Repetition

/- Writing claims at paths. Of two writes the order does not matter or one undoes the
   other. Adding entries to the object at a path is the same as writing each of them
   below that path. -/
namespace PairwiseId.Claims

set_option autoImplicit false

-- Where something is written, and what.
abbrev Write := List String × Json

def writeAt (write : Write) (fields : List (String × Json)) : List (String × Json) :=
  setIn fields write.2 write.1

-- What a write whose path begins below a value makes of the value.
def below (write : Write) (old : Json) : Json :=
  match write.1 with
  | [] => write.2
  | _ :: _ => .obj (writeAt write (fieldsOf (some old)))

-- Writing makes no difference between a key that is absent and one that holds null.
def held (key : String) (fields : List (String × Json)) : Json := (Entries.get? key fields).getD .null

theorem fields_held (key : String) (fields : List (String × Json)) :
    fieldsOf (some (held key fields)) = fieldsOf (Entries.get? key fields) := by
  rw [held]
  cases Entries.get? key fields with
  | none => rfl
  | some value => rfl

section Keys

variable (key : String) (p q : List String) (v w : Json) (fields : List (String × Json))

theorem held_put (value : Json) : held key (Entries.put key value fields) = value := by
  rw [held, Entries.get?_put_self, Option.getD_some]

theorem write_cons :
    writeAt (key :: p, v) fields = Entries.put key (below (p, v) (held key fields)) fields := by
  cases p with
  | nil => rfl
  | cons next rest =>
      simp only [below, fields_held]
      rfl

theorem write_other_key (other : String) (different : other ≠ key) :
    writeAt (other :: q, w) (writeAt (key :: p, v) fields) =
      writeAt (key :: p, v) (writeAt (other :: q, w) fields) := by
  simp only [write_cons, held]
  rw [Entries.get?_put_other _ _ _ _ different, Entries.get?_put_other _ _ _ _ (Ne.symm different),
    Entries.put_put_other _ _ _ _ _ different]

end Keys

-- The write whose path ends first replaces what the other has written further inside.
theorem below_compatible (p q : List String) (v w : Json)
    (inside : Compatible writeAt (p, v) (q, w)) : Compatible below (p, v) (q, w) := by
  cases p with
  | nil => exact .undoing fun old => rfl
  | cons first p =>
      cases q with
      | nil => exact .undone fun old => rfl
      | cons second q =>
          exact part_compatible inside (fun old => fieldsOf (some old)) (fun _ fields => .obj fields)
            (fun _ _ _ => rfl) (fun _ _ _ _ _ => rfl) (fun old => rfl) (fun old => rfl)

theorem writes_compatible (p q : List String) (v w : Json) : Compatible writeAt (p, v) (q, w) := by
  induction p generalizing q with
  | nil => exact .commute fun fields => rfl
  | cons key p ih =>
      cases q with
      | nil => exact .commute fun fields => rfl
      | cons other q =>
          by_cases same : other = key
          · subst same
            have inside := below_compatible p q v w (ih q)
            exact part_compatible inside (held other) (fun fields value => Entries.put other value fields)
              (fun _ fields _ => held_put other fields _)
              (fun _ _ fields _ _ => Entries.put_put_same other _ _ fields)
              (write_cons other p v) (write_cons other q w)
          · exact .commute fun fields => write_other_key key p q v w fields other same

theorem write_again (path : List String) (v w : Json) (fields : List (String × Json)) :
    writeAt (path, w) (writeAt (path, v) fields) = writeAt (path, w) fields := by
  induction path generalizing fields with
  | nil => rfl
  | cons key rest ih =>
      rw [write_cons, write_cons, write_cons, held_put, Entries.put_put_same]
      cases rest with
      | nil => rfl
      | cons next more => exact congrArg (fun inner => Entries.put key (.obj inner) fields) (ih _)

theorem get_in_cons (key next : String) (rest : List String) (fields : List (String × Json)) :
    getIn fields (key :: next :: rest) = getIn (fieldsOf (Entries.get? key fields)) (next :: rest) := by
  have nothing : getIn [] (next :: rest) = none := by
    cases rest with
    | nil => rfl
    | cons more others => rfl
  conv => lhs; simp only [getIn]
  split
  · rename_i inner held
    rw [held, fieldsOf]
  · rename_i other
    cases held : Entries.get? key fields with
    | none => exact nothing.symm
    | some value =>
        cases value with
        | obj inner => exact absurd held (other inner)
        | _ => exact nothing.symm

theorem get_in_written (path : List String) (value : Json) (fields : List (String × Json))
    (notEmpty : path ≠ []) : getIn (writeAt (path, value) fields) path = some value := by
  induction path generalizing fields with
  | nil => exact absurd rfl notEmpty
  | cons key rest ih =>
      rw [write_cons]
      cases rest with
      | nil => exact Entries.get?_put_self key value fields
      | cons next more =>
          rw [get_in_cons, Entries.get?_put_self]
          exact ih _ (List.cons_ne_nil next more)

theorem get_set (claims : KeyMap Json) (path : String) (value : Json) :
    get? (set claims path value) path = some value :=
  get_in_written (segments path) value claims.entries (segments_ne_nil path)

-- Writing one level deeper changes one key of the object that is there.
theorem write_snoc (path : List String) (key : String) (value : Json) (fields : List (String × Json))
    (notEmpty : path ≠ []) :
    writeAt (path ++ [key], value) fields =
      writeAt (path, .obj (Entries.put key value (fieldsOf (getIn fields path)))) fields := by
  induction path generalizing fields with
  | nil => exact absurd rfl notEmpty
  | cons head rest ih =>
      rw [List.cons_append, write_cons, write_cons]
      cases rest with
      | nil =>
          simp only [List.nil_append, below, fields_held]
          rfl
      | cons next more =>
          rw [get_in_cons, ← fields_held]
          exact congrArg (fun inner => Entries.put head (.obj inner) fields)
            (ih (fieldsOf (some (held head fields))) (List.cons_ne_nil next more))

-- Each entry is written into the object that the entries before it have left.
theorem write_entries (path : List String) (entry : String × Json) (entries : List (String × Json))
    (fields : List (String × Json)) (notEmpty : path ≠ []) :
    runAll writeAt ((entry :: entries).map fun e => (path ++ [e.1], e.2)) fields =
      writeAt (path, .obj ((entry :: entries).foldl (fun fields e => Entries.put e.1 e.2 fields)
        (fieldsOf (getIn fields path)))) fields := by
  induction entries generalizing entry fields with
  | nil => exact write_snoc path entry.1 entry.2 fields notEmpty
  | cons next rest ih =>
      rw [List.map_cons, run_all_cons, ih, write_snoc path entry.1 entry.2 fields notEmpty,
        get_in_written path _ fields notEmpty, write_again]
      rfl

end PairwiseId.Claims
