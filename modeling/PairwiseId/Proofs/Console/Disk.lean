import PairwiseId.Console.Disk

/- What becomes of the files when folders are made and a file is written. Folders are made only
   where nothing was, and a file is written only where no folder is, so a path that led to a place
   leads there still. -/
namespace PairwiseId.Console.Disk

set_option autoImplicit false

theorem node_put_self (d : Disk) (place : Place) (node : Node) (notRoot : place ≠ []) :
    (d.put place node).node? place = some node := by
  simp [node?, put, notRoot]

theorem node_put_other (d : Disk) (place other : Place) (node : Node) (differs : other ≠ place) :
    (d.put place node).node? other = d.node? other := by
  have apart : (other == place) = false := beq_eq_false_iff_ne.mpr differs
  have kept : (d.nodes.filter fun n => n.1 != place).lookup other = d.nodes.lookup other := by
    induction d.nodes with
    | nil => rfl
    | cons entry nodes ih =>
        obtain ⟨own, held⟩ := entry
        by_cases same : own = place
        · subst same
          rw [List.filter_cons_of_neg (by simp), ih, List.lookup_cons, apart]
        · rw [List.filter_cons_of_pos (by simpa using same), List.lookup_cons, List.lookup_cons, ih]
  simp only [node?, put, List.lookup_cons, apart, kept]

def SameFiles (d e : Disk) : Prop :=
  ∀ place content, e.node? place = some (.file content) ↔ d.node? place = some (.file content)

-- Nothing is lost, and only folders are new.
structure Grown (d e : Disk) : Prop where
  start : e.start = d.start
  kept : ∀ place node, d.node? place = some node → e.node? place = some node
  files : ∀ place content, e.node? place = some (.file content) → d.node? place = some (.file content)

namespace Grown

theorem refl (d : Disk) : Grown d d := ⟨rfl, fun _ _ held => held, fun _ _ held => held⟩

theorem trans {d e f : Disk} (first : Grown d e) (second : Grown e f) : Grown d f where
  start := second.start.trans first.start
  kept place node held := second.kept place node (first.kept place node held)
  files place content held := first.files place content (second.files place content held)

theorem same_files {d e : Disk} (grown : Grown d e) : SameFiles d e :=
  fun place content => ⟨grown.files place content, grown.kept place (.file content)⟩

theorem folder (d : Disk) (place : Place) (missing : d.node? place = none) : Grown d (d.put place .folder) := by
  have notRoot : place ≠ [] := by
    rintro rfl
    cases missing
  refine ⟨rfl, fun other node held => ?_, fun other content held => ?_⟩
  · have differs : other ≠ place := by
      rintro rfl
      rw [missing] at held
      cases held
    rw [node_put_other d place other .folder differs, held]
  · by_cases same : other = place
    · subst same
      rw [node_put_self d other .folder notRoot] at held
      cases held
    · rwa [node_put_other d place other .folder same] at held

theorem follow {d e : Disk} (grown : Grown d e) (names : List String) (place target : Place)
    (led : d.follow place names = some target) : e.follow place names = some target := by
  induction names generalizing place with
  | nil => exact led
  | cons name names ih =>
      rw [Disk.follow] at led ⊢
      split at led
      · rename_i isFolder
        rw [if_pos (grown.kept place .folder isFolder)]
        exact ih (move place name) led
      · cases led

theorem read {d e : Disk} (grown : Grown d e) (path content : String) (held : d.read path = .text content) :
    e.read path = .text content := by
  have found : (d.place? path).bind d.node? = some (.file content) := by
    rw [Disk.read] at held
    split at held
    · cases held
    · cases held
    · rename_i own found
      cases held
      exact found
  obtain ⟨target, led, file⟩ := Option.bind_eq_some_iff.mp found
  have origin : e.origin path = d.origin path := by rw [Disk.origin, Disk.origin, grown.start]
  have same : e.place? path = some target := by
    rw [place?, origin]
    exact grown.follow _ _ target led
  rw [Disk.read, same, Option.bind_some, grown.kept target (.file content) file]

end Grown

theorem make_all_grown (d : Disk) (place : Place) (names : List String) : Grown d (d.makeAll place names).2 := by
  induction names generalizing d place with
  | nil => exact .refl d
  | cons name names ih =>
      simp only [makeAll]
      split
      · exact ih d (move place name)
      · exact .refl d
      · rename_i missing
        exact (Grown.folder d (move place name) missing).trans (ih _ (move place name))

theorem make_folders_grown (d : Disk) (path : String) : Grown d (d.makeFolders path).2 :=
  make_all_grown d _ _

-- Where a file may be written, and what is there after that.
section Write

variable (d : Disk) (place : Place) (content : String) (free : d.node? place ≠ some .folder)

include free

theorem free_not_root : place ≠ [] := by
  rintro rfl
  exact free rfl

theorem follow_put (names : List String) (start : Place) :
    (d.put place (.file content)).follow start names = d.follow start names := by
  induction names generalizing start with
  | nil => rfl
  | cons name names ih =>
      have folders : (d.put place (.file content)).node? start = some .folder ↔ d.node? start = some .folder := by
        by_cases same : start = place
        · subst same
          rw [node_put_self d start _ (free_not_root d start free)]
          exact ⟨fun file => (nomatch file), fun folder => absurd folder free⟩
        · rw [node_put_other d place start _ same]
      simp only [follow, folders, ih]

theorem place_put (path : String) (led : d.place? path = some place) :
    (d.put place (.file content)).place? path = some place := by
  rw [← led]
  exact follow_put d place content free _ _

theorem read_put (path : String) (led : d.place? path = some place) :
    (d.put place (.file content)).read path = .text content := by
  rw [read, place_put d place content free path led, Option.bind_some,
    node_put_self d place _ (free_not_root d place free)]

end Write

theorem write_free (d : Disk) (place : Place) (path content : String) (led : d.place? path = some place)
    (free : d.node? place ≠ some .folder) : d.write path content = (true, d.put place (.file content)) := by
  rw [write, led]
  exact if_neg free

theorem write_cases (d : Disk) (path content : String) :
    d.write path content = (false, d) ∨ ∃ place, d.place? path = some place ∧ d.node? place ≠ some .folder ∧
      d.write path content = (true, d.put place (.file content)) := by
  cases led : d.place? path with
  | none =>
      refine .inl ?_
      rw [write, led]
  | some place =>
      by_cases folder : d.node? place = some .folder
      · refine .inl ?_
        rw [write, led]
        exact if_pos folder
      · exact .inr ⟨place, rfl, folder, write_free d place path content led folder⟩

end PairwiseId.Console.Disk
