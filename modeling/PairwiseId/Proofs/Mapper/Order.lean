import PairwiseId.Mapper.Registry

/- Ordering by priority neither adds nor loses a configuration, and leaves those
   of one priority in the order in which they were given. -/
namespace PairwiseId.Registry

set_option autoImplicit false

variable (r : Registry)

theorem place_by_priority_perm (config : MapperConfig) (configs : List MapperConfig) :
    (placeByPriority r config configs).Perm (config :: configs) := by
  induction configs with
  | nil => exact .refl _
  | cons c rest ih =>
      rw [placeByPriority]
      split
      · exact .refl _
      · exact (ih.cons c).trans (.swap config c rest)

theorem in_order_perm (configs : List MapperConfig) : (r.inOrder configs).Perm configs := by
  induction configs with
  | nil => exact .refl _
  | cons config rest ih => exact (place_by_priority_perm r config _).trans (ih.cons config)

-- A configuration moves only past those of a lower priority, which the function does not see.
theorem filter_map_place {B : Type} (f : MapperConfig → Option B) (level : Int) (config : MapperConfig)
    (configs : List MapperConfig)
    (same : ∀ c ∈ config :: configs, f c ≠ none → r.priority c = level) :
    (placeByPriority r config configs).filterMap f = (config :: configs).filterMap f := by
  induction configs with
  | nil => rfl
  | cons c rest ih =>
      rw [placeByPriority]
      split
      · rfl
      · rename_i lower
        have later : ∀ d ∈ config :: rest, f d ≠ none → r.priority d = level := by
          intro d member
          rcases List.mem_cons.mp member with rfl | inRest
          · exact same d List.mem_cons_self
          · exact same d (List.mem_cons_of_mem _ (List.mem_cons_of_mem _ inRest))
        rw [List.filterMap_cons, ih later]
        cases own : f config with
        | none => simp [List.filterMap_cons, own]
        | some value =>
            cases next : f c with
            | none => simp [own, next]
            | some other =>
                have first := same config List.mem_cons_self (by simp [own])
                have second := same c (by simp) (by simp [next])
                omega

theorem filter_map_in_order {B : Type} (f : MapperConfig → Option B) (level : Int)
    (configs : List MapperConfig) (same : ∀ c ∈ configs, f c ≠ none → r.priority c = level) :
    (r.inOrder configs).filterMap f = configs.filterMap f := by
  induction configs with
  | nil => rfl
  | cons config rest ih =>
      have later : ∀ c ∈ config :: r.inOrder rest, f c ≠ none → r.priority c = level := by
        intro c member
        rcases List.mem_cons.mp member with rfl | placed
        · exact same c List.mem_cons_self
        · exact same c (List.mem_cons_of_mem _ ((in_order_perm r rest).mem_iff.mp placed))
      have tail := ih fun c member => same c (List.mem_cons_of_mem _ member)
      change (placeByPriority r config (r.inOrder rest)).filterMap f = _
      rw [filter_map_place r f level config _ later, List.filterMap_cons, List.filterMap_cons, tail]

end PairwiseId.Registry
