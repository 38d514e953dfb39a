import Mathlib.Data.List.Basic

/- Doing a list of actions twice. It is the same as doing them once if each single action
   is, and if of any two actions the order does not matter or one undoes the other. -/
namespace PairwiseId

set_option autoImplicit false

variable {A C : Type}

def runAll (act : A → C → C) (actions : List A) (c : C) : C := actions.foldl (fun c a => act a c) c

inductive Compatible (act : A → C → C) (first second : A) : Prop where
  | commute (order : ∀ c, act second (act first c) = act first (act second c))
  | undone (lost : ∀ c, act second (act first c) = act second c)
  | undoing (lost : ∀ c, act first (act second c) = act first c)

structure Settling (act : A → C → C) : Prop where
  again : ∀ action c, act action (act action c) = act action c
  compatible : ∀ first second, Compatible act first second

section Part

variable {B D : Type} {inner : A → C → C} {outer : B → D → D} {first second : A} {one other : B}

-- Two actions on the same part of something are compatible if they are on the part alone.
theorem part_compatible (inside : Compatible inner first second) (part : D → C) (replace : D → C → D)
    (read : ∀ action d c, part (replace d (inner action c)) = inner action c)
    (replaced : ∀ action later d c next,
      replace (replace d (inner action c)) (inner later next) = replace d (inner later next))
    (firstActs : ∀ d, outer one d = replace d (inner first (part d)))
    (secondActs : ∀ d, outer other d = replace d (inner second (part d))) : Compatible outer one other := by
  have forward : ∀ d, outer other (outer one d) = replace d (inner second (inner first (part d))) := fun d => by
    rw [firstActs, secondActs, read, replaced]
  have backward : ∀ d, outer one (outer other d) = replace d (inner first (inner second (part d))) := fun d => by
    rw [secondActs, firstActs, read, replaced]
  cases inside with
  | commute order => exact .commute fun d => by rw [forward, backward, order]
  | undone lost => exact .undone fun d => by rw [forward, lost, secondActs]
  | undoing lost => exact .undoing fun d => by rw [backward, lost, firstActs]

end Part

variable {act : A → C → C}

theorem run_all_cons (action : A) (rest : List A) (c : C) :
    runAll act (action :: rest) c = runAll act rest (act action c) := rfl

theorem run_all_append (first second : List A) (c : C) :
    runAll act (first ++ second) c = runAll act second (runAll act first c) :=
  List.foldl_append

-- An action that will be done later need not be done now. If it undoes the first action in
-- between, it is inserted behind that one, which is then undone on both sides.
theorem redone (settling : Settling act) (action : A) (between : List A) (c : C) :
    act action (runAll act between (act action c)) = act action (runAll act between c) := by
  induction between generalizing c with
  | nil => exact settling.again action c
  | cons next rest ih =>
      rw [run_all_cons, run_all_cons]
      cases settling.compatible action next with
      | commute order => rw [order, ih]
      | undone lost => rw [lost]
      | undoing lost =>
          calc act action (runAll act rest (act next (act action c)))
              = act action (runAll act rest (act action (act next (act action c)))) := (ih _).symm
            _ = act action (runAll act rest c) := by rw [lost, settling.again, ih]
            _ = act action (runAll act rest (act action (act next c))) := by rw [lost, ih]
            _ = act action (runAll act rest (act next c)) := ih _

theorem run_all_absorbs (settling : Settling act) (early actions : List A) (c : C)
    (repeated : early ⊆ actions) : runAll act actions (runAll act early c) = runAll act actions c := by
  induction early generalizing c with
  | nil => rfl
  | cons action rest ih =>
      obtain ⟨member, others⟩ := List.cons_subset.mp repeated
      obtain ⟨before, after, rfl⟩ := List.append_of_mem member
      have skipped : ∀ start, runAll act (before ++ action :: after) start =
          runAll act after (act action (runAll act before start)) := fun start => by
        rw [run_all_append, run_all_cons]
      have once := redone settling action (rest ++ before) c
      simp only [run_all_append] at once
      rw [run_all_cons, skipped, once, ← skipped, ih c others]

theorem run_all_twice (settling : Settling act) (actions : List A) (c : C) :
    runAll act actions (runAll act actions c) = runAll act actions c :=
  run_all_absorbs settling actions actions c fun _ member => member

end PairwiseId
