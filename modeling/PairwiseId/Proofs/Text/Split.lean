import Mathlib.Data.List.DropRight
import PairwiseId.Text.Basic

/- Dividing a text at every place, or at the last place, where a character stands, or at every
   place where it is doubled. -/
namespace PairwiseId.Text

set_option autoImplicit false

theorem extend_flatten (c : Char) (pieces : List (List Char)) :
    (extend c pieces).flatten = c :: pieces.flatten := by
  cases pieces <;> simp [extend]

theorem split_at_flatten (sep : Char) (cs : List Char) : (splitAt sep cs).flatten = cs.filter (· ≠ sep) := by
  induction cs with
  | nil => rfl
  | cons c rest ih =>
      by_cases same : c = sep
      · simp [splitAt, same, ih]
      · simp [splitAt, same, ih, extend_flatten]

theorem mem_split_at (sep c : Char) (apart : c ≠ sep) (cs : List Char) (member : c ∈ cs) :
    ∃ piece ∈ splitAt sep cs, c ∈ piece := by
  rw [← List.mem_flatten, split_at_flatten]
  exact List.mem_filter.mpr ⟨member, decide_eq_true apart⟩

-- What follows the last one of these characters: the whole text if there is none.
def afterLast (mark : Char) (cs : List Char) : List Char := cs.rtakeWhile (· ≠ mark)

-- What stands before the last one: nothing if there is none.
def beforeLast (mark : Char) (cs : List Char) : List Char := (cs.rdropWhile (· ≠ mark)).dropLast

theorem after_last_eq (mark : Char) (cs : List Char) :
    (cs.reverse.takeWhile (· ≠ mark)).reverse = afterLast mark cs := rfl

theorem before_last_eq (mark : Char) (cs : List Char) :
    ((cs.reverse.dropWhile (· ≠ mark)).drop 1).reverse = beforeLast mark cs := by
  rw [beforeLast, List.rdropWhile, List.drop_one, List.dropLast_reverse]

theorem around_last (mark : Char) (cs : List Char) (member : mark ∈ cs) :
    cs = beforeLast mark cs ++ mark :: afterLast mark cs := by
  have divided : cs.rdropWhile (· ≠ mark) ++ afterLast mark cs = cs := List.rdropWhile_append_rtakeWhile
  have some : cs.rdropWhile (· ≠ mark) ≠ [] := fun empty => by
    simpa using List.rdropWhile_eq_nil_iff.mp empty mark member
  have last : (cs.rdropWhile (· ≠ mark)).getLast some = mark := by
    simpa using List.rdropWhile_last_not (· ≠ mark) cs some
  have ended : beforeLast mark cs ++ [mark] = cs.rdropWhile (· ≠ mark) := by
    have whole := List.dropLast_append_getLast some
    rwa [last] at whole
  calc cs = cs.rdropWhile (· ≠ mark) ++ afterLast mark cs := divided.symm
    _ = (beforeLast mark cs ++ [mark]) ++ afterLast mark cs := congrArg (· ++ afterLast mark cs) ended.symm
    _ = beforeLast mark cs ++ mark :: afterLast mark cs := by
        rw [List.append_assoc, List.singleton_append]

theorem after_last_absent (mark : Char) (cs : List Char) (absent : mark ∉ cs) : afterLast mark cs = cs :=
  List.rtakeWhile_eq_self_iff.mpr fun _ member => decide_eq_true fun same => absent (same ▸ member)

theorem mem_around_last (mark c : Char) (apart : c ≠ mark) (cs : List Char) (member : c ∈ cs) :
    c ∈ beforeLast mark cs ∨ c ∈ afterLast mark cs := by
  by_cases marked : mark ∈ cs
  · rw [around_last mark cs marked, List.mem_append, List.mem_cons] at member
    exact member.imp_right fun later => later.resolve_left apart
  · exact .inr ((after_last_absent mark cs marked).symm ▸ member)

section Doubled

variable (mark : Char)

theorem split_double_step (c : Char) (cs : List Char) (apart : ¬ (c = mark ∧ cs.head? = some mark)) :
    splitAtDouble mark (c :: cs) = extend c (splitAtDouble mark cs) := by
  cases cs with
  | nil => rfl
  | cons d rest => rw [splitAtDouble, if_neg fun both => apart ⟨both.1, congrArg some both.2⟩]

theorem split_double_pair (cs : List Char) :
    splitAtDouble mark (mark :: mark :: cs) = [] :: splitAtDouble mark cs := by
  rw [splitAtDouble, if_pos ⟨rfl, rfl⟩]

theorem split_double_ne_nil (cs : List Char) : splitAtDouble mark cs ≠ [] := by
  fun_cases splitAtDouble mark cs with
  | case1 => simp
  | case2 => simp
  | case3 => simp
  | case4 c d rest => cases splitAtDouble mark (d :: rest) <;> simp [extend]

theorem intercalate_extend (sep : List Char) (c : Char) (pieces : List (List Char)) (present : pieces ≠ []) :
    sep.intercalate (extend c pieces) = c :: sep.intercalate pieces := by
  cases pieces with
  | nil => exact absurd rfl present
  | cons piece later =>
      cases later with
      | nil => simp [extend]
      | cons next rest => simp [extend]

-- Nothing is lost: the pieces with the marks between them are the text.
theorem intercalate_split_double (cs : List Char) : [mark, mark].intercalate (splitAtDouble mark cs) = cs := by
  fun_induction splitAtDouble mark cs with
  | case1 => rfl
  | case2 c => simp
  | case3 c d rest both ih =>
      obtain ⟨rfl, rfl⟩ := both
      cases pieces : splitAtDouble d rest with
      | nil => exact absurd pieces (split_double_ne_nil d rest)
      | cons piece later =>
          rw [pieces] at ih
          rw [List.intercalate_cons_cons, ih]
          rfl
  | case4 c d rest apart ih => rw [intercalate_extend _ c _ (split_double_ne_nil mark _), ih]

-- Only a text that begins with the mark has nothing before its first doubled one.
theorem split_double_first (cs : List Char) (next : List Char) (later : List (List Char))
    (split : splitAtDouble mark cs = [] :: next :: later) : cs.head? = some mark := by
  revert split
  fun_cases splitAtDouble mark cs with
  | case1 => simp
  | case2 c => simp
  | case3 c d rest both => simp [both.1]
  | case4 c d rest apart => cases splitAtDouble mark (d :: rest) <;> simp [extend]

-- A doubled mark is taken at the first place where there is one.
theorem split_double_ends (cs : List Char) :
    ∀ piece ∈ (splitAtDouble mark cs).dropLast, piece.getLast? ≠ some mark := by
  fun_induction splitAtDouble mark cs with
  | case1 => simp
  | case2 c => simp
  | case3 c d rest both ih =>
      rw [List.dropLast_cons_of_ne_nil (split_double_ne_nil mark rest)]
      intro piece member
      rcases List.mem_cons.mp member with rfl | later
      · simp
      · exact ih piece later
  | case4 c d rest apart ih =>
      cases pieces : splitAtDouble mark (d :: rest) with
      | nil => exact absurd pieces (split_double_ne_nil mark _)
      | cons first later =>
          rw [pieces] at ih
          cases later with
          | nil => simp [extend]
          | cons next more =>
              simp only [extend, List.dropLast_cons_cons, List.forall_mem_cons] at ih ⊢
              refine ⟨?_, ih.2⟩
              cases first with
              | nil =>
                  have marked : d = mark := by simpa using split_double_first mark _ next more pieces
                  simpa using fun same => apart ⟨same, marked⟩
              | cons e front => simpa [List.getLast?_cons] using ih.1

theorem doubled_at_start (cs : List Char) (first : cs.head? = some mark) : [mark, mark] <:+: mark :: cs := by
  obtain ⟨rest, rfl⟩ := List.head?_eq_some_iff.mp first
  exact ⟨[], rest, rfl⟩

theorem split_double_free (piece : List Char) (free : ¬ [mark, mark] <:+: piece) :
    splitAtDouble mark piece = [piece] := by
  induction piece with
  | nil => rfl
  | cons c rest ih =>
      have apart : ¬ (c = mark ∧ rest.head? = some mark) := by
        rintro ⟨rfl, first⟩
        exact free (doubled_at_start c rest first)
      rw [split_double_step mark c rest apart, ih fun inside => free (List.infix_cons inside)]
      rfl

-- A piece that ends with the mark would lose it to the mark behind it.
theorem split_double_append (piece rest : List Char) (free : ¬ [mark, mark] <:+: piece)
    (ends : piece.getLast? ≠ some mark) :
    splitAtDouble mark (piece ++ mark :: mark :: rest) = piece :: splitAtDouble mark rest := by
  induction piece with
  | nil => exact split_double_pair mark rest
  | cons c front ih =>
      have later : ¬ [mark, mark] <:+: front := fun inside => free (List.infix_cons inside)
      cases front with
      | nil =>
          have other : c ≠ mark := by simpa using ends
          rw [List.cons_append, split_double_step mark c _ fun both => other both.1, List.nil_append,
            split_double_pair]
          rfl
      | cons d more =>
          have apart : ¬ (c = mark ∧ (d :: more ++ mark :: mark :: rest).head? = some mark) := by
            rintro ⟨rfl, first⟩
            exact free (doubled_at_start c (d :: more) first)
          have remaining : (d :: more).getLast? ≠ some mark := by simpa [List.getLast?_cons] using ends
          rw [List.cons_append, split_double_step mark c _ apart, ih later remaining]
          rfl

theorem split_double_intercalate (pieces : List (List Char)) (present : pieces ≠ [])
    (free : ∀ piece ∈ pieces, ¬ [mark, mark] <:+: piece)
    (ends : ∀ piece ∈ pieces.dropLast, piece.getLast? ≠ some mark) :
    splitAtDouble mark ([mark, mark].intercalate pieces) = pieces := by
  induction pieces with
  | nil => exact absurd rfl present
  | cons piece later ih =>
      have plain := free piece List.mem_cons_self
      cases later with
      | nil => rw [List.intercalate_singleton, split_double_free mark piece plain]
      | cons next rest =>
          rw [List.dropLast_cons_cons, List.forall_mem_cons] at ends
          have remaining := ih (List.cons_ne_nil next rest)
            (fun p member => free p (List.mem_cons_of_mem piece member)) ends.2
          rw [List.intercalate_cons_cons, List.append_assoc]
          exact (split_double_append mark piece _ plain ends.1).trans (congrArg (piece :: ·) remaining)

end Doubled

end PairwiseId.Text
