import PairwiseId.Text.Basic

/- A trimmed text neither begins nor ends with a blank, so there is nothing left to trim. Nor is
   there in any other text that does not. -/
namespace PairwiseId.Text

set_option autoImplicit false

theorem trim_right_cons (c : Char) (rest : List Char) (visible : isBlankChar c = false) :
    trimRight (c :: rest) = c :: trimRight rest := by
  cases kept : trimRight rest <;> simp [trimRight, kept, visible]

theorem trim_right_twice (cs : List Char) : trimRight (trimRight cs) = trimRight cs := by
  induction cs with
  | nil => rfl
  | cons c rest ih =>
      cases kept : trimRight rest with
      | nil => cases blank : isBlankChar c <;> simp [trimRight, kept, blank]
      | cons d more =>
          have whole : trimRight (c :: rest) = c :: d :: more := by simp [trimRight, kept]
          rw [kept] at ih
          rw [whole, trimRight, ih]

theorem trim_left_head (cs : List Char) :
    trimLeft cs = [] ∨ ∃ c rest, trimLeft cs = c :: rest ∧ isBlankChar c = false := by
  cases left : trimLeft cs with
  | nil => exact .inl rfl
  | cons c rest =>
      have visible := List.head?_dropWhile_not isBlankChar cs
      rw [← trimLeft, left] at visible
      exact .inr ⟨c, rest, rfl, by simpa using visible⟩

theorem trim_left_trimmed (cs : List Char) :
    trimLeft (trimRight (trimLeft cs)) = trimRight (trimLeft cs) := by
  rcases trim_left_head cs with empty | ⟨c, rest, left, visible⟩
  · rw [empty]
    rfl
  · rw [left, trim_right_cons c rest visible, trimLeft, List.dropWhile_cons_of_neg (by simp [visible])]

theorem trim_trim (s : String) : trim (trim s) = trim s := by
  simp only [trim, String.toList_ofList, trim_left_trimmed, trim_right_twice]

theorem trim_right_sublist (cs : List Char) : (trimRight cs).Sublist cs := by
  induction cs with
  | nil => exact .slnil
  | cons c rest ih =>
      rw [trimRight]
      split
      · split
        · exact List.nil_sublist _
        · exact (List.nil_sublist rest).cons_cons c
      · exact ih.cons_cons c

theorem trim_sublist (s : String) : (trim s).toList.Sublist s.toList := by
  rw [trim, String.toList_ofList]
  exact (trim_right_sublist _).trans (List.dropWhile_sublist _)

theorem trim_right_visible (cs : List Char) (last : ∀ c, cs.getLast? = some c → isBlankChar c = false) :
    trimRight cs = cs := by
  induction cs with
  | nil => rfl
  | cons c rest ih =>
      cases rest with
      | nil => simp [trimRight, last c rfl]
      | cons d more =>
          have later := ih fun e found => last e (by simpa [List.getLast?_cons] using found)
          rw [trimRight, later]

theorem trim_visible (s : String) (first : ∀ c, s.toList.head? = some c → isBlankChar c = false)
    (last : ∀ c, s.toList.getLast? = some c → isBlankChar c = false) : trim s = s := by
  have left : trimLeft s.toList = s.toList := by
    rw [trimLeft]
    cases chars : s.toList with
    | nil => rfl
    | cons c rest => simp [first c (by simp [chars])]
  rw [trim, left, trim_right_visible s.toList last, String.ofList_toList]

end PairwiseId.Text
