import PairwiseId.Unicode.Composition

/- What takes part in no composition stands unchanged in the composed form of a
   text. Among the ASCII characters these are all but the letters and the signs
   of comparison. -/
namespace PairwiseId.Unicode

set_option autoImplicit false

def Lone (c : Char) : Prop := c.toNat < 128 ∧ c.isAlpha = false ∧ c ∉ ['<', '=', '>']

instance (c : Char) : Decidable (Lone c) := inferInstanceAs (Decidable (_ ∧ _ ∧ _))

-- The entry joins a letter, a sign of comparison or a character beyond ASCII with a mark beyond
-- ASCII, and what it gives is beyond ASCII.
def composesBeyond (e : Char × Char × Char) : Bool :=
  (128 ≤ e.1.toNat || e.1.isAlpha || ['<', '=', '>'].contains e.1) &&
    128 ≤ e.2.1.toNat && 128 ≤ e.2.2.toNat

def linesBeyond (lines : List String) : Bool := (compositionsOfText lines).all composesBeyond

-- The characters of a line have to be at hand for the table to be evaluated.
theorem beyond_cons (cs : List Char) (lines : List String)
    (first : ((Text.splitAt ' ' cs).map compositionOfText).all composesBeyond = true)
    (others : linesBeyond lines = true) : linesBeyond (String.ofList cs :: lines) = true := by
  rw [linesBeyond, compositionsOfText, List.flatMap_cons, List.all_append, String.toList_ofList, first]
  exact others

theorem compositions_beyond : compositions.all composesBeyond = true := by
  unfold compositions
  repeat (refine beyond_cons _ _ (by decide +kernel) ?_)
  rfl

theorem place_mark_perm (c : Char) (marks : List Char) : (placeMark c marks).Perm (c :: marks) := by
  induction marks with
  | nil => rfl
  | cons d before ih =>
      rw [placeMark]
      split
      · exact (ih.cons d).trans (List.Perm.swap c d before)
      · rfl

theorem reorder_perm (cs : List Char) : (reorder cs).Perm cs := by
  have run : ∀ cs done : List Char,
      (cs.foldl (fun done c => if combiningClass c = 0 then c :: done else placeMark c done) done).Perm
        (cs ++ done) := by
    intro cs
    induction cs with
    | nil => exact fun done => .refl done
    | cons c rest ih =>
        intro done
        rw [List.foldl_cons]
        refine (ih _).trans ?_
        split
        · exact List.perm_middle
        · exact ((place_mark_perm c done).append_left rest).trans List.perm_middle
  exact (List.reverse_perm _).trans (by simpa using run cs [])

section Lone
variable {c : Char} (lone : Lone c)
include lone

theorem lone_ne_entry (e : Char × Char × Char) (member : e ∈ compositions) :
    e.1 ≠ c ∧ e.2.1 ≠ c ∧ e.2.2 ≠ c := by
  obtain ⟨ascii, letter, sign⟩ := lone
  have entry := List.all_eq_true.mp compositions_beyond e member
  simp only [composesBeyond, Bool.and_eq_true, Bool.or_eq_true, decide_eq_true_eq,
    List.contains_iff_mem] at entry
  obtain ⟨⟨first, second⟩, composed⟩ := entry
  refine ⟨?_, ?_, ?_⟩
  · rintro rfl
    rcases first with (large | isLetter) | isSign
    · omega
    · exact Bool.false_ne_true (letter.symm.trans isLetter)
    · exact sign isSign
  · rintro rfl
    omega
  · rintro rfl
    omega

theorem compose_pair_ne (a b x : Char) (composed : composePair? a b = some x) : a ≠ c ∧ b ≠ c := by
  have ascii := lone.1
  simp only [composePair?] at composed
  split at composed
  case isTrue korean => exact ⟨by rintro rfl; omega, by rintro rfl; omega⟩
  case isFalse =>
    split at composed
    case isTrue korean => exact ⟨by rintro rfl; omega, by rintro rfl; omega⟩
    case isFalse =>
      obtain ⟨e, found, -⟩ := Option.map_eq_some_iff.mp composed
      have apart := lone_ne_entry lone e (List.mem_of_find?_eq_some found)
      have same := List.find?_some found
      simp only [Bool.and_eq_true, beq_iff_eq] at same
      exact ⟨same.1 ▸ apart.1, same.2 ▸ apart.2.1⟩

theorem decompose_lone (depth : Nat) : decompose depth c = [c] := by
  cases depth with
  | zero => rfl
  | succ depth =>
      have ascii := lone.1
      have notKorean : ¬ (0xAC00 ≤ c.toNat ∧ c.toNat < 0xD7A4) := by omega
      simp only [decompose, if_neg notKorean]
      split
      case h_1 e found =>
        have same := List.find?_some found
        exact absurd (beq_iff_eq.mp same) (lone_ne_entry lone e (List.mem_of_find?_eq_some found)).2.2
      case h_2 => rfl

theorem mem_compose_after (rest : List Char) : ∀ (starter : Char) (between : List Char),
    c ∈ starter :: between ∨ c ∈ rest → c ∈ composeAfter starter between rest := by
  induction rest with
  | nil =>
      intro starter between member
      simpa [composeAfter] using member
  | cons d rest ih =>
      intro starter between member
      simp only [composeAfter]
      split
      case h_1 composed fits =>
        -- The two characters that are composed are both others.
        have pair : composePair? starter d = some composed := (Option.ite_none_right_eq_some.mp fits).2
        have apart := compose_pair_ne lone starter d composed pair
        apply ih
        rcases member with first | later
        · exact .inl (List.mem_cons_of_mem _ ((List.mem_cons.mp first).resolve_left apart.1.symm))
        · exact .inr ((List.mem_cons.mp later).resolve_left apart.2.symm)
      case h_2 =>
        split
        case isTrue =>
          rcases member with first | later
          · exact List.mem_append_left _ (by simpa using first)
          · exact List.mem_append_right _ (ih d [] (by simpa using later))
        case isFalse =>
          apply ih
          simpa [or_assoc, or_left_comm, or_comm] using member

theorem mem_compose (cs : List Char) (member : c ∈ cs) : c ∈ compose cs := by
  induction cs with
  | nil => cases member
  | cons d rest ih =>
      rw [compose]
      split
      case isTrue => exact mem_compose_after lone rest d [] (by simpa using member)
      case isFalse =>
        rcases List.mem_cons.mp member with rfl | later
        · exact List.mem_cons_self
        · exact List.mem_cons_of_mem _ (ih later)

theorem mem_normalize (cs : List Char) (member : c ∈ cs) : c ∈ normalize cs := by
  have decomposed : c ∈ cs.flatMap (decompose 4) :=
    List.mem_flatMap.mpr ⟨c, member, by rw [decompose_lone lone]; exact List.mem_singleton_self c⟩
  exact mem_compose lone _ ((reorder_perm _).mem_iff.mpr decomposed)

end Lone

end PairwiseId.Unicode
