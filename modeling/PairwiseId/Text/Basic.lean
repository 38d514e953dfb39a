/- White space, splitting and decimal numbers. White space is the Unicode White_Space
   property, not the ASCII class: a no-break space or an ideographic space is blank,
   a zero-width space is not. Texts are trimmed at both ends and never inside. -/
namespace PairwiseId.Text

set_option autoImplicit false

def isBlankChar (c : Char) : Bool :=
  ('\t' ≤ c && c ≤ '\r') || c == ' ' || c == '\u0085' || c == '\u00a0' || c == '\u1680' ||
  ('\u2000' ≤ c && c ≤ '\u200a') || c == '\u2028' || c == '\u2029' || c == '\u202f' ||
  c == '\u205f' || c == '\u3000'

def trimRight : List Char → List Char
  | [] => []
  | c :: rest =>
    match trimRight rest with
    | [] => if isBlankChar c then [] else [c]
    | kept => c :: kept

def trimLeft (cs : List Char) : List Char := cs.dropWhile isBlankChar

def trim (s : String) : String := String.ofList (trimRight (trimLeft s.toList))

def isBlank (s : String) : Bool := s.toList.all isBlankChar

-- Letters compare without case in ASCII only.
def sameIgnoringAsciiCase (a b : String) : Bool :=
  a.toList.map Char.toLower == b.toList.map Char.toLower

theorem trim_right_empty_iff (cs : List Char) :
    trimRight cs = [] ↔ cs.all isBlankChar = true := by
  induction cs with
  | nil => simp [trimRight]
  | cons c rest ih =>
    simp only [trimRight, List.all_cons, Bool.and_eq_true]
    split
    · rename_i h
      simp [ih.mp h]
    · rename_i h
      constructor
      · intro impossible
        cases impossible
      · intro all
        exact absurd (ih.mpr all.2) h

theorem trim_left_all_blank (cs : List Char) :
    (trimLeft cs).all isBlankChar = cs.all isBlankChar := by
  induction cs with
  | nil => rfl
  | cons c rest ih =>
    simp only [trimLeft, List.dropWhile_cons] at ih ⊢
    split <;> simp_all

theorem trim_empty_iff (s : String) : trim s = "" ↔ isBlank s = true := by
  have key : trim s = "" ↔ trimRight (trimLeft s.toList) = [] := by
    unfold trim
    rw [← String.toList_inj]
    simp
  rw [key, trim_right_empty_iff, trim_left_all_blank]
  rfl

def extend (c : Char) : List (List Char) → List (List Char)
  | [] => [[c]]
  | piece :: pieces => (c :: piece) :: pieces

-- The pieces between n separators are n + 1, empty ones included.
def splitAt (sep : Char) : List Char → List (List Char)
  | [] => [[]]
  | c :: rest => if c = sep then [] :: splitAt sep rest else extend c (splitAt sep rest)

-- Splits at every doubled occurrence of a character, the leftmost first.
def splitAtDouble (sep : Char) : List Char → List (List Char)
  | [] => [[]]
  | [c] => [[c]]
  | c :: d :: rest =>
    if c = sep ∧ d = sep then [] :: splitAtDouble sep rest
    else extend c (splitAtDouble sep (d :: rest))

theorem split_at_nonempty (sep : Char) (cs : List Char) : splitAt sep cs ≠ [] := by
  cases cs with
  | nil => simp [splitAt]
  | cons c rest =>
    simp only [splitAt]
    split
    · simp
    · cases h : splitAt sep rest <;> simp [extend]

def digitValue (c : Char) : Nat := c.toNat - 48

def natOfDigits (ds : List Char) : Nat := ds.foldl (fun n d => 10 * n + digitValue d) 0

def wordCount : Nat := 0x10000000000000000

def signBound : Nat := 0x8000000000000000

-- A number of 64 bits. It may begin with a plus sign and with zeros.
def word? (cs : List Char) : Option Nat :=
  let ds := match cs with
    | '+' :: rest => rest
    | _ => cs
  if ds ≠ [] ∧ ds.all Char.isDigit ∧ natOfDigits ds < wordCount then some (natOfDigits ds)
  else none

end PairwiseId.Text
