import PairwiseId.Proofs.Text.Number
import PairwiseId.Proofs.Toml.Quoted

/- A document of plain rows is read back row by row. A row is empty, the header of a table, or a
   bare key with a text, a number or a truth value. -/
namespace PairwiseId.Toml

set_option autoImplicit false

open Text

inductive Scalar where
  | text (s : String)
  | number (n : Nat)
  | flag (b : Bool)

namespace Scalar

def chars : Scalar → List Char
  | text s => quotedChars s.toList
  | number n => (toString n).toList
  | flag b => (if b then "true" else "false").toList

def value : Scalar → Toml
  | text s => str s
  | number n => int n
  | flag b => bool b

-- Numbers have 64 bits with sign.
def InRange : Scalar → Prop
  | number n => n < signBound
  | text _ | flag _ => True

end Scalar

theorem digit_ne (d c : Char) (digit : d.isDigit = true) (other : c.isDigit = false) : d ≠ c := by
  rintro rfl
  rw [digit] at other
  cases other

theorem quoted_starts (cs : List Char) :
    ∃ quote more, quotedChars cs = quote :: more ∧ (quote = '"' ∨ quote = '\'') := by
  unfold quotedChars
  split
  · exact ⟨'"', _, rfl, .inl rfl⟩
  · exact ⟨'\'', _, rfl, .inr rfl⟩
  · exact ⟨'"', _, rfl, .inl rfl⟩
  · exact ⟨'\'', _, rfl, .inr rfl⟩

-- Digits before the end of a line are no date, no time and no number with a fraction.
section Digits

variable (ds rest : List Char) (digits : ∀ d ∈ ds, d.isDigit = true)

include digits

omit digits in
theorem bounded_inside (count low high n : Nat) (after : List Char)
    (read : bounded? count low high (ds ++ '\n' :: rest) = some (n, after)) :
    after = ds.drop count ++ '\n' :: rest := by
  simp only [bounded?] at read
  split at read
  · rename_i taken
    obtain rfl := (Prod.mk.inj (Option.some.inj read)).2
    by_cases inside : count ≤ ds.length
    · exact List.drop_append_of_le_length inside
    · -- The end of the line would be among the digits.
      obtain ⟨k, more⟩ : ∃ k, count - ds.length = k + 1 := ⟨count - ds.length - 1, by omega⟩
      have member : '\n' ∈ (ds ++ '\n' :: rest).take count := by
        rw [List.take_append, more, List.take_succ_cons]
        exact List.mem_append_right _ List.mem_cons_self
      cases List.all_eq_true.mp taken.2.1 '\n' member
  · cases read

theorem char_outside (c : Char) (count : Nat) (noDigit : c.isDigit = false) (noBreak : c ≠ '\n') :
    char? c (ds.drop count ++ '\n' :: rest) = none := by
  cases left : ds.drop count with
  | nil => simp [char?, noBreak]
  | cons d others =>
      have digit := digits d (List.mem_of_mem_drop (left ▸ List.mem_cons_self))
      have differs : c ≠ d := (digit_ne d c digit noDigit).symm
      simp [char?, differs]

theorem date_none : date? (ds ++ '\n' :: rest) = none := by
  rw [date?]
  cases read : bounded? 4 0 9999 (ds ++ '\n' :: rest) with
  | none => rfl
  | some result =>
      obtain ⟨year, after⟩ := result
      obtain rfl := bounded_inside ds rest 4 0 9999 year after read
      simp [char_outside ds rest digits '-' 4 rfl (by decide)]

theorem time_none : time? (ds ++ '\n' :: rest) = none := by
  rw [time?]
  cases read : bounded? 2 0 23 (ds ++ '\n' :: rest) with
  | none => rfl
  | some result =>
      obtain ⟨hour, after⟩ := result
      obtain rfl := bounded_inside ds rest 2 0 23 hour after read
      simp [char_outside ds rest digits ':' 2 rfl (by decide)]

theorem moment_none : moment? (ds ++ '\n' :: rest) = none := by
  rw [moment?, date_none ds rest digits, time_none ds rest digits]
  rfl

theorem more_digits_read : moreDigits? Char.isDigit (ds ++ '\n' :: rest) = some (ds, '\n' :: rest) := by
  induction ds with
  | nil => rfl
  | cons d ds ih =>
      have digit := digits d List.mem_cons_self
      have noLine := digit_ne d '_' digit rfl
      have others := ih fun e member => digits e (List.mem_cons_of_mem d member)
      rw [List.cons_append, moreDigits?]
      · simp [noLine, digit, others]
      · exact fun e rest same => absurd same noLine

theorem whole_digits_read (notEmpty : ds ≠ []) (zeroAlone : ∀ others, ds = '0' :: others → others = []) :
    wholeDigits? (ds ++ '\n' :: rest) = some (ds, '\n' :: rest) := by
  cases ds with
  | nil => exact absurd rfl notEmpty
  | cons d ds =>
      have digit := digits d List.mem_cons_self
      have others := more_digits_read ds rest fun e member => digits e (List.mem_cons_of_mem d member)
      by_cases zero : d = '0'
      · subst zero
        obtain rfl := zeroAlone ds rfl
        rfl
      · rw [List.cons_append, wholeDigits?]
        · simp [digits?, digit, others]
        · exact fun _ same => zero (List.cons.inj same).1

end Digits

theorem digit_sign (d : Char) (cs : List Char) (digit : d.isDigit = true) : sign (d :: cs) = (false, d :: cs) := by
  rw [sign]
  · exact fun more same => digit_ne d '-' digit rfl (List.cons.inj same).1
  · exact fun more same => digit_ne d '+' digit rfl (List.cons.inj same).1

section Value

variable (fuel depth : Nat) (rest : List Char)

theorem value_text (s : String) :
    value? (fuel + 1) depth (quotedChars s.toList ++ '\n' :: rest) = some (str s, '\n' :: rest) := by
  have read := text_quoted s ('\n' :: rest) (by simp) (by simp)
  obtain ⟨quote, more, starts, mark⟩ := quoted_starts s.toList
  rw [starts, List.cons_append] at read ⊢
  rcases mark with rfl | rfl
  · simp [value?, read]
  · simp [value?, read]

theorem value_flag (b : Bool) :
    value? (fuel + 1) depth ((if b then "true" else "false").toList ++ '\n' :: rest) =
      some (bool b, '\n' :: rest) := by
  cases b with
  | true => rfl
  | false => rfl

theorem number_starts (n : Nat) : ∃ d more, (toString n).toList = d :: more ∧ d.isDigit = true := by
  cases written : (toString n).toList with
  | nil => exact absurd written (number_ne_nil n)
  | cons d more => exact ⟨d, more, rfl, number_digits n d (written ▸ List.mem_cons_self)⟩

theorem number_read (n : Nat) :
    wholeDigits? ((toString n).toList ++ '\n' :: rest) = some ((toString n).toList, '\n' :: rest) :=
  whole_digits_read _ rest (number_digits n) (number_ne_nil n) (number_zero_alone n)

theorem decimal_none (n : Nat) : decimal? ((toString n).toList ++ '\n' :: rest) = none := by
  have whole := number_read rest n
  obtain ⟨d, more, starts, digit⟩ := number_starts n
  have unnamed (c : Char) (noDigit : c.isDigit = false) (cs : List Char) :
      (c :: cs).isPrefixOf (d :: (more ++ '\n' :: rest)) = false := by
    have differs : c ≠ d := (digit_ne d c digit noDigit).symm
    simp [List.isPrefixOf, differs]
  have signless := digit_sign d (more ++ '\n' :: rest) digit
  rw [starts, List.cons_append] at whole ⊢
  simp [decimal?, signless, unsignedDecimal?, whole, fraction?, exponent?, keyword?, unnamed 'i' rfl, unnamed 'n' rfl]

theorem no_base (n : Nat) (c : Char) (cs : List Char) (noBreak : c ≠ '\n') :
    (toString n).toList ++ '\n' :: rest ≠ '0' :: c :: cs := by
  intro same
  obtain ⟨d, more, starts, _⟩ := number_starts n
  rw [starts, List.cons_append] at same
  obtain ⟨rfl, left⟩ := List.cons.inj same
  obtain rfl := number_zero_alone n more starts
  exact noBreak (List.cons.inj left).1.symm

omit rest in
theorem in_range (n : Nat) (small : n < signBound) : inRange? n = some (int n) := by
  have high : (n : Int) < signBound := Int.ofNat_lt.mpr small
  have low : -(signBound : Int) ≤ n :=
    Int.le_trans (Int.neg_nonpos_of_nonneg (Int.natCast_nonneg _)) (Int.natCast_nonneg _)
  rw [inRange?, if_pos ⟨low, high⟩]

omit rest in
theorem integer_unbased (cs : List Char) (noHex : ∀ more, cs ≠ '0' :: 'x' :: more)
    (noOctal : ∀ more, cs ≠ '0' :: 'o' :: more) (noBinary : ∀ more, cs ≠ '0' :: 'b' :: more)
    (signless : sign cs = (false, cs)) :
    integer? cs =
      (wholeDigits? cs).bind fun read => (inRange? (natOfDigits read.1)).bind fun v => some (v, read.2) := by
  rw [integer?]
  · rw [signless]
    simp only [Bool.false_eq_true, if_false, Option.bind_eq_bind, Option.pure_def]
  · exact noHex
  · exact noOctal
  · exact noBinary

theorem integer_read (n : Nat) (small : n < signBound) :
    integer? ((toString n).toList ++ '\n' :: rest) = some (int n, '\n' :: rest) := by
  have signless : sign ((toString n).toList ++ '\n' :: rest) = (false, (toString n).toList ++ '\n' :: rest) := by
    obtain ⟨d, more, starts, digit⟩ := number_starts n
    rw [starts]
    exact digit_sign d _ digit
  rw [integer_unbased _ (fun cs => no_base rest n 'x' cs (by decide)) (fun cs => no_base rest n 'o' cs (by decide))
    (fun cs => no_base rest n 'b' cs (by decide)) signless, number_read rest n, Option.bind_some, number_value,
    in_range n small, Option.bind_some]

theorem value_number (n : Nat) (small : n < signBound) :
    value? (fuel + 1) depth ((toString n).toList ++ '\n' :: rest) = some (int n, '\n' :: rest) := by
  have noMoment := moment_none (toString n).toList rest (number_digits n)
  have noDecimal := decimal_none rest n
  have read := integer_read rest n small
  obtain ⟨d, more, starts, digit⟩ := number_starts n
  rw [starts, List.cons_append] at noMoment noDecimal read ⊢
  have other (c : Char) (noDigit : c.isDigit = false) : d ≠ c := digit_ne d c digit noDigit
  have started : isSignOrDigit d = true := by simp [isSignOrDigit, digit]
  rw [value?]
  · simp [other '"' rfl, other '\'' rfl, started, noMoment, noDecimal, read]
  · exact fun _ => other '[' rfl
  · exact fun _ => other '\x7b' rfl
  · exact fun _ _ => other '[' rfl
  · exact fun _ _ => other '\x7b' rfl

theorem value_scalar (v : Scalar) (known : v.InRange) :
    value? (fuel + 1) depth (v.chars ++ '\n' :: rest) = some (v.value, '\n' :: rest) := by
  cases v with
  | text s => exact value_text fuel depth rest s
  | number n => exact value_number fuel depth rest n known
  | flag b => exact value_flag fuel depth rest b

end Value

inductive Row where
  | blank
  | pair (key : String) (v : Scalar)
  | header (key : String)

def BareKey (key : String) : Prop := key.toList ≠ [] ∧ ∀ c ∈ key.toList, isBareKeyChar c = true

theorem bare_of_all (key : String) (all : (!key.toList.isEmpty && key.toList.all isBareKeyChar) = true) :
    BareKey key := by
  simpa [BareKey] using all

namespace Row

def chars : Row → List Char
  | blank => ['\n']
  | pair key v => key.toList ++ ' ' :: '=' :: ' ' :: (v.chars ++ ['\n'])
  | header key => '[' :: (key.toList ++ [']', '\n'])

def line? : Row → Option Line
  | blank => none
  | pair key v => some (.pair [key] v.value)
  | header key => some (.header [key])

def WellFormed : Row → Prop
  | blank => True
  | pair key v => BareKey key ∧ v.InRange
  | header key => BareKey key

end Row

theorem skip_solid (c : Char) (cs : List Char) (solid : isSpace c = false) : skipSpace (c :: cs) = c :: cs := by
  rw [skipSpace, List.dropWhile_cons_of_neg (by simp [solid])]

-- No character of a bare key means anything else at the start of a line or a key.
theorem bare_starts (key : String) (bare : BareKey key) :
    ∃ c more, key.toList = c :: more ∧ isBareKeyChar c = true := by
  cases written : key.toList with
  | nil => exact absurd written bare.1
  | cons c more => exact ⟨c, more, rfl, bare.2 c (written ▸ List.mem_cons_self)⟩

theorem bare_ne (d c : Char) (bare : isBareKeyChar d = true) (other : isBareKeyChar c = false) : d ≠ c := by
  rintro rfl
  rw [bare] at other
  cases other

theorem bare_solid (c : Char) (bare : isBareKeyChar c = true) : isSpace c = false := by
  simp [isSpace, bare_ne c ' ' bare rfl, bare_ne c '\t' bare rfl]

theorem path_bare (key : String) (bare : BareKey key) (c : Char) (rest : List Char)
    (stop : isBareKeyChar c = false) (noDot : (skipSpace (c :: rest)).head? ≠ some '.') :
    path? (key.toList ++ c :: rest) = some ([key], skipSpace (c :: rest)) := by
  have simple : simpleKey? (key.toList ++ c :: rest) = some (key, c :: rest) := by
    have taken : (key.toList ++ c :: rest).takeWhile isBareKeyChar = key.toList := by
      rw [List.takeWhile_append_of_pos bare.2, List.takeWhile_cons_of_neg (by simp [stop]), List.append_nil]
    obtain ⟨d, more, starts, own⟩ := bare_starts key bare
    rw [simpleKey?]
    · simp only [taken, if_neg bare.1, String.ofList_toList, List.drop_left]
    · exact fun others same => bare_ne d '"' own rfl (List.cons.inj (starts ▸ same)).1
    · exact fun others same => bare_ne d '\'' own rfl (List.cons.inj (starts ▸ same)).1
  have solid : skipSpace (key.toList ++ c :: rest) = key.toList ++ c :: rest := by
    obtain ⟨d, more, starts, own⟩ := bare_starts key bare
    rw [starts, List.cons_append, skip_solid d _ (bare_solid d own)]
  rw [path?, depthLimit, keys?, solid, simple]
  simp only [Option.bind_eq_bind, Option.bind_some]
  split
  · rename_i same
    rw [same] at noDot
    exact absurd rfl noDot
  · rfl

theorem scalar_after_blank (v : Scalar) (rest : List Char) :
    skipSpace (' ' :: (v.chars ++ rest)) = v.chars ++ rest := by
  have starts : ∃ c more, v.chars = c :: more ∧ isSpace c = false := by
    cases v with
    | text s =>
        obtain ⟨quote, more, starts, mark⟩ := quoted_starts s.toList
        exact ⟨quote, more, starts, by rcases mark with rfl | rfl <;> rfl⟩
    | number n =>
        obtain ⟨d, more, starts, digit⟩ := number_starts n
        exact ⟨d, more, starts, by simp [isSpace, digit_ne d ' ' digit rfl, digit_ne d '\t' digit rfl]⟩
    | flag b => cases b <;> exact ⟨_, _, rfl, rfl⟩
  obtain ⟨c, more, starts, solid⟩ := starts
  rw [starts, List.cons_append, skipSpace, List.dropWhile_cons_of_pos rfl]
  exact skip_solid c _ solid

theorem line_tail (rest : List Char) : lineTail? ('\n' :: rest) = some ((), rest) := by
  rw [lineTail?, skip_solid '\n' rest rfl]
  rfl

theorem pair_read (key : String) (bare : BareKey key) (v : Scalar) (known : v.InRange) (rest : List Char) :
    pair? (key.toList ++ ' ' :: '=' :: ' ' :: (v.chars ++ '\n' :: rest)) = some (.pair [key] v.value, rest) := by
  have equals :
      skipSpace (' ' :: '=' :: ' ' :: (v.chars ++ '\n' :: rest)) = '=' :: ' ' :: (v.chars ++ '\n' :: rest) := rfl
  have path := path_bare key bare ' ' ('=' :: ' ' :: (v.chars ++ '\n' :: rest)) rfl (by simp [equals])
  have blank : skipSpace (' ' :: (v.chars ++ '\n' :: rest)) = v.chars ++ '\n' :: rest := scalar_after_blank v _
  rw [pair?, path, equals]
  simp only [Option.bind_eq_bind, Option.bind_some, char?, if_true, blank, value_scalar _ _ rest v known, line_tail,
    Option.pure_def]

theorem header_read (key : String) (bare : BareKey key) (rest : List Char) :
    header? (key.toList ++ ']' :: '\n' :: rest) = some (.header [key], rest) := by
  have closing : skipSpace (']' :: '\n' :: rest) = ']' :: '\n' :: rest := skip_solid ']' _ rfl
  have path := path_bare key bare ']' ('\n' :: rest) rfl (by simp [closing])
  rw [header?, path, closing]
  simp only [Option.bind_eq_bind, Option.bind_some, char?, if_true, line_tail, Option.pure_def]

theorem document_row (row : Row) (formed : row.WellFormed) (fuel : Nat) (rest : List Char) :
    document? (fuel + 1) (row.chars ++ rest) = (document? fuel rest).map (row.line?.toList ++ ·) := by
  cases row with
  | blank =>
      rw [Row.chars, List.singleton_append, document?, skip_solid '\n' rest rfl]
      simp [Row.line?]
  | pair key v =>
      obtain ⟨bare, known⟩ := formed
      have read := pair_read key bare v known rest
      obtain ⟨c, more, starts, own⟩ := bare_starts key bare
      have whole :
          Row.chars (.pair key v) ++ rest = key.toList ++ ' ' :: '=' :: ' ' :: (v.chars ++ '\n' :: rest) := by
        simp [Row.chars]
      rw [whole]
      rw [starts, List.cons_append] at read ⊢
      have other (d : Char) (noKey : isBareKeyChar d = false) : c ≠ d := bare_ne c d own noKey
      cases others : document? fuel rest <;>
        simp [document?, skip_solid c _ (bare_solid c own), other '\n' rfl, other '\x0d' rfl, other '#' rfl,
          other '[' rfl, read, others, Row.line?]
  | header key =>
      have read := header_read key formed rest
      obtain ⟨c, more, starts, own⟩ := bare_starts key formed
      have whole : Row.chars (.header key) ++ rest = '[' :: (key.toList ++ ']' :: '\n' :: rest) := by
        simp [Row.chars]
      rw [whole]
      rw [starts, List.cons_append] at read ⊢
      have single : c ≠ '[' := bare_ne c '[' own rfl
      cases others : document? fuel rest <;>
        simp [document?, skip_solid '[' _ rfl, single, read, others, Row.line?]

theorem document_rows (rows : List Row) (formed : ∀ row ∈ rows, row.WellFormed) (fuel : Nat)
    (enough : rows.length < fuel) :
    document? fuel (rows.flatMap Row.chars) = some (rows.filterMap Row.line?) := by
  induction rows generalizing fuel with
  | nil =>
      obtain ⟨fuel, rfl⟩ : ∃ n, fuel = n + 1 := Nat.exists_eq_add_one.mpr enough
      rfl
  | cons row rows ih =>
      obtain ⟨fuel, rfl⟩ : ∃ n, fuel = n + 1 := Nat.exists_eq_add_one.mpr (Nat.zero_lt_of_lt enough)
      have others := ih (fun other member => formed other (List.mem_cons_of_mem row member)) fuel
        (Nat.lt_of_succ_lt_succ enough)
      rw [List.flatMap_cons, document_row row (formed row List.mem_cons_self), others]
      cases line : row.line? <;> simp [line]

theorem row_starts (row : Row) (formed : row.WellFormed) : ∃ c more, row.chars = c :: more ∧ c ≠ '\uFEFF' := by
  cases row with
  | blank => exact ⟨'\n', [], rfl, by decide⟩
  | pair key v =>
      obtain ⟨c, more, starts, own⟩ := bare_starts key formed.1
      exact ⟨c, _, by rw [Row.chars, starts, List.cons_append], bare_ne c '\uFEFF' own rfl⟩
  | header key => exact ⟨'[', _, rfl, by decide⟩

theorem rows_length (rows : List Row) (formed : ∀ row ∈ rows, row.WellFormed) :
    rows.length ≤ (rows.flatMap Row.chars).length := by
  induction rows with
  | nil => exact Nat.le_refl 0
  | cons row rows ih =>
      have others := ih fun other member => formed other (List.mem_cons_of_mem row member)
      obtain ⟨c, more, starts, _⟩ := row_starts row (formed row List.mem_cons_self)
      simp only [List.flatMap_cons, starts, List.length_cons, List.length_append]
      omega

theorem without_mark (rows : List Row) (formed : ∀ row ∈ rows, row.WellFormed) :
    withoutMark (rows.flatMap Row.chars) = rows.flatMap Row.chars := by
  cases rows with
  | nil => rfl
  | cons row rows =>
      obtain ⟨c, more, starts, noMark⟩ := row_starts row (formed row List.mem_cons_self)
      rw [List.flatMap_cons, starts, List.cons_append, withoutMark]
      exact fun _ same => noMark (List.cons.inj same).1

theorem parse_rows (rows : List Row) (formed : ∀ row ∈ rows, row.WellFormed) (text : String)
    (written : text.toList = rows.flatMap Row.chars) : parse? text = ofLines? (rows.filterMap Row.line?) := by
  have lines := document_rows rows formed _ (Nat.lt_succ_of_le (rows_length rows formed))
  simp only [parse?, written, without_mark rows formed, Nat.succ_eq_add_one] at lines ⊢
  rw [lines]
  rfl

end PairwiseId.Toml
