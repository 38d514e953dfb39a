import PairwiseId.Json.Parse
import PairwiseId.Json.Print
import PairwiseId.Proofs.Json.Fields

/- What is written as a JSON text is read back. The texts of a document are given by a
   grammar with blanks between the tokens, which is all that the compact form and the
   indented one differ by. Documents with numbers are left out. -/
namespace PairwiseId.Json

set_option autoImplicit false

def IsBlank (c : Char) : Prop := c = ' ' ∨ c = '\t' ∨ c = '\n' ∨ c = '\x0d'

instance : DecidablePred IsBlank := fun c =>
  inferInstanceAs (Decidable (c = ' ' ∨ c = '\t' ∨ c = '\n' ∨ c = '\x0d'))

def Blanks (gap : List Char) : Prop := ∀ c ∈ gap, IsBlank c

def quoted (s : String) : List Char := '"' :: s.toList.flatMap escape ++ ['"']

mutual

inductive Spelled : Json → List Char → Prop where
  | null : Spelled null ['n', 'u', 'l', 'l']
  | yes : Spelled (bool true) ['t', 'r', 'u', 'e']
  | no : Spelled (bool false) ['f', 'a', 'l', 's', 'e']
  | text (s : String) : Spelled (str s) (quoted s)
  | emptyList (gap : List Char) (blank : Blanks gap) : Spelled (arr []) ('[' :: gap ++ [']'])
  | list (items : List Json) (cs : List Char) (inside : SpelledItems items cs) :
      Spelled (arr items) ('[' :: cs ++ [']'])
  | emptyObject (gap : List Char) (blank : Blanks gap) : Spelled (obj []) ('\x7b' :: gap ++ ['\x7d'])
  | object (fields : List (String × Json)) (cs : List Char) (inside : SpelledFields fields cs) :
      Spelled (obj fields) ('\x7b' :: cs ++ ['\x7d'])

inductive SpelledItems : List Json → List Char → Prop where
  | last (item : Json) (before cs after : List Char) (blank : Blanks before) (blank' : Blanks after)
      (own : Spelled item cs) : SpelledItems [item] (before ++ cs ++ after)
  | more (item : Json) (rest : List Json) (before cs after ds : List Char) (blank : Blanks before)
      (blank' : Blanks after) (own : Spelled item cs) (others : SpelledItems rest ds) :
      SpelledItems (item :: rest) (before ++ cs ++ after ++ ',' :: ds)

inductive SpelledFields : List (String × Json) → List Char → Prop where
  | last (key : String) (value : Json) (before colon after cs : List Char) (blank : Blanks before)
      (blank' : Blanks colon) (blank'' : Blanks after) (own : Spelled value cs) :
      SpelledFields [(key, value)] (before ++ quoted key ++ ':' :: colon ++ cs ++ after)
  | more (key : String) (value : Json) (rest : List (String × Json)) (before colon after cs ds : List Char)
      (blank : Blanks before) (blank' : Blanks colon) (blank'' : Blanks after) (own : Spelled value cs)
      (others : SpelledFields rest ds) :
      SpelledFields ((key, value) :: rest) (before ++ quoted key ++ ':' :: colon ++ cs ++ after ++ ',' :: ds)

end

theorem skip_blank (c : Char) (rest : List Char) (blank : IsBlank c) : skipSpace (c :: rest) = skipSpace rest :=
  if_pos blank

theorem skip_token (c : Char) (rest : List Char) (token : ¬ IsBlank c) : skipSpace (c :: rest) = c :: rest :=
  if_neg token

theorem skip_blanks (gap rest : List Char) (blank : Blanks gap) : skipSpace (gap ++ rest) = skipSpace rest := by
  induction gap with
  | nil => rfl
  | cons c gap ih =>
      rw [List.cons_append, skip_blank c _ (blank c List.mem_cons_self)]
      exact ih fun d later => blank d (List.mem_cons_of_mem c later)

theorem skip_skip (cs : List Char) : skipSpace (skipSpace cs) = skipSpace cs := by
  induction cs with
  | nil => rfl
  | cons c rest ih =>
      by_cases blank : IsBlank c
      · rw [skip_blank c rest blank, ih]
      · rw [skip_token c rest blank, skip_token c rest blank]

theorem value_skip (fuel : Nat) (cs : List Char) : value? fuel (skipSpace cs) = value? fuel cs := by
  cases fuel with
  | zero => rfl
  | succ fuel => rw [value?, value?, skip_skip]

theorem items_skip (fuel : Nat) (done : List Json) (cs : List Char) :
    items? fuel done (skipSpace cs) = items? fuel done cs := by
  cases fuel with
  | zero => rfl
  | succ fuel => rw [items?, items?, value_skip]

theorem fields_skip (fuel : Nat) (done : List (String × Json)) (cs : List Char) :
    fields? fuel done (skipSpace cs) = fields? fuel done cs := by
  cases fuel with
  | zero => rfl
  | succ fuel => rw [fields?, fields?, skip_skip]

theorem value_after_blanks (fuel : Nat) (gap rest : List Char) (blank : Blanks gap) :
    value? fuel (gap ++ rest) = value? fuel rest := by
  rw [← value_skip, skip_blanks gap rest blank, value_skip]

theorem control_back (c : Char) (rest : List Char) (control : c < ' ') :
    unicodeEscape? ('0' :: '0' :: Text.hexDigit (c.toNat / 16) :: Text.hexDigit (c.toNat % 16) :: rest) =
      some (c, rest) := by
  have small : c.toNat < 32 := control
  have zero : Text.hexValue? '0' = some 0 := by decide
  have high := Text.hex_value_of_digit (c.toNat / 16) (by omega)
  have low := Text.hex_value_of_digit (c.toNat % 16) (by omega)
  have whole : 16 * (c.toNat / 16) + c.toNat % 16 = c.toNat := Nat.div_add_mod c.toNat 16
  have unit : unit? ('0' :: '0' :: Text.hexDigit (c.toNat / 16) :: Text.hexDigit (c.toNat % 16) :: rest) =
      some (c.toNat, rest) := by
    simp [unit?, zero, high, low, whole]
  have notHigh : ¬ (0xD800 ≤ c.toNat ∧ c.toNat < 0xDC00) := by omega
  have notLow : ¬ (0xDC00 ≤ c.toNat ∧ c.toNat < 0xE000) := by omega
  simp [unicodeEscape?, unit, notHigh, notLow]

-- Each escaped character takes one step of the reader.
theorem string_step (fuel : Nat) (done : List Char) (c : Char) (rest : List Char) :
    string? (fuel + 1) done (escape c ++ rest) = string? fuel (c :: done) rest := by
  unfold escape
  split
  · rfl
  · rfl
  · rfl
  · rfl
  · rename_i quote backslash newline tab
    by_cases carriage : c = '\x0d'
    · rw [if_pos carriage, carriage]
      rfl
    rw [if_neg carriage]
    by_cases backspace : c = '\x08'
    · rw [if_pos backspace, backspace]
      rfl
    rw [if_neg backspace]
    by_cases feed : c = '\x0c'
    · rw [if_pos feed, feed]
      rfl
    rw [if_neg feed]
    by_cases control : c < ' '
    · rw [if_pos control]
      simp [string?, control_back c rest control]
    · rw [if_neg control]
      simp only [List.singleton_append]
      rw [string?, if_neg control]
      · exact quote
      · exact fun _ same _ => backslash same
      · exact fun _ _ same _ => backslash same

theorem string_back (s : List Char) (fuel : Nat) (done rest : List Char) (enough : s.length < fuel) :
    string? fuel done (s.flatMap escape ++ '"' :: rest) = some (String.ofList (done.reverse ++ s), rest) := by
  induction s generalizing fuel done with
  | nil =>
      obtain ⟨fuel, rfl⟩ := Nat.exists_eq_add_one_of_ne_zero (Nat.ne_zero_of_lt enough)
      simp [string?]
  | cons c s ih =>
      obtain ⟨fuel, rfl⟩ := Nat.exists_eq_add_one_of_ne_zero (Nat.ne_zero_of_lt enough)
      rw [List.flatMap_cons, List.append_assoc, string_step, ih fuel (c :: done) (Nat.lt_of_succ_lt_succ enough)]
      simp

theorem escape_length (c : Char) : 0 < (escape c).length := by
  unfold escape
  repeat' split
  all_goals exact Nat.succ_pos _

theorem length_le_escaped (s : List Char) : s.length ≤ (s.flatMap escape).length := by
  induction s with
  | nil => exact Nat.le_refl 0
  | cons c s ih =>
      have step := escape_length c
      simp only [List.flatMap_cons, List.length_append, List.length_cons]
      omega

theorem quoted_back (s : String) (rest : List Char) :
    string? ((s.toList.flatMap escape ++ '"' :: rest).length + 1) [] (s.toList.flatMap escape ++ '"' :: rest) =
      some (s, rest) := by
  have shorter := length_le_escaped s.toList
  rw [string_back]
  · simp
  · simp only [List.length_append]
    omega

theorem quoted_append (s : String) (rest : List Char) :
    quoted s ++ rest = '"' :: (s.toList.flatMap escape ++ '"' :: rest) := by
  simp [quoted]

theorem spelled_head (j : Json) (cs : List Char) (spelled : Spelled j cs) :
    ∃ c more, cs = c :: more ∧ ¬ IsBlank c ∧ c ≠ ']' := by
  cases spelled <;> exact ⟨_, _, rfl, by decide, by decide⟩

theorem items_head (items : List Json) (cs rest : List Char) (spelled : SpelledItems items cs) :
    ∃ c more, skipSpace (cs ++ rest) = c :: more ∧ c ≠ ']' := by
  have start (item : Json) (before ds others : List Char) (blank : Blanks before) (own : Spelled item ds) :
      ∃ c more, skipSpace (before ++ (ds ++ others)) = c :: more ∧ c ≠ ']' := by
    obtain ⟨c, more, rfl, token, different⟩ := spelled_head item ds own
    exact ⟨c, more ++ others, by rw [skip_blanks _ _ blank, List.cons_append, skip_token c _ token], different⟩
  cases spelled with
  | last item before ds after blank blank' own =>
      simpa only [List.append_assoc] using start item before ds (after ++ rest) blank own
  | more item later before ds after es blank blank' own others =>
      simpa only [List.append_assoc, List.cons_append] using
        start item before ds (after ++ ',' :: (es ++ rest)) blank own

theorem fields_head (fields : List (String × Json)) (cs rest : List Char) (spelled : SpelledFields fields cs) :
    ∃ more, skipSpace (cs ++ rest) = '"' :: more := by
  have start (key : String) (before others : List Char) (blank : Blanks before) :
      ∃ more, skipSpace (before ++ (quoted key ++ others)) = '"' :: more :=
    ⟨_, by rw [skip_blanks _ _ blank, quoted_append, skip_token _ _ (by decide)]⟩
  cases spelled with
  | last key value before colon after ds blank blank' blank'' own =>
      simpa only [List.append_assoc] using start key before _ blank
  | more key value later before colon after ds es blank blank' blank'' own others =>
      simpa only [List.append_assoc] using start key before _ blank

-- What is read with so much fuel: every text that is shorter.
structure Reads (fuel : Nat) : Prop where
  value : ∀ (j : Json) (cs rest : List Char), Spelled j cs → cs.length < fuel →
    value? fuel (cs ++ rest) = some (j, rest)
  items : ∀ (items : List Json) (cs rest : List Char) (done : List Json), SpelledItems items cs →
    cs.length + 1 < fuel → items? fuel done (cs ++ ']' :: rest) = some (arr (done.reverse ++ items), rest)
  fields : ∀ (fields : List (String × Json)) (cs rest : List Char) (done : List (String × Json)),
    SpelledFields fields cs → cs.length + 1 < fuel →
    fields? fuel done (cs ++ '\x7d' :: rest) = some (obj (done.reverse ++ fields), rest)

section Step

variable (fuel : Nat) (ih : Reads fuel)

include ih

theorem value_step (j : Json) (cs rest : List Char) (spelled : Spelled j cs) (enough : cs.length < fuel + 1) :
    value? (fuel + 1) (cs ++ rest) = some (j, rest) := by
  cases spelled with
  | null => rfl
  | yes => rfl
  | no => rfl
  | text s =>
      rw [quoted_append, value?, skip_token _ _ (by decide)]
      simp only [quoted_back]
      rfl
  | emptyList gap blank =>
      simp [value?, skip_token, skip_blanks gap _ blank, IsBlank]
  | list items cs inside =>
      obtain ⟨c, more, start, different⟩ := items_head items cs (']' :: rest) inside
      have read := ih.items items cs rest [] inside (by simp at enough; omega)
      rw [← items_skip, start] at read
      rw [List.cons_append, List.cons_append, List.append_assoc, List.singleton_append, value?,
        skip_token '[' _ (by decide)]
      simp only [start]
      split
      · rename_i closed
        exact absurd (List.cons.inj closed).1 different
      · exact read
  | emptyObject gap blank =>
      simp [value?, skip_token, skip_blanks gap _ blank, IsBlank]
  | object fields cs inside =>
      obtain ⟨more, start⟩ := fields_head fields cs ('\x7d' :: rest) inside
      have read := ih.fields fields cs rest [] inside (by simp at enough; omega)
      rw [← fields_skip, start] at read
      simp [value?, skip_token, IsBlank, start, read]

theorem items_step (items : List Json) (cs rest : List Char) (done : List Json) (spelled : SpelledItems items cs)
    (enough : cs.length + 1 < fuel + 1) :
    items? (fuel + 1) done (cs ++ ']' :: rest) = some (arr (done.reverse ++ items), rest) := by
  cases spelled with
  | last item before ds after blank blank' own =>
      have read := ih.value item ds (after ++ ']' :: rest) own (by simp at enough; omega)
      rw [← value_after_blanks fuel before _ blank] at read
      have closed : skipSpace (after ++ ']' :: rest) = ']' :: rest := by
        rw [skip_blanks after _ blank', skip_token _ _ (by decide)]
      simp [items?, read, closed]
  | more item later before ds after es blank blank' own others =>
      have read := ih.value item ds (after ++ ',' :: (es ++ ']' :: rest)) own (by simp at enough; omega)
      rw [← value_after_blanks fuel before _ blank] at read
      have comma : skipSpace (after ++ ',' :: (es ++ ']' :: rest)) = ',' :: (es ++ ']' :: rest) := by
        rw [skip_blanks after _ blank', skip_token _ _ (by decide)]
      have tail := ih.items later es rest (item :: done) others (by simp at enough; omega)
      simp [items?, read, comma, tail]

theorem fields_step (fields : List (String × Json)) (cs rest : List Char) (done : List (String × Json))
    (spelled : SpelledFields fields cs) (enough : cs.length + 1 < fuel + 1) :
    fields? (fuel + 1) done (cs ++ '\x7d' :: rest) = some (obj (done.reverse ++ fields), rest) := by
  cases spelled with
  | last key value before colon after ds blank blank' blank'' own =>
      have read := ih.value value ds (after ++ '\x7d' :: rest) own (by simp at enough; omega)
      rw [← value_after_blanks fuel colon _ blank'] at read
      have closed : skipSpace (after ++ '\x7d' :: rest) = '\x7d' :: rest := by
        rw [skip_blanks after _ blank'', skip_token _ _ (by decide)]
      simp only [List.append_assoc, List.cons_append]
      rw [fields?, skip_blanks before _ blank, quoted_append, skip_token _ _ (by decide)]
      simp only [quoted_back]
      simp [skip_token ':' _ (by decide), read, closed]
  | more key value later before colon after ds es blank blank' blank'' own others =>
      have read := ih.value value ds (after ++ ',' :: (es ++ '\x7d' :: rest)) own (by simp at enough; omega)
      rw [← value_after_blanks fuel colon _ blank'] at read
      have comma : skipSpace (after ++ ',' :: (es ++ '\x7d' :: rest)) = ',' :: (es ++ '\x7d' :: rest) := by
        rw [skip_blanks after _ blank'', skip_token _ _ (by decide)]
      have tail := ih.fields later es rest ((key, value) :: done) others (by simp at enough; omega)
      simp only [List.append_assoc, List.cons_append]
      rw [fields?, skip_blanks before _ blank, quoted_append, skip_token _ _ (by decide)]
      simp only [quoted_back]
      simp [skip_token ':' _ (by decide), read, comma, tail]

end Step

theorem reads (fuel : Nat) : Reads fuel := by
  induction fuel with
  | zero =>
      exact ⟨fun _ _ _ _ none => absurd none (Nat.not_lt_zero _),
        fun _ _ _ _ _ none => absurd none (Nat.not_lt_zero _),
        fun _ _ _ _ _ none => absurd none (Nat.not_lt_zero _)⟩
  | succ fuel ih => exact ⟨value_step fuel ih, items_step fuel ih, fields_step fuel ih⟩

theorem parse_spelled (j : Json) (text : String) (before cs after : List Char) (blank : Blanks before)
    (blank' : Blanks after) (spelled : Spelled j cs) (whole : text.toList = before ++ cs ++ after) :
    parse? text = some j := by
  have read := (reads (text.toList.length + 1)).value j cs after spelled (by simp [whole]; omega)
  rw [← value_after_blanks _ before _ blank, ← List.append_assoc, ← whole] at read
  have nothing : skipSpace after = [] := by simpa [skipSpace] using skip_blanks after [] blank'
  simp [parse?, read, nothing]

mutual

def numberless : Json → Bool
  | int _ | decimal _ => false
  | arr items => numberlessItems items
  | obj fields => numberlessFields fields
  | null | bool _ | str _ => true

def numberlessItems : List Json → Bool
  | [] => true
  | item :: rest => numberless item && numberlessItems rest

def numberlessFields : List (String × Json) → Bool
  | [] => true
  | (_, value) :: rest => numberless value && numberlessFields rest

end

section Written

variable {α : Type} {written : α → Json → Prop} (plain : ∀ a j, written a j → j.numberless = true)

include plain

theorem numberless_list (items : List α) (j : Json) (whole : WrittenList written items j) : j.numberless = true := by
  obtain ⟨js, same, rfl⟩ := whole
  simp only [numberless]
  induction same with
  | nil => rfl
  | cons own _ ih => simp [numberlessItems, plain _ _ own, ih]

theorem numberless_map (m : KeyMap α) (j : Json) (whole : WrittenMap written m j) : j.numberless = true := by
  obtain ⟨entries, fields, order, same, rfl⟩ := whole
  simp only [numberless]
  clear order
  induction same with
  | nil => rfl
  | cons own _ ih => simp [numberlessFields, plain _ _ own.2, ih]

end Written

theorem blanks_nil : Blanks [] := fun _ member => nomatch member

theorem quote_chars (s : String) : (quote s).toList = quoted s := by
  simp [quote, quoted]

mutual

theorem spelled_compact (j : Json) (plain : j.numberless = true) : Spelled j (compact j).toList := by
  cases j with
  | null => exact .null
  | bool b =>
      cases b with
      | true => exact .yes
      | false => exact .no
  | int n => cases plain
  | decimal text => cases plain
  | str s =>
      rw [compact, quote_chars]
      exact .text s
  | arr items =>
      cases items with
      | nil => exact .emptyList [] blanks_nil
      | cons item rest =>
          obtain ⟨first, others⟩ := (Bool.and_eq_true _ _).mp plain
          have inside := spelled_compact_items item rest (spelled_compact item first) others
          simpa [compact] using Spelled.list _ _ inside
  | obj fields =>
      cases fields with
      | nil => exact .emptyObject [] blanks_nil
      | cons field rest =>
          obtain ⟨first, others⟩ := (Bool.and_eq_true _ _).mp plain
          have inside := spelled_compact_fields field.1 field.2 rest (spelled_compact field.2 first) others
          simpa [compact, opening, closing] using Spelled.object _ _ inside

theorem spelled_compact_items (item : Json) (rest : List Json) (own : Spelled item (compact item).toList)
    (plain : numberlessItems rest = true) :
    SpelledItems (item :: rest) (compactItems (item :: rest)).toList := by
  cases rest with
  | nil => simpa [compactItems] using SpelledItems.last item [] _ [] blanks_nil blanks_nil own
  | cons next later =>
      obtain ⟨second, others⟩ := (Bool.and_eq_true _ _).mp plain
      have tail := spelled_compact_items next later (spelled_compact next second) others
      simpa [compactItems] using SpelledItems.more item _ [] _ [] _ blanks_nil blanks_nil own tail

theorem spelled_compact_fields (key : String) (value : Json) (rest : List (String × Json))
    (own : Spelled value (compact value).toList) (plain : numberlessFields rest = true) :
    SpelledFields ((key, value) :: rest) (compactFields ((key, value) :: rest)).toList := by
  cases rest with
  | nil =>
      simpa [compactFields, quote_chars] using
        SpelledFields.last key value [] [] [] _ blanks_nil blanks_nil blanks_nil own
  | cons next later =>
      obtain ⟨second, others⟩ := (Bool.and_eq_true _ _).mp plain
      have tail := spelled_compact_fields next.1 next.2 later (spelled_compact next.2 second) others
      simpa [compactFields, quote_chars] using
        SpelledFields.more key value _ [] [] [] _ _ blanks_nil blanks_nil blanks_nil own tail

end

theorem parse_compact (j : Json) (plain : j.numberless = true) : parse? (compact j) = some j :=
  parse_spelled j _ [] _ [] blanks_nil blanks_nil (spelled_compact j plain) (by simp)

def lineStart (level : Nat) : List Char := '\n' :: List.replicate (2 * level) ' '

theorem line_start_blank (level : Nat) : Blanks (lineStart level) := by
  intro c member
  rcases List.mem_cons.mp member with rfl | space
  · exact Or.inr (Or.inr (Or.inl rfl))
  · exact Or.inl (List.eq_of_mem_replicate space)

mutual

theorem spelled_indented (level : Nat) (j : Json) (plain : j.numberless = true) :
    Spelled j (indented level j).toList := by
  cases j with
  | null => simpa [indented] using spelled_compact null plain
  | bool b => simpa [indented] using spelled_compact (bool b) plain
  | int n => cases plain
  | decimal text => cases plain
  | str s => simpa [indented] using spelled_compact (str s) plain
  | arr items =>
      cases items with
      | nil => simpa [indented] using Spelled.emptyList [] blanks_nil
      | cons item rest =>
          obtain ⟨first, others⟩ := (Bool.and_eq_true _ _).mp plain
          have inside := spelled_indented_items level item rest (spelled_indented (level + 1) item first) others
          simpa [indented, indentation, lineStart] using Spelled.list _ _ inside
  | obj fields =>
      cases fields with
      | nil => simpa [indented, opening, closing] using Spelled.emptyObject [] blanks_nil
      | cons field rest =>
          obtain ⟨first, others⟩ := (Bool.and_eq_true _ _).mp plain
          have inside := spelled_indented_fields level field.1 field.2 rest
            (spelled_indented (level + 1) field.2 first) others
          simpa [indented, indentation, lineStart, opening, closing, quote_chars] using Spelled.object _ _ inside

theorem spelled_indented_items (level : Nat) (item : Json) (rest : List Json)
    (own : Spelled item (indented (level + 1) item).toList) (plain : numberlessItems rest = true) :
    SpelledItems (item :: rest) (lineStart (level + 1) ++ (indented (level + 1) item).toList ++
      (indentedItems level rest).toList ++ lineStart level) := by
  cases rest with
  | nil =>
      simpa [indentedItems] using
        SpelledItems.last item _ _ _ (line_start_blank (level + 1)) (line_start_blank level) own
  | cons next later =>
      obtain ⟨second, others⟩ := (Bool.and_eq_true _ _).mp plain
      have tail := spelled_indented_items level next later (spelled_indented (level + 1) next second) others
      simpa [indentedItems, indentation, lineStart] using
        SpelledItems.more item _ _ _ [] _ (line_start_blank (level + 1)) blanks_nil own tail

theorem spelled_indented_fields (level : Nat) (key : String) (value : Json) (rest : List (String × Json))
    (own : Spelled value (indented (level + 1) value).toList) (plain : numberlessFields rest = true) :
    SpelledFields ((key, value) :: rest) (lineStart (level + 1) ++ quoted key ++ ':' :: [' '] ++
      (indented (level + 1) value).toList ++ (indentedFields level rest).toList ++ lineStart level) := by
  have space : Blanks [' '] := fun c member => Or.inl (List.mem_singleton.mp member)
  cases rest with
  | nil =>
      simpa [indentedFields] using
        SpelledFields.last key value _ [' '] _ _ (line_start_blank (level + 1)) space (line_start_blank level) own
  | cons next later =>
      obtain ⟨second, others⟩ := (Bool.and_eq_true _ _).mp plain
      have tail := spelled_indented_fields level next.1 next.2 later
        (spelled_indented (level + 1) next.2 second) others
      simpa [indentedFields, indentation, lineStart, quote_chars] using
        SpelledFields.more key value _ _ [' '] [] _ _ (line_start_blank (level + 1)) space blanks_nil own tail

end

theorem parse_pretty (j : Json) (plain : j.numberless = true) : parse? (pretty j ++ "\n") = some j :=
  parse_spelled j _ [] _ ['\n'] blanks_nil (line_start_blank 0) (spelled_indented 0 j plain) (by simp [pretty])

end PairwiseId.Json
