import PairwiseId.Toml.Parse
import PairwiseId.Toml.Quoted

/- A text is read back as it was written, whichever quotes it stands between. Between tripled
   quotes it may hold some quotes of its own, but no more than two of them in a row, so that
   those at its end and the closing ones can be told apart by their number. -/
namespace PairwiseId.Toml

set_option autoImplicit false

open Text

-- What follows a backslash for a character. It does not look like a joined line.
structure Escapes (c : Char) (piece : List Char) : Prop where
  read : ∀ more, escape? (piece ++ more) = some (c, more)
  glued : ∀ more, skipBreak? (piece ++ more) = none

def Plain (c : Char) : Prop := c ≠ '\\' ∧ isControl c = false

instance (c : Char) : Decidable (Plain c) := inferInstanceAs (Decidable (_ ∧ _))

theorem hex_value_upper : ∀ n < 16, hexValue? (upperHexDigit n) = some n := by decide

theorem code_point_read (c : Char) (more : List Char) (small : c.toNat < 0x80) :
    codePoint? 4 ('0' :: '0' :: upperHexDigit (c.toNat / 16) :: upperHexDigit (c.toNat % 16) :: more) =
      some (c, more) := by
  have high := hex_value_upper (c.toNat / 16) (by omega)
  have low := hex_value_upper (c.toNat % 16) (by omega)
  have zero : hexValue? '0' = some 0 := by decide
  have whole : 16 * (c.toNat / 16) + c.toNat % 16 = c.toNat := by omega
  have valid : c.toNat < 1114112 ∧ ¬ (55296 ≤ c.toNat ∧ c.toNat < 57344) := by omega
  simp only [codePoint?, List.take_succ_cons, List.take_zero, List.mapM_cons, List.mapM_nil, zero, high, low,
    Option.bind_eq_bind, Option.bind_some, Option.pure_def, List.foldl_cons, List.foldl_nil, Nat.mul_zero,
    Nat.zero_add, whole]
  simp [valid]

theorem escapes_letter (c e : Char) (read : ∀ more, escape? (e :: more) = some (c, more))
    (visible : isSpace e = false ∧ e ≠ '\n' ∧ e ≠ '\x0d') : Escapes c [e] := by
  obtain ⟨solid, noBreak, noReturn⟩ := visible
  refine ⟨read, fun more => ?_⟩
  simp [skipBreak?, skipSpace, solid, noBreak, noReturn]

theorem escaped_cases (c : Char) (noBreak : c ≠ '\n') :
    escaped c = [c] ∧ Plain c ∨ ∃ piece, escaped c = '\\' :: piece ∧ Escapes c piece := by
  unfold escaped
  split
  · rename_i same
    exact .inr ⟨_, rfl, escapes_letter c 'b' (fun _ => by rw [same]; rfl) (by decide)⟩
  split
  · rename_i same
    exact .inr ⟨_, rfl, escapes_letter c 't' (fun _ => by rw [same]; rfl) (by decide)⟩
  split
  · rename_i same
    exact .inr ⟨_, rfl, escapes_letter c 'f' (fun _ => by rw [same]; rfl) (by decide)⟩
  split
  · rename_i same
    exact .inr ⟨_, rfl, escapes_letter c 'r' (fun _ => by rw [same]; rfl) (by decide)⟩
  split
  · rename_i same
    exact .inr ⟨_, rfl, escapes_letter c '\\' (fun _ => by rw [same]; rfl) (by decide)⟩
  split
  · rename_i needed
    have small : c.toNat < 0x80 := by
      simp only [needsEscape, Bool.or_eq_true, Bool.and_eq_true, decide_eq_true_eq, beq_iff_eq] at needed
      rcases needed with ⟨⟨below, _⟩, _⟩ | rfl
      · have : c.toNat < ' '.toNat := below
        have : ' '.toNat = 32 := by decide
        omega
      · decide
    refine .inr ⟨_, rfl, fun more => ?_, fun more => rfl⟩
    exact code_point_read c more small
  · rename_i noTab _ _ noSlash plain
    refine .inl ⟨rfl, noSlash, ?_⟩
    simpa [needsEscape, isControl, noTab, noBreak] using plain

theorem basic_char_cases (c : Char) :
    basicChar c = [c] ∧ c ≠ '"' ∧ Plain c ∨ ∃ piece, basicChar c = '\\' :: piece ∧ Escapes c piece := by
  unfold basicChar
  split
  · rename_i same
    exact .inr ⟨_, rfl, escapes_letter c '"' (fun _ => by rw [same]; rfl) (by decide)⟩
  split
  · rename_i same
    exact .inr ⟨_, rfl, escapes_letter c 'n' (fun _ => by rw [same]; rfl) (by decide)⟩
  · rename_i noQuote noBreak
    rcases escaped_cases c noBreak with ⟨own, plain⟩ | escapes
    · exact .inl ⟨own, noQuote, plain⟩
    · exact .inr escapes

-- The readers keep what they have read in reverse.
theorem done_next (done text : List Char) (c : Char) :
    (c :: done).reverse ++ text = done.reverse ++ c :: text := by
  rw [List.reverse_cons, List.append_assoc, List.singleton_append]

theorem basic_read (cs rest done : List Char) (fuel : Nat) (enough : (cs.flatMap basicChar).length < fuel) :
    basic? fuel done (cs.flatMap basicChar ++ '"' :: rest) = some (String.ofList (done.reverse ++ cs), rest) := by
  induction cs generalizing done fuel with
  | nil =>
      obtain ⟨fuel, rfl⟩ : ∃ n, fuel = n + 1 := Nat.exists_eq_add_one.mpr enough
      simp [basic?]
  | cons c cs ih =>
      obtain ⟨fuel, rfl⟩ : ∃ n, fuel = n + 1 := Nat.exists_eq_add_one.mpr (Nat.zero_lt_of_lt enough)
      rw [List.flatMap_cons, List.length_append] at enough
      rw [List.flatMap_cons, List.append_assoc]
      rcases basic_char_cases c with ⟨own, noQuote, noSlash, noControl⟩ | ⟨piece, own, escapes⟩
      · rw [own, List.length_singleton] at enough
        have next := ih (c :: done) fuel (by omega)
        rw [own, List.singleton_append, basic?]
        · simp only [noControl, Bool.false_eq_true, if_false, next, done_next]
        · exact noQuote
        · exact noSlash
      · rw [own, List.length_cons] at enough
        have next := ih (c :: done) fuel (by omega)
        rw [own, List.cons_append, basic?]
        simp only [escapes.read, Option.bind_eq_bind, Option.bind_some, next, done_next]

theorem literal_read (cs rest done : List Char)
    (plain : ∀ c ∈ cs, c ≠ '\'' ∧ isControl c = false) :
    literal? done (cs ++ '\'' :: rest) = some (String.ofList (done.reverse ++ cs), rest) := by
  induction cs generalizing done with
  | nil => simp [literal?]
  | cons c cs ih =>
      obtain ⟨noQuote, noControl⟩ := plain c List.mem_cons_self
      have next := ih (c :: done) fun d member => plain d (List.mem_cons_of_mem c member)
      rw [List.cons_append, literal?]
      · simp only [noControl, Bool.false_eq_true, if_false, next, done_next]
      · exact noQuote

-- How a text may stand between tripled quotes, behind `run` quotes of its own.
inductive Spelled (quote : Char) (escapes : Bool) : Nat → List Char → List Char → Prop where
  | nil (run : Nat) : Spelled quote escapes run [] []
  | quote (run : Nat) (text written : List Char) (few : run < 2)
      (rest : Spelled quote escapes (run + 1) text written) :
      Spelled quote escapes run (quote :: text) (quote :: written)
  | plain (run : Nat) (c : Char) (text written : List Char) (noQuote : c ≠ quote) (plain : Plain c)
      (rest : Spelled quote escapes 0 text written) : Spelled quote escapes run (c :: text) (c :: written)
  | lineBreak (run : Nat) (text written : List Char) (rest : Spelled quote escapes 0 text written) :
      Spelled quote escapes run ('\n' :: text) ('\n' :: written)
  | escape (run : Nat) (c : Char) (text piece written : List Char) (known : escapes = true)
      (own : Escapes c piece) (rest : Spelled quote escapes 0 text written) :
      Spelled quote escapes run (c :: text) ('\\' :: (piece ++ written))
  | slash (run : Nat) (text written : List Char) (unknown : escapes = false)
      (rest : Spelled quote escapes 0 text written) :
      Spelled quote escapes run ('\\' :: text) ('\\' :: written)

def closingQuotes (quote : Char) : List Char := List.replicate 3 quote

section Lines

variable {quote : Char} (mark : quote = '"' ∨ quote = '\'') {escapes : Bool}

include mark

theorem mark_plain : quote ≠ '\n' ∧ Plain quote := by
  rcases mark with rfl | rfl <;> decide

-- What is left is either quotes only, which all belong to the text, or too few of them for an end.
theorem spelled_quotes (run : Nat) (text written rest : List Char) (few : run ≤ 2)
    (spelled : Spelled quote escapes run text written) :
    (∃ count, count ≤ 2 ∧ text = List.replicate count quote ∧ written = text) ∨
      ((written ++ (closingQuotes quote ++ rest)).takeWhile (· == quote)).length ≤ 2 := by
  have counted : (∃ count, count + run ≤ 2 ∧ text = List.replicate count quote ∧ written = text) ∨
      ((written ++ (closingQuotes quote ++ rest)).takeWhile (· == quote)).length + run ≤ 2 := by
    have other (c : Char) (cs : List Char) (differs : c ≠ quote) : (c :: cs).takeWhile (· == quote) = [] := by
      simp [differs]
    obtain ⟨noBreak, noSlash, _⟩ := mark_plain mark
    induction spelled with
    | nil run => exact .inl ⟨0, by omega, rfl, rfl⟩
    | quote run text written below others ih =>
        rcases ih (by omega) with ⟨count, bound, rfl, rfl⟩ | short
        · exact .inl ⟨count + 1, by omega, rfl, rfl⟩
        · refine .inr ?_
          simp only [List.cons_append, List.takeWhile_cons, BEq.rfl, if_true, List.length_cons]
          omega
    | plain run c text written noQuote plain others ih => exact .inr (by simpa [other, noQuote] using few)
    | lineBreak run text written others ih => exact .inr (by simpa [other, noBreak.symm] using few)
    | escape run c text piece written known own others ih => exact .inr (by simpa [other, noSlash.symm] using few)
    | slash run text written unknown others ih => exact .inr (by simpa [other, noSlash.symm] using few)
  rcases counted with ⟨count, bound, same, own⟩ | short
  · exact .inl ⟨count, by omega, same, own⟩
  · exact .inr (by omega)

omit mark in
theorem closing_end (count : Nat) (done rest : List Char) (few : count ≤ 2) (apart : rest.head? ≠ some quote) :
    closing? quote done (List.replicate count quote ++ (closingQuotes quote ++ rest)) =
      some (String.ofList (done.reverse ++ List.replicate count quote), rest) := by
  have stop : rest.takeWhile (· == quote) = [] := by
    cases rest with
    | nil => rfl
    | cons c more => exact List.takeWhile_cons_of_neg (by simpa using apart)
  have whole : List.replicate count quote ++ (closingQuotes quote ++ rest) =
      List.replicate (count + 3) quote ++ rest := by
    rw [closingQuotes, ← List.append_assoc, List.replicate_append_replicate]
  have run : (List.replicate (count + 3) quote ++ rest).takeWhile (· == quote) = List.replicate (count + 3) quote := by
    rw [List.takeWhile_append_of_pos (by simp), stop, List.append_nil]
  have kept : min (count + 3 - 3) 2 = count := by omega
  rw [whole, closing?]
  simp only [run, List.length_replicate, kept, Nat.le_add_left, if_true,
    List.drop_append_of_le_length, List.drop_replicate, Nat.le_refl, Nat.sub_self, List.replicate_zero,
    List.nil_append]

omit mark in
theorem closing_none (done cs : List Char) (short : (cs.takeWhile (· == quote)).length ≤ 2) :
    closing? quote done cs = none := by
  rw [closing?]
  simp only [if_neg (Nat.not_le.mpr (Nat.lt_succ_of_le short))]

omit mark in
theorem closing_other (done : List Char) (c : Char) (cs : List Char) (differs : c ≠ quote) :
    closing? quote done (c :: cs) = none :=
  closing_none done (c :: cs) (by simp [differs])

omit mark in
theorem lines_end (done cs : List Char) (fuel : Nat) (result : String × List Char)
    (ended : closing? quote done cs = some result) : lines? quote escapes (fuel + 1) done cs = some result := by
  rw [lines?.eq_def]
  simp only [ended]

omit mark in
theorem lines_plain (done : List Char) (c : Char) (cs : List Char) (fuel : Nat) (plain : Plain c)
    (goesOn : closing? quote done (c :: cs) = none) :
    lines? quote escapes (fuel + 1) done (c :: cs) = lines? quote escapes fuel (c :: done) cs := by
  obtain ⟨noSlash, noControl⟩ := plain
  rw [lines?, goesOn]
  · simp [noControl]
  · rintro _ rfl
    cases noControl
  · rintro rfl
    cases noControl
  · exact noSlash

theorem lines_read (run : Nat) (text written rest done : List Char) (fuel : Nat) (few : run ≤ 2)
    (spelled : Spelled quote escapes run text written) (apart : rest.head? ≠ some quote)
    (enough : text.length < fuel) :
    lines? quote escapes fuel done (written ++ (closingQuotes quote ++ rest)) =
      some (String.ofList (done.reverse ++ text), rest) := by
  obtain ⟨noBreak, plainMark⟩ := mark_plain mark
  induction spelled generalizing done fuel with
  | nil run =>
      obtain ⟨fuel, rfl⟩ : ∃ n, fuel = n + 1 := Nat.exists_eq_add_one.mpr enough
      exact lines_end done _ fuel _ (closing_end 0 done rest (by omega) apart)
  | quote run text written below others ih =>
      obtain ⟨fuel, rfl⟩ : ∃ n, fuel = n + 1 := Nat.exists_eq_add_one.mpr (Nat.zero_lt_of_lt enough)
      rcases spelled_quotes mark run _ _ rest few (.quote run text written below others) with
        ⟨count, bound, same, own⟩ | short
      · rw [own, same]
        exact lines_end done _ fuel _ (closing_end count done rest bound apart)
      · have next := ih (quote :: done) fuel (by omega) (Nat.lt_of_succ_lt_succ enough)
        rw [List.cons_append] at short ⊢
        rw [lines_plain done quote _ fuel plainMark (closing_none done _ short), next, done_next]
  | plain run c text written noQuote plain others ih =>
      obtain ⟨fuel, rfl⟩ : ∃ n, fuel = n + 1 := Nat.exists_eq_add_one.mpr (Nat.zero_lt_of_lt enough)
      have next := ih (c :: done) fuel (by omega) (Nat.lt_of_succ_lt_succ enough)
      rw [List.cons_append, lines_plain done c _ fuel plain (closing_other done c _ noQuote), next, done_next]
  | lineBreak run text written others ih =>
      obtain ⟨fuel, rfl⟩ : ∃ n, fuel = n + 1 := Nat.exists_eq_add_one.mpr (Nat.zero_lt_of_lt enough)
      have next := ih ('\n' :: done) fuel (by omega) (Nat.lt_of_succ_lt_succ enough)
      rw [List.cons_append, lines?, closing_other done _ _ noBreak.symm]
      exact next.trans (by rw [done_next])
  | escape run c text piece written known own others ih =>
      obtain ⟨fuel, rfl⟩ : ∃ n, fuel = n + 1 := Nat.exists_eq_add_one.mpr (Nat.zero_lt_of_lt enough)
      have next := ih (c :: done) fuel (by omega) (Nat.lt_of_succ_lt_succ enough)
      rw [List.cons_append, List.append_assoc, lines?, closing_other done _ _ plainMark.1.symm]
      simp only [known, if_true, own.glued, own.read, Option.bind_eq_bind, Option.bind_some]
      rw [known] at next
      rw [next, done_next]
  | slash run text written unknown others ih =>
      obtain ⟨fuel, rfl⟩ : ∃ n, fuel = n + 1 := Nat.exists_eq_add_one.mpr (Nat.zero_lt_of_lt enough)
      have next := ih ('\\' :: done) fuel (by omega) (Nat.lt_of_succ_lt_succ enough)
      rw [List.cons_append, lines?, closing_other done _ _ plainMark.1.symm]
      simp only [unknown, Bool.false_eq_true, if_false]
      rw [unknown] at next
      rw [next, done_next]

end Lines

theorem spelled_basic_lines (run : Nat) (few : run ≤ 2) (cs : List Char) :
    Spelled '"' true run cs (basicLinesChars run cs) := by
  induction cs generalizing run with
  | nil => exact .nil run
  | cons c cs ih =>
      unfold basicLinesChars
      split
      · rename_i same
        subst same
        split
        · rename_i below
          exact .quote run cs _ below (ih (run + 1) below)
        · have own : Escapes '"' ['"'] := escapes_letter _ '"' (fun _ => rfl) (by decide)
          exact .escape run '"' cs _ _ rfl own (ih 0 (by omega))
      · rename_i noQuote
        split
        · rename_i same
          subst same
          exact .lineBreak run cs _ (ih 0 (by omega))
        · rename_i noBreak
          rcases escaped_cases c noBreak with ⟨own, plain⟩ | ⟨piece, own, escapes⟩
          · rw [own]
            exact .plain run c cs _ noQuote plain (ih 0 (by omega))
          · rw [own]
            exact .escape run c cs piece _ rfl escapes (ih 0 (by omega))

theorem longest_run_le (quote : Char) (current : Nat) (cs : List Char) : current ≤ longestRun quote current cs := by
  induction cs generalizing current with
  | nil => exact Nat.le_refl current
  | cons c cs ih =>
      unfold longestRun
      split
      · exact Nat.le_of_succ_le (ih (current + 1))
      · exact Nat.le_max_left _ _

theorem spelled_literal_lines (run : Nat) (cs : List Char) (few : longestRun '\'' run cs ≤ 2)
    (plain : ∀ c ∈ cs, needsEscape c = false) : Spelled '\'' false run cs cs := by
  induction cs generalizing run with
  | nil => exact .nil run
  | cons c cs ih =>
      have others (run : Nat) (few : longestRun '\'' run cs ≤ 2) :=
        ih run few fun d member => plain d (List.mem_cons_of_mem c member)
      have own := plain c List.mem_cons_self
      unfold longestRun at few
      split at few
      · rename_i same
        subst same
        exact .quote run cs cs (Nat.le_trans (longest_run_le _ _ cs) few) (others (run + 1) few)
      · rename_i noQuote
        have rest := others 0 (Nat.le_trans (Nat.le_max_right _ _) few)
        by_cases slash : c = '\\'
        · subst slash
          exact .slash run cs cs rfl rest
        · by_cases lineBreak : c = '\n'
          · subst lineBreak
            exact .lineBreak run cs cs rest
          · have noControl : isControl c = false := by simpa [needsEscape, isControl, lineBreak] using own
            exact .plain run c cs cs noQuote ⟨slash, noControl⟩ rest

theorem no_quote (quote : Char) (cs : List Char) (none : longestRun quote 0 cs = 0) : ∀ c ∈ cs, c ≠ quote := by
  induction cs with
  | nil => exact fun c member => nomatch member
  | cons d cs ih =>
      unfold longestRun at none
      split at none
      · exact absurd none (Nat.ne_of_gt (longest_run_le quote 1 cs))
      · rename_i differs
        have others := ih (Nat.max_eq_zero_iff.mp none).2
        rintro c (_ | ⟨_, member⟩)
        · exact differs
        · exact others c member

-- What the choice of the quotes promises. Double quotes can hold any text.
inductive Fits (cs : List Char) : Style → Prop where
  | basic : Fits cs .basic
  | literal (plain : ∀ c ∈ cs, c ≠ '\'' ∧ isControl c = false) : Fits cs .literal
  | basicLines : Fits cs .basicLines
  | literalLines (few : longestRun '\'' 0 cs ≤ 2) (plain : ∀ c ∈ cs, needsEscape c = false) :
      Fits cs .literalLines

theorem style_fits (cs : List Char) : Fits cs (styleOf cs) := by
  simp only [styleOf]
  split
  · exact .basic
  split
  · rename_i chosen
    obtain ⟨noEscape, noBreak, noSingle⟩ := chosen
    refine .literal fun c member => ⟨no_quote '\'' cs noSingle c member, ?_⟩
    have plain : needsEscape c = false := by simpa using (List.any_eq_false.mp (by simpa using noEscape)) c member
    have differs : c ≠ '\n' := fun same => noBreak (by simpa [same] using member)
    simpa [needsEscape, isControl, differs] using plain
  split
  · exact .basicLines
  split
  · rename_i chosen
    exact .literalLines chosen.2 (by simpa using chosen.1)
  split
  · exact .basicLines
  · exact .basic

theorem skip_no_break (c : Char) (cs : List Char) (noControl : isControl c = false) :
    skipFirstBreak (c :: cs) = c :: cs := by
  unfold skipFirstBreak
  split
  · rename_i same
    cases same
    cases noControl
  · rename_i same
    cases same
    cases noControl
  · rfl

-- A text with line breaks has one more in front, which is skipped. Any other begins with none.
theorem skip_leading_break (quote : Char) (escapes : Bool) (text written rest : List Char)
    (mark : quote = '"' ∨ quote = '\'') (spelled : Spelled quote escapes 0 text written) :
    skipFirstBreak (leadingBreak text ++ (written ++ (closingQuotes quote ++ rest))) =
      written ++ (closingQuotes quote ++ rest) := by
  obtain ⟨_, _, noControl⟩ := mark_plain mark
  unfold leadingBreak
  split
  · rfl
  · rename_i noBreak
    cases spelled with
    | nil => exact skip_no_break quote _ noControl
    | quote _ text written below others => exact skip_no_break quote _ noControl
    | plain _ c text written noQuote plain others => exact skip_no_break c _ plain.2
    | lineBreak _ text written others => simp at noBreak
    | escape _ c text piece written known own others => exact skip_no_break '\\' _ rfl
    | slash _ text written unknown others => exact skip_no_break '\\' _ rfl

theorem spelled_length {quote : Char} {escapes : Bool} (run : Nat) (text written : List Char)
    (spelled : Spelled quote escapes run text written) : text.length ≤ written.length := by
  induction spelled with
  | nil run => exact Nat.le_refl 0
  | quote run text written below others ih => exact Nat.succ_le_succ ih
  | plain run c text written noQuote plain others ih => exact Nat.succ_le_succ ih
  | lineBreak run text written others ih => exact Nat.succ_le_succ ih
  | escape run c text piece written known own others ih =>
      simp only [List.length_cons, List.length_append]
      omega
  | slash run text written unknown others ih => exact Nat.succ_le_succ ih

theorem tripled_read (quote : Char) (escapes : Bool) (text written rest : List Char)
    (mark : quote = '"' ∨ quote = '\'') (spelled : Spelled quote escapes 0 text written)
    (apart : rest.head? ≠ some quote) (fuel : Nat)
    (enough : (leadingBreak text ++ (written ++ (closingQuotes quote ++ rest))).length < fuel) :
    lines? quote escapes fuel []
        (skipFirstBreak (leadingBreak text ++ (written ++ (closingQuotes quote ++ rest)))) =
      some (String.ofList text, rest) := by
  have bound := spelled_length 0 text written spelled
  rw [List.length_append, List.length_append] at enough
  rw [skip_leading_break quote escapes text written rest mark spelled]
  exact lines_read mark 0 text written rest [] fuel (Nat.zero_le 2) spelled apart (by omega)

-- The second or third character tells a text on one line from one between tripled quotes.
theorem not_tripled (quote : Char) (cs rest more : List Char) (starts : cs.head? ≠ some quote)
    (apart : rest.head? ≠ some quote) : cs ++ quote :: rest ≠ quote :: quote :: more := by
  intro same
  cases cs with
  | nil =>
      cases rest with
      | nil => cases same
      | cons c others =>
          cases same
          exact apart rfl
  | cons c cs => exact starts (congrArg some (List.cons.inj same).1)

theorem basic_starts (cs : List Char) : (cs.flatMap basicChar).head? ≠ some '"' := by
  cases cs with
  | nil => exact fun same => nomatch same
  | cons c cs =>
      rw [List.flatMap_cons]
      rcases basic_char_cases c with ⟨own, noQuote, _⟩ | ⟨piece, own, _⟩
      · rw [own]
        exact fun same => noQuote (Option.some.inj same)
      · rw [own]
        exact fun same => nomatch Option.some.inj same

theorem text_double (cs : List Char) (single : ∀ more, cs ≠ '"' :: '"' :: more) :
    text? ('"' :: cs) = basic? (cs.length + 1) [] cs := by
  rw [text?]
  exact fun more same => single more same

theorem text_single (cs : List Char) (single : ∀ more, cs ≠ '\'' :: '\'' :: more) :
    text? ('\'' :: cs) = literal? [] cs := by
  rw [text?]
  exact fun more same => single more same

theorem text_quoted (s : String) (rest : List Char) (noDouble : rest.head? ≠ some '"')
    (noSingle : rest.head? ≠ some '\'') : text? (quotedChars s.toList ++ rest) = some (s, rest) := by
  have fits := style_fits s.toList
  unfold quotedChars
  generalize styleOf s.toList = style at fits
  cases fits with
  | basic =>
      have enough : (s.toList.flatMap basicChar).length < (s.toList.flatMap basicChar ++ '"' :: rest).length + 1 := by
        rw [List.length_append]
        omega
      have read := basic_read s.toList rest [] _ enough
      simp only [List.cons_append, List.append_assoc, List.nil_append]
      rw [text_double _ fun more => not_tripled '"' _ rest more (basic_starts s.toList) noDouble, read,
        List.reverse_nil, List.nil_append, String.ofList_toList]
  | literal plain =>
      have starts : s.toList.head? ≠ some '\'' := fun same =>
        (plain _ (List.mem_of_mem_head? same)).1 rfl
      simp only [List.cons_append, List.append_assoc, List.nil_append]
      rw [text_single _ fun more => not_tripled '\'' _ rest more starts noSingle, literal_read _ rest [] plain,
        List.reverse_nil, List.nil_append, String.ofList_toList]
  | basicLines =>
      have spelled := spelled_basic_lines 0 (Nat.zero_le 2) s.toList
      have read := tripled_read '"' true s.toList _ rest (.inl rfl) spelled noDouble _ (Nat.lt_succ_self _)
      rw [String.ofList_toList] at read
      simpa [text?, closingQuotes] using read
  | literalLines few plain =>
      have spelled := spelled_literal_lines 0 s.toList few plain
      have read := tripled_read '\'' false s.toList _ rest (.inr rfl) spelled noSingle _ (Nat.lt_succ_self _)
      rw [String.ofList_toList] at read
      simpa [text?, closingQuotes] using read

end PairwiseId.Toml
