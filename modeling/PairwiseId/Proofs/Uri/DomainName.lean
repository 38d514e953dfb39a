import PairwiseId.Proofs.Text.Split
import PairwiseId.Proofs.Unicode.Normalize
import PairwiseId.Uri.DomainName

/- The characters that divide the parts of a URI are in no domain name that is
   accepted, neither as they stand nor in the encoded form of a label. -/
namespace PairwiseId.Uri

set_option autoImplicit false

-- The general delimiters (RFC 3986, section 2.2).
def genDelims : List Char := [':', '/', '?', '#', '[', ']', '@']

theorem forall_delims {P : Char → Prop} [DecidablePred P]
    (holds : genDelims.all (fun c => decide (P c)) = true) : ∀ c ∈ genDelims, P c :=
  fun c member => of_decide_eq_true (List.all_eq_true.mp holds c member)

namespace Punycode

theorem mem_of_integer (c : Char) (other : digit? c = none) (bias n : Nat) (rest cs : List Char) :
    ∀ k weight sum, integer? bias k weight sum cs = some (n, rest) → c ∈ cs → c ∈ rest := by
  induction cs with
  | nil => intro k weight sum _ member; cases member
  | cons d later ih =>
      intro k weight sum read member
      rw [integer?] at read
      obtain ⟨value, isDigit, read⟩ := Option.bind_eq_some_iff.mp read
      have further : c ∈ later := by
        refine (List.mem_cons.mp member).resolve_left ?_
        rintro rfl
        rw [other] at isDigit
        cases isDigit
      simp only at read
      split at read
      · cases read
      · split at read
        · cases read
          exact further
        · exact ih _ _ _ read further

theorem mem_of_insert_all (c : Char) (other : digit? c = none) (result : List Char) (fuel : Nat) :
    ∀ code position bias done cs, insertAll fuel code position bias done cs = some result →
      c ∈ done ∨ c ∈ cs → c ∈ result := by
  induction fuel with
  | zero => intro _ _ _ _ _ read; cases read
  | succ fuel ih =>
      intro code position bias done cs read member
      rw [insertAll] at read
      split at read
      case isTrue ended =>
        cases read
        exact member.resolve_right (ended ▸ List.not_mem_nil)
      case isFalse =>
        obtain ⟨⟨delta, rest⟩, number, read⟩ := Option.bind_eq_some_iff.mp read
        simp only at read
        split at read
        case isFalse => cases read
        case isTrue =>
          refine ih _ _ _ _ _ read (member.imp (fun inDone => ?_) fun inText => ?_)
          · rw [← List.take_append_drop ((position + delta) % (done.length + 1)) done] at inDone
            rcases List.mem_append.mp inDone with before | behind
            · exact List.mem_append_left _ before
            · exact List.mem_append_right _ (List.mem_cons_of_mem _ behind)
          · exact mem_of_integer c other _ _ _ _ _ _ _ number inText

theorem mem_of_decode (c : Char) (other : digit? c = none) (apart : c ≠ '-') (label decoded : List Char)
    (read : decode? label = some decoded) (member : c ∈ label) : c ∈ decoded := by
  simp only [decode?] at read
  split at read
  case isFalse => cases read
  case isTrue =>
    refine mem_of_insert_all c other _ _ _ _ _ _ _ read ?_
    rw [Text.before_last_eq, Text.after_last_eq]
    split
    case isTrue => exact .inr member
    case isFalse => exact Text.mem_around_last '-' c apart label member

end Punycode

namespace DomainName

theorem mem_of_map_m {α β : Type} (read : α → Option β) (x : α) (xs : List α) :
    ∀ ys, xs.mapM read = some ys → x ∈ xs → ∃ y ∈ ys, read x = some y := by
  induction xs with
  | nil => intro ys _ member; cases member
  | cons first rest ih =>
      intro ys every member
      rw [List.mapM_cons] at every
      obtain ⟨y, one, every⟩ := Option.bind_eq_some_iff.mp every
      obtain ⟨others, more, every⟩ := Option.bind_eq_some_iff.mp every
      cases every
      rcases List.mem_cons.mp member with rfl | later
      · exact ⟨y, List.mem_cons_self, one⟩
      · obtain ⟨z, inOthers, found⟩ := ih others more later
        exact ⟨z, List.mem_cons_of_mem _ inOthers, found⟩

theorem delim_lone : ∀ c ∈ genDelims, Unicode.Lone c := forall_delims (by decide)

theorem delim_stands : ∀ c ∈ genDelims, mapChar c = some [c] := forall_delims (by decide +kernel)

theorem delim_refused : ∀ c ∈ genDelims, isPermitted c = false := forall_delims (by decide +kernel)

theorem delim_no_digit : ∀ c ∈ genDelims, Punycode.digit? c = none := forall_delims (by decide)

theorem delim_no_lead : ∀ c ∈ genDelims, c ∉ encodedLead ∧ c ≠ '-' ∧ c ≠ '.' :=
  forall_delims (by decide)

section
variable {c : Char} (delim : c ∈ genDelims)
include delim

theorem mem_map (cs mapped : List Char) (read : map cs = some mapped) (member : c ∈ cs) : c ∈ mapped := by
  obtain ⟨images, each, result⟩ := Option.bind_eq_some_iff.mp read
  obtain ⟨image, inImages, stands⟩ := mem_of_map_m mapChar c cs images each member
  rw [delim_stands c delim] at stands
  have joined : c ∈ images.flatten :=
    List.mem_flatten.mpr ⟨image, inImages, Option.some.inj stands ▸ List.mem_singleton_self c⟩
  cases result
  split
  case isTrue => exact joined
  case isFalse => exact Unicode.mem_normalize (delim_lone c delim) _ joined

theorem not_mem_permitted (label : List Char) (permitted : label.all isPermitted = true) : c ∉ label :=
  fun member => Bool.false_ne_true ((delim_refused c delim).symm.trans (List.all_eq_true.mp permitted c member))

theorem not_mem_is_label (label : List Char) (valid : isLabel label = true) : c ∉ label := by
  simp only [isLabel, Bool.and_eq_true] at valid
  exact not_mem_permitted delim label valid.1.1

theorem not_mem_label (label result : List Char) (read : readLabel? label = some result) : c ∉ label := by
  intro member
  obtain ⟨noLead, noHyphen, -⟩ := delim_no_lead c delim
  simp only [readLabel?] at read
  split at read
  case isTrue lead =>
    obtain ⟨decoded, decodes, read⟩ := Option.bind_eq_some_iff.mp read
    split at read
    case isFalse => cases read
    case isTrue valid =>
      obtain ⟨rest, rfl⟩ := List.isPrefixOf_iff_prefix.mp lead
      have encoded : c ∈ rest := (List.mem_append.mp member).resolve_left noLead
      exact not_mem_is_label delim decoded valid.2.2.2
        (Punycode.mem_of_decode c (delim_no_digit c delim) noHyphen rest decoded decodes encoded)
  case isFalse =>
    split at read
    · split at read
      case isTrue permitted => exact not_mem_permitted delim label permitted member
      case isFalse => cases read
    · split at read
      case isTrue valid => exact not_mem_is_label delim label valid member
      case isFalse => cases read

theorem not_mem_name (cs : List Char) (labels : List (List Char)) (read : labels? cs = some labels) : c ∉ cs := by
  intro member
  obtain ⟨mapped, mapping, read⟩ := Option.bind_eq_some_iff.mp read
  obtain ⟨own, every, -⟩ := Option.bind_eq_some_iff.mp read
  obtain ⟨label, inLabels, inLabel⟩ :=
    Text.mem_split_at '.' c (delim_no_lead c delim).2.2 mapped (mem_map delim cs mapped mapping member)
  obtain ⟨result, -, accepted⟩ := mem_of_map_m readLabel? label _ own every inLabels
  exact not_mem_label delim label result accepted inLabel

end

end DomainName

end PairwiseId.Uri
