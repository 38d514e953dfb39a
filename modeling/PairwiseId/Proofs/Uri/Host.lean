import PairwiseId.Proofs.Text.Utf8
import PairwiseId.Proofs.Uri.DomainName
import PairwiseId.Uri.Host

/- What is written where a host is read: an address in brackets, or a text
   without the characters that divide a URI. -/
namespace PairwiseId.Uri

set_option autoImplicit false

-- What an address in brackets is made of.
def InAddress (c : Char) : Prop := Text.isHexDigit c = true ∨ c = ':' ∨ c = '.'

instance (c : Char) : Decidable (InAddress c) := inferInstanceAs (Decidable (_ ∨ _ ∨ _))

inductive IsHost : List Char → Prop where
  | address (inner : List Char) : inner ≠ [] → (∀ c ∈ inner, InAddress c) → IsHost ('[' :: inner ++ [']'])
  | name (text : List Char) : text ≠ [] → (∀ c ∈ text, c ∉ genDelims) → IsHost text

theorem IsHost.ne_nil {text : List Char} (host : IsHost text) : text ≠ [] := by
  cases host with
  | address inner => simp
  | name _ present => exact present

namespace Ipv6

theorem in_dotted (cs : List Char) (dotted : isDotted cs = true) : ∀ c ∈ cs, InAddress c := by
  intro c member
  by_cases dot : c = '.'
  · exact .inr (.inr dot)
  · simp only [isDotted, Bool.and_eq_true, List.all_eq_true] at dotted
    obtain ⟨part, inParts, inPart⟩ := Text.mem_split_at '.' c dot cs member
    have digit := (dotted.2 part inParts).1.1.2 c inPart
    simp only [Char.isDigit, Bool.and_eq_true, decide_eq_true_eq] at digit
    refine .inl ?_
    rw [Text.isHexDigit, Text.hexValue?, if_pos ⟨digit.1, digit.2⟩]
    rfl

theorem in_groups (fuel : Nat) : ∀ count compressed cs, groups fuel count compressed cs = true →
    ∀ c ∈ cs, InAddress c := by
  induction fuel with
  | zero => intro _ _ _ read; cases read
  | succ fuel ih =>
      intro count compressed cs read
      simp only [groups] at read
      split at read
      case h_1 => simp
      case h_2 rest =>
        simp only [Bool.and_eq_true] at read
        exact List.forall_mem_cons.mpr ⟨.inr (.inl rfl), ih _ _ rest read.2⟩
      case h_3 first rest _ =>
        simp only [Bool.and_eq_true] at read
        have whole := List.prefix_iff_eq_append.mp
          ((List.takeWhile_prefix Text.isHexDigit).trans (List.take_prefix 4 (first :: rest)))
        have digits : ∀ c ∈ ((first :: rest).take 4).takeWhile Text.isHexDigit, InAddress c :=
          fun c member => .inl (List.mem_takeWhile_imp member)
        obtain ⟨-, read⟩ := read
        rw [← whole]
        split at read
        case h_1 ended =>
          rw [ended, List.append_nil]
          exact digits
        case h_2 later divided =>
          simp only [Bool.and_eq_true] at read
          rw [divided]
          exact List.forall_mem_append.mpr
            ⟨digits, List.forall_mem_cons.mpr ⟨.inr (.inl rfl), ih _ _ later read.2⟩⟩
        case h_3 =>
          simp only [Bool.and_eq_true] at read
          rw [whole]
          exact in_dotted _ read.1.2
        case h_4 => cases read

theorem in_address (cs : List Char) (address : isAddress cs = true) : cs ≠ [] ∧ ∀ c ∈ cs, InAddress c := by
  unfold isAddress at address
  split at address
  case h_1 rest =>
    have colon : InAddress ':' := .inr (.inl rfl)
    exact ⟨by simp, List.forall_mem_cons.mpr ⟨colon, List.forall_mem_cons.mpr
      ⟨colon, in_groups _ _ _ rest address⟩⟩⟩
  case h_2 => cases address
  case h_3 => cases address
  case h_4 => cases address
  case h_5 => exact ⟨by rintro rfl; contradiction, in_groups _ _ _ cs address⟩

end Ipv6

theorem delim_no_hex : ∀ c ∈ genDelims, Text.hexValue? c = none ∧ c ≠ '%' := forall_delims (by decide)

theorem mem_unescape (c : Char) (delim : c ∈ genDelims) (text : List Char) (member : c ∈ text) :
    UInt8.ofNat c.toNat ∈ unescape text := by
  obtain ⟨noDigit, noPercent⟩ := delim_no_hex c delim
  fun_induction unescape text with
  | case1 a b rest high low second first ih =>
      refine List.mem_cons_of_mem _ (ih ?_)
      have notFirst : c ≠ a := fun same => by
        rw [← same, noDigit] at first
        cases first
      have notSecond : c ≠ b := fun same => by
        rw [← same, noDigit] at second
        cases second
      simpa [noPercent, notFirst, notSecond] using member
  | case2 a b rest plain ih =>
      exact List.mem_cons_of_mem _ (ih ((List.mem_cons.mp member).resolve_left noPercent))
  | case3 d rest plain ih =>
      rcases List.mem_cons.mp member with rfl | later
      · exact List.mem_cons_self
      · exact List.mem_cons_of_mem _ (ih later)
  | case4 => cases member

namespace Host

theorem bracketed_is_host (text : List Char) (host : Host) (read : bracketed? text = some host) :
    IsHost ('[' :: text) := by
  simp only [bracketed?] at read
  split at read
  case h_1 inner closed =>
    split at read
    case isTrue address =>
      obtain ⟨present, made⟩ := Ipv6.in_address _ address
      have whole : text = inner.reverse ++ [']'] := by
        rw [← List.reverse_reverse text, closed, List.reverse_cons]
      rw [whole]
      exact .address inner.reverse present made
    case isFalse => cases read
  case h_2 => cases read

theorem labels_nil : DomainName.labels? [] = some [[]] := by decide +kernel

-- What is looked up holds every delimiter of the text, whether or not escapes were decoded.
theorem web_name_looked (text : List Char) (host : Host) (name : ∀ rest, text ≠ '[' :: rest)
    (read : ofWebText? text = some host) :
    ∃ characters labels, (∀ c ∈ genDelims, c ∈ text → c ∈ characters) ∧ (text = [] → characters = []) ∧
      DomainName.labels? characters = some labels ∧ List.intercalate ['.'] labels ≠ [] := by
  unfold ofWebText? at read
  split at read
  case h_1 rest => exact absurd rfl (name rest)
  case h_2 =>
    split at read
    case isTrue escaped =>
      obtain ⟨characters, decoded, read⟩ := Option.bind_eq_some_iff.mp read
      obtain ⟨labels, named, read⟩ := Option.bind_eq_some_iff.mp read
      refine ⟨characters, labels, fun c delim member => ?_, ?_, named, fun empty => ?_⟩
      · exact Text.mem_of_utf8 c (DomainName.delim_lone c delim).1 _ _ decoded
          (mem_unescape c delim text member)
      · rintro rfl
        cases escaped
      · rw [if_pos empty] at read
        cases read
    case isFalse =>
      obtain ⟨characters, decoded, read⟩ := Option.bind_eq_some_iff.mp read
      cases decoded
      obtain ⟨labels, named, read⟩ := Option.bind_eq_some_iff.mp read
      refine ⟨text, labels, fun _ _ member => member, id, named, fun empty => ?_⟩
      rw [if_pos empty] at read
      cases read

theorem web_text_is_host (text : List Char) (host : Host) (read : ofWebText? text = some host) :
    IsHost text := by
  by_cases bracket : ∃ rest, text = '[' :: rest
  · obtain ⟨rest, rfl⟩ := bracket
    exact bracketed_is_host rest host read
  · obtain ⟨characters, labels, kept, empty, named, present⟩ :=
      web_name_looked text host (fun rest same => bracket ⟨rest, same⟩) read
    refine .name text (fun nothing => ?_) fun c member delim =>
      DomainName.not_mem_name delim characters labels named (kept c delim member)
    rw [empty nothing, labels_nil] at named
    cases named
    exact present rfl

theorem delim_forbidden : ∀ c ∈ genDelims, isForbidden c = true := forall_delims (by decide +kernel)

theorem opaque_text_is_host (text : List Char) (host : Host) (read : ofOpaqueText? text = some host) :
    IsHost text := by
  simp only [ofOpaqueText?] at read
  split at read
  case h_1 rest => exact bracketed_is_host rest host read
  case h_2 => cases read
  case h_3 present =>
    split at read
    case isTrue => cases read
    case isFalse plain =>
      refine .name text present fun c member delim => plain ?_
      exact List.any_eq_true.mpr ⟨c, member, delim_forbidden c delim⟩

end Host

end PairwiseId.Uri
