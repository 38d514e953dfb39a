import Mathlib.Data.List.TakeWhile
import PairwiseId.Mapping.Basic
import PairwiseId.Proofs.Claims.Path

/- The changes that pairwise mappers make to claims: a new subject, a new email
   address, a value at a path. Of any two of them the order does not matter or one undoes
   the other, although an address without a configured domain keeps the domain it finds. -/
namespace PairwiseId

set_option autoImplicit false

namespace Claims

def written (write : Write) (claims : KeyMap Json) : KeyMap Json :=
  ⟨writeAt write claims.entries, set_in_ordered _ _ _ claims.ordered⟩

theorem written_compatible (first second : Write) : Compatible written first second := by
  cases writes_compatible first.1 second.1 first.2 second.2 with
  | commute order => exact .commute fun claims => KeyMap.ext_entries (order claims.entries)
  | undone lost => exact .undone fun claims => KeyMap.ext_entries (lost claims.entries)
  | undoing lost => exact .undoing fun claims => KeyMap.ext_entries (lost claims.entries)

theorem written_again (write : Write) (claims : KeyMap Json) :
    written write (written write claims) = written write claims :=
  KeyMap.ext_entries (write_again write.1 write.2 write.2 claims.entries)

theorem entries_written (writes : List Write) (claims : KeyMap Json) :
    (runAll written writes claims).entries = runAll writeAt writes claims.entries := by
  induction writes generalizing claims with
  | nil => rfl
  | cons write rest ih => exact ih (written write claims)

-- A list of pseudonyms becomes one write for each of its entries.
def mergeWrites (path : String) (entries : KeyMap Json) : List Write :=
  entries.entries.map fun entry => (segments path ++ [entry.1], entry.2)

theorem merge_writes (claims entries : KeyMap Json) (path : String) (notEmpty : entries.isEmpty = false) :
    merge claims path entries = runAll written (mergeWrites path entries) claims := by
  apply KeyMap.ext_entries
  rw [entries_written, mergeWrites]
  cases listed : entries.entries with
  | nil => simp [KeyMap.isEmpty, listed] at notEmpty
  | cons entry rest =>
      rw [write_entries (segments path) entry rest claims.entries (segments_ne_nil path), ← listed]
      rfl

end Claims

namespace Mapping

theorem domain_of_some (address domain : String) (found : domainOf? address = some domain) :
    domain.toList ≠ [] ∧ '@' ∉ domain.toList := by
  unfold domainOf? at found
  dsimp only at found
  split at found
  · split at found
    · cases found
    · rename_i present
      cases found
      rw [String.toList_ofList]
      refine ⟨present, fun member => ?_⟩
      simpa using List.mem_takeWhile_imp (List.mem_reverse.mp member)
  · cases found

theorem domain_of_address (name domain : String) (present : domain.toList ≠ [])
    (plain : '@' ∉ domain.toList) : domainOf? (name ++ "@" ++ domain) = some domain := by
  have characters : (name ++ "@" ++ domain).toList = name.toList ++ '@' :: domain.toList := by simp
  have kept : ∀ c ∈ domain.toList.reverse, decide (c ≠ '@') = true := fun c member =>
    decide_eq_true fun same => plain (same ▸ List.mem_reverse.mp member)
  have last : ((name ++ "@" ++ domain).toList.reverse.takeWhile (· ≠ '@')).reverse = domain.toList := by
    rw [characters, List.reverse_append, List.reverse_cons, List.append_assoc,
      List.takeWhile_append_of_pos kept, List.singleton_append, List.takeWhile_cons_of_neg (by simp),
      List.append_nil, List.reverse_reverse]
  simp only [domainOf?, last, present, if_false, String.ofList_toList]
  simp

end Mapping

inductive Edit where
  | subject (text : String)
  | email (name : String) (configured : Option String)
  | claim (write : Claims.Write)

namespace Edit

variable {C : Type} [ClaimSet C]

-- Without a configured domain a new address takes that of the claims, or of the user's own address.
def domain? (own configured : Option String) (claims : C) : Option String :=
  match configured with
  | some domain => some domain
  | none => ((ClaimSet.email claims).or own).bind Mapping.domainOf?

def apply (own : Option String) (edit : Edit) (claims : C) : C :=
  match edit with
  | subject text => ClaimSet.setSubject claims text
  | email name configured =>
    match domain? own configured claims with
    | some domain => ClaimSet.setEmail claims (name ++ "@" ++ domain)
    | none => claims
  | claim write => ClaimSet.setOther claims (Claims.written write (ClaimSet.other claims))

end Edit

section Settling

open Edit

variable {s : Surface} (own : Option String)

theorem domain_configured (domain : String) (claims : s.Claims) :
    domain? own (some domain) claims = some domain := rfl

-- A domain that was taken over is the domain of the new address.
theorem domain_kept (name domain : String) (claims : s.Claims)
    (chosen : domain? own none claims = some domain) :
    domain? own none (ClaimSet.setEmail claims (name ++ "@" ++ domain)) = some domain := by
  obtain ⟨address, _, found⟩ := Option.bind_eq_some_iff.mp chosen
  obtain ⟨present, plain⟩ := Mapping.domain_of_some address domain found
  simp only [domain?, email_set_email, Option.some_or, Option.bind_some]
  exact Mapping.domain_of_address name domain present plain

theorem email_overwritten (first second domain : String) (configured : Option String) (claims : s.Claims) :
    apply own (.email second (some domain)) (apply own (.email first configured) claims) =
      apply own (.email second (some domain)) claims := by
  cases chosen : domain? own configured claims with
  | none => simp only [apply, chosen]
  | some _ => simp only [apply, chosen, domain_configured, set_email_twice]

theorem email_absorbed (first second : String) (claims : s.Claims) :
    apply own (.email second none) (apply own (.email first none) claims) =
      apply own (.email second none) claims := by
  cases chosen : domain? own none claims with
  | none => simp only [apply, chosen]
  | some domain => simp only [apply, chosen, domain_kept own first domain claims chosen, set_email_twice]

theorem emails_compatible (first second : String) (one other : Option String) :
    Compatible (apply (C := s.Claims) own) (.email first one) (.email second other) := by
  cases other with
  | some domain => exact .undone (email_overwritten own first second domain one)
  | none =>
      cases one with
      | some domain => exact .undoing (email_overwritten own second first domain none)
      | none => exact .undone (email_absorbed own first second)

theorem email_subject_commute (name text : String) (configured : Option String) (claims : s.Claims) :
    apply own (.email name configured) (apply own (.subject text) claims) =
      apply own (.subject text) (apply own (.email name configured) claims) := by
  have same : domain? own configured (ClaimSet.setSubject claims text) = domain? own configured claims := by
    simp only [domain?, email_set_subject]
  cases chosen : domain? own configured claims with
  | none => simp only [apply, same, chosen]
  | some domain => simp only [apply, same, chosen, set_email_set_subject]

theorem email_claim_commute (name : String) (configured : Option String) (write : Claims.Write)
    (claims : s.Claims) :
    apply own (.email name configured) (apply own (.claim write) claims) =
      apply own (.claim write) (apply own (.email name configured) claims) := by
  have same : ∀ other, domain? own configured (ClaimSet.setOther claims other) = domain? own configured claims :=
    fun other => by simp only [domain?, email_set_other]
  cases chosen : domain? own configured claims with
  | none => simp only [apply, same, chosen]
  | some domain => simp only [apply, same, chosen, other_set_email, set_other_set_email]

theorem claim_subject_commute (write : Claims.Write) (text : String) (claims : s.Claims) :
    apply own (.claim write) (apply own (.subject text) claims) =
      apply own (.subject text) (apply own (.claim write) claims) := by
  simp only [apply, other_set_subject, set_other_set_subject]

theorem claims_compatible (first second : Claims.Write) :
    Compatible (apply (C := s.Claims) own) (.claim first) (.claim second) :=
  part_compatible (Claims.written_compatible first second) ClaimSet.other ClaimSet.setOther
    (fun _ claims _ => other_set_other claims _) (fun _ _ claims _ _ => set_other_twice claims _ _)
    (fun _ => rfl) (fun _ => rfl)

theorem edit_again (edit : Edit) (claims : s.Claims) :
    apply own edit (apply own edit claims) = apply own edit claims := by
  cases edit with
  | subject text => exact set_subject_twice claims text text
  | email name configured =>
      cases configured with
      | some domain => exact email_overwritten own name name domain (some domain) claims
      | none => exact email_absorbed own name name claims
  | claim write => simp only [apply, other_set_other, set_other_twice, Claims.written_again]

-- Edits of different kinds change different parts, and no edit reads what another kind writes.
theorem edits_compatible (first second : Edit) :
    Compatible (apply (C := s.Claims) own) first second := by
  cases first with
  | subject one =>
      cases second with
      | subject other => exact .undone fun claims => set_subject_twice claims one other
      | email name configured => exact .commute (email_subject_commute own name one configured)
      | claim write => exact .commute (claim_subject_commute own write one)
  | email name configured =>
      cases second with
      | subject text => exact .commute fun claims => (email_subject_commute own name text configured claims).symm
      | email other also => exact emails_compatible own name other configured also
      | claim write => exact .commute fun claims => (email_claim_commute own name configured write claims).symm
  | claim write =>
      cases second with
      | subject text => exact .commute fun claims => (claim_subject_commute own write text claims).symm
      | email name configured => exact .commute (email_claim_commute own name configured write)
      | claim other => exact claims_compatible own write other

theorem edits_settle : Settling (apply (C := s.Claims) own) := ⟨edit_again own, edits_compatible own⟩

end Settling

-- Several claims at once.
theorem run_claims {s : Surface} (own : Option String) (writes : List Claims.Write) (claims : s.Claims) :
    runAll (Edit.apply own) (writes.map .claim) claims =
      ClaimSet.setOther claims (runAll Claims.written writes (ClaimSet.other claims)) := by
  induction writes generalizing claims with
  | nil => exact (set_other_same claims).symm
  | cons write rest ih =>
      rw [List.map_cons, run_all_cons, run_all_cons, ih]
      simp only [Edit.apply, other_set_other, set_other_twice]

end PairwiseId
