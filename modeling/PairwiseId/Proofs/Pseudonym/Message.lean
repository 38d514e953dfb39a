import PairwiseId.Proofs.Mapping.Derivation
import PairwiseId.Proofs.Text.Utf8

/- What is hashed for a pseudonym with a salt: the sector and, right behind it, the
   local identifier. Nothing marks where the one ends and the other begins, so the
   longer of two sectors can hold the first part of the other user's identifier. -/
namespace PairwiseId.Pseudonym

set_option autoImplicit false

def MacInput.message (input : MacInput) : Digest.Bytes := input.parts.flatten

-- The second sector is longer, and what it has more than the first one is where the local
-- identifier under the first one begins.
def Continues (s t : Sector) (l m : String) : Prop :=
  ∃ rest, rest ≠ "" ∧ t.value = s.value ++ rest ∧ l = rest ++ m

theorem generate_salted_input (algorithm : Algorithm) (salt : String) (s : Sector) (l : String)
    (input : MacInput) (notBlank : Text.isBlank salt = false)
    (prepared : macInput (.salt (Text.utf8 salt)) s l = .ok input) :
    generateSalted algorithm (some salt) s l =
      .ok (ofMac (Mac.ofMessage algorithm.digest (Text.utf8 salt) input.message)) := by
  rw [salted_input salt s l notBlank] at prepared
  obtain rfl := Except.ok.inj prepared
  exact generate_salted_eq algorithm salt s l notBlank

theorem message_eq (s : Sector) (l : String) (key : Digest.Bytes) :
    MacInput.message ⟨key, [s.bytes, Text.utf8 l]⟩ = Text.utf8 (s.value ++ l) := by
  simp [MacInput.message, Sector.bytes, Text.utf8_append]

theorem joined_eq_iff (s t : Sector) (l m : String) :
    s.value ++ l = t.value ++ m ↔ s.value = t.value ∧ l = m ∨ Continues s t l m ∨ Continues t s m l := by
  rw [Text.append_eq_iff]
  constructor
  · rintro (⟨rest, longer, own⟩ | ⟨rest, longer, own⟩)
    · by_cases empty : rest = ""
      · subst empty
        exact .inl ⟨by simpa using longer.symm, by simpa using own⟩
      · exact .inr (.inl ⟨rest, empty, longer, own⟩)
    · by_cases empty : rest = ""
      · subst empty
        exact .inl ⟨by simpa using longer, by simpa using own.symm⟩
      · exact .inr (.inr ⟨rest, empty, longer, own⟩)
  · rintro (⟨sameSector, rfl⟩ | ⟨rest, _, longer, own⟩ | ⟨rest, _, longer, own⟩)
    · exact .inl ⟨"", by simpa using sameSector.symm, by simp⟩
    · exact .inl ⟨rest, longer, own⟩
    · exact .inr ⟨rest, longer, own⟩

-- With one sector, or with one local identifier, nothing can continue.
theorem salted_messages_agree_iff (algorithm : Algorithm) (salt : String) (s t : Sector) (l m : String)
    (notBlank : Text.isBlank salt = false) :
    ∃ first second, macInput (.salt (Text.utf8 salt)) s l = .ok first ∧
      macInput (.salt (Text.utf8 salt)) t m = .ok second ∧
      generateSalted algorithm (some salt) s l =
        .ok (ofMac (Mac.ofMessage algorithm.digest (Text.utf8 salt) first.message)) ∧
      generateSalted algorithm (some salt) t m =
        .ok (ofMac (Mac.ofMessage algorithm.digest (Text.utf8 salt) second.message)) ∧
      (first.message = second.message ↔
        s.value = t.value ∧ l = m ∨ Continues s t l m ∨ Continues t s m l) := by
  have own := salted_input salt s l notBlank
  have other := salted_input salt t m notBlank
  refine ⟨_, _, own, other, generate_salted_input algorithm salt s l _ notBlank own,
    generate_salted_input algorithm salt t m _ notBlank other, ?_⟩
  rw [message_eq, message_eq, ← joined_eq_iff]
  exact ⟨Text.utf8_injective _ _, congrArg Text.utf8⟩

def plainSector : Sector := ⟨"https://a.example", .staticUri, by decide +kernel⟩

def slashSector : Sector := ⟨"https://a.example/", .staticUri, by decide +kernel⟩

-- The slash would have to be at the front of the first identifier, not of the second one.
theorem slash_under_longer_sector_differs :
    Text.isBlank "s" = false ∧
      ∃ first second, macInput (.salt (Text.utf8 "s")) plainSector "alice" = .ok first ∧
        macInput (.salt (Text.utf8 "s")) slashSector "/alice" = .ok second ∧ first.message ≠ second.message := by
  have notBlank : Text.isBlank "s" = false := by decide
  obtain ⟨first, second, own, other, _, _, agree⟩ :=
    salted_messages_agree_iff .sha256 "s" plainSector slashSector "alice" "/alice" notBlank
  refine ⟨notBlank, first, second, own, other, fun same => ?_⟩
  rcases agree.mp same with ⟨sameSector, _⟩ | ⟨rest, _, _, begins⟩ | ⟨rest, _, longer, _⟩
  · exact absurd sameSector (by decide)
  · have lengths := congrArg String.length begins
    rw [String.length_append] at lengths
    have short : "alice".length = 5 ∧ "/alice".length = 6 := by decide
    omega
  · have lengths := congrArg String.length longer
    rw [String.length_append] at lengths
    have short : plainSector.value.length = 17 ∧ slashSector.value.length = 18 := by decide
    omega

theorem slash_moves_to_local_id :
    ¬ ∀ (salt : String) (s t : Sector) (l m : String) (first second : MacInput),
      Text.isBlank salt = false → s.mode = .staticUri → t.mode = .staticUri → l ≠ "" → m ≠ "" →
      macInput (.salt (Text.utf8 salt)) s l = .ok first → macInput (.salt (Text.utf8 salt)) t m = .ok second →
      ¬ (s.value = t.value ∧ l = m) → first.message ≠ second.message := by
  intro apart
  have notBlank : Text.isBlank "s" = false := by decide
  have differ := apart "s" plainSector slashSector "/alice" "alice" _ _ notBlank rfl rfl (by decide) (by decide)
    (salted_input "s" plainSector "/alice" notBlank) (salted_input "s" slashSector "alice" notBlank) (by decide)
  rw [message_eq, message_eq] at differ
  exact differ (congrArg Text.utf8 (by decide))

end PairwiseId.Pseudonym
