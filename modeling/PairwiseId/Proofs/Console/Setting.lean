import PairwiseId.Console.Preferences
import PairwiseId.Proofs.Mapping.Normal

/- Each setting has a value of its own kind. Setting one puts the value that was read from a text
   in its place, and the configuration as a whole is checked after that. -/
namespace PairwiseId.Console.Preferences

set_option autoImplicit false

variable (filters : LogFilter.Language)

namespace Setting

def Value : Setting → Type
  | format => Format
  | algorithm => Algorithm
  | saltLength => Nat
  | level => String
  | ansi => Bool

def parse? : (setting : Setting) → String → Option setting.Value
  | format, text => Format.ofTypedName? text
  | algorithm, text => (Algorithm.resolve text).toOption
  | saltLength, text => Text.word? text.toList
  | level, text => some text
  | ansi, text => if text = "true" then some true else if text = "false" then some false else none

-- What the check of the whole asks of this value.
def Allows : (setting : Setting) → setting.Value → Prop
  | saltLength, length => Settings.minSaltBytes ≤ (length : Nat)
  | level, filter => filters.accepts filter = true
  | format, _ | algorithm, _ | ansi, _ => True

end Setting

def get (p : Preferences) : (setting : Setting) → setting.Value
  | .format => p.format
  | .algorithm => p.shared.pairwise.defaultAlgorithm
  | .saltLength => p.shared.pairwise.saltLength
  | .level => p.shared.logging.level
  | .ansi => p.shared.logging.ansi

def put (p : Preferences) : (setting : Setting) → setting.Value → Preferences
  | .format, format => { p with format }
  | .algorithm, algorithm => p.withSettings fun s => { s with defaultAlgorithm := algorithm }
  | .saltLength, length => p.withSettings fun s => { s with saltLength := length }
  | .level, level => p.withLogging fun l => { l with level }
  | .ansi, ansi => p.withLogging fun l => { l with ansi }

-- One setting has this value now, and all others are as they were.
structure Changed (setting : Setting) (value : setting.Value) (before after : Preferences) : Prop where
  own : after.get setting = value
  others : ∀ other, other ≠ setting → after.get other = before.get other

theorem eq_of_get (p q : Preferences) (same : ∀ setting, p.get setting = q.get setting) : p = q := by
  obtain ⟨format, ⟨algorithm, length⟩, level, ansi⟩ := p
  obtain rfl : format = _ := same .format
  obtain rfl : algorithm = _ := same .algorithm
  obtain rfl : length = _ := same .saltLength
  obtain rfl : level = _ := same .level
  obtain rfl : ansi = _ := same .ansi
  rfl

theorem get_put_self (p : Preferences) (setting : Setting) (value : setting.Value) :
    (p.put setting value).get setting = value := by
  cases setting <;> rfl

theorem get_put_other (p : Preferences) (setting other : Setting) (value : setting.Value)
    (differs : other ≠ setting) : (p.put setting value).get other = p.get other := by
  cases setting <;> cases other <;> first | rfl | exact absurd rfl differs

-- There is one way only to change one setting and nothing else.
theorem changed_iff (setting : Setting) (value : setting.Value) (before after : Preferences) :
    Changed setting value before after ↔ after = before.put setting value := by
  constructor
  · intro changed
    apply eq_of_get
    intro other
    by_cases same : other = setting
    · subst same
      rw [changed.own, get_put_self]
    · rw [changed.others other same, get_put_other before setting other value same]
  · rintro rfl
    exact ⟨get_put_self before setting value, fun other differs => get_put_other before setting other value differs⟩

theorem settings_check_iff (s : Settings) : s.check = .ok () ↔ Settings.minSaltBytes ≤ s.saltLength := by
  unfold Settings.check
  split
  · rename_i short
    exact ⟨fun ok => (nomatch ok), fun long => absurd short (Nat.not_lt_of_le long)⟩
  · rename_i long
    exact ⟨fun _ => Nat.le_of_not_lt long, fun _ => rfl⟩

theorem logging_check_iff (l : Logging) : l.check filters = .ok () ↔ filters.accepts l.level = true := by
  unfold Logging.check
  split
  · rename_i filter
    exact ⟨fun _ => filter, fun _ => rfl⟩
  · rename_i noFilter
    exact ⟨fun ok => (nomatch ok), fun filter => absurd filter noFilter⟩

theorem check_iff (p : Preferences) :
    p.shared.check filters = .ok () ↔ ∀ setting : Setting, setting.Allows filters (p.get setting) := by
  rw [Configuration.check, bind_ok]
  constructor
  · rintro ⟨_, settings, logging⟩ setting
    cases setting with
    | saltLength => exact (settings_check_iff _).mp settings
    | level => exact (logging_check_iff filters _).mp logging
    | format | algorithm | ansi => trivial
  · intro all
    exact ⟨(), (settings_check_iff _).mpr (all .saltLength), (logging_check_iff filters _).mpr (all .level)⟩

-- Every way that setting a value can end.
inductive SetOutcome (p : Preferences) (key text : String) : Preferences × Option Failure → Prop where
  | unknown (noSetting : Setting.ofKey? key = none) : SetOutcome p key text (p, some (unknownKey key))
  | unread (setting : Setting) (known : Setting.ofKey? key = some setting) (malformed : setting.parse? text = none)
      (detail : String) : SetOutcome p key text (p, some (.invalidArgument detail))
  | refused (setting : Setting) (value : setting.Value) (known : Setting.ofKey? key = some setting)
      (read : setting.parse? text = some value) (error : ConfigurationError)
      (unchecked : (p.put setting value).shared.check filters = .error error) :
      SetOutcome p key text (p.put setting value, some (.settings error))
  | accepted (setting : Setting) (value : setting.Value) (known : Setting.ofKey? key = some setting)
      (read : setting.parse? text = some value) (checked : (p.put setting value).shared.check filters = .ok ()) :
      SetOutcome p key text (p.put setting value, none)

theorem assign_read (p : Preferences) (setting : Setting) (text : String) :
    (∃ value, setting.parse? text = some value ∧ p.assign setting text = .ok (p.put setting value)) ∨
      (setting.parse? text = none ∧ ∃ detail, p.assign setting text = .error (.invalidArgument detail)) := by
  cases setting with
  | format =>
      simp only [assign, Setting.parse?]
      cases Format.ofTypedName? text with
      | none => exact .inr ⟨rfl, _, rfl⟩
      | some format => exact .inl ⟨format, rfl, rfl⟩
  | algorithm =>
      simp only [assign, Setting.parse?]
      cases Algorithm.resolve text with
      | error fault => exact .inr ⟨rfl, _, rfl⟩
      | ok algorithm => exact .inl ⟨algorithm, rfl, rfl⟩
  | saltLength =>
      simp only [assign, Setting.parse?]
      cases Text.word? text.toList with
      | none => exact .inr ⟨rfl, _, rfl⟩
      | some length => exact .inl ⟨length, rfl, rfl⟩
  | level => exact .inl ⟨text, rfl, rfl⟩
  | ansi =>
      simp only [assign, Setting.parse?]
      split
      · exact .inl ⟨true, rfl, rfl⟩
      split
      · exact .inl ⟨false, rfl, rfl⟩
      · exact .inr ⟨rfl, _, rfl⟩

theorem set_outcome (p : Preferences) (key text : String) : SetOutcome filters p key text (p.set filters key text) := by
  unfold set
  cases known : Setting.ofKey? key with
  | none => exact .unknown known
  | some setting =>
      rcases assign_read p setting text with ⟨value, read, assigned⟩ | ⟨malformed, detail, assigned⟩
      · simp only [assigned]
        cases checked : (p.put setting value).shared.check filters with
        | error error => exact .refused setting value known read error checked
        | ok _ => exact .accepted setting value known read checked
      · simp only [assigned]
        exact .unread setting known malformed detail

theorem set_accepted (p : Preferences) (key text : String) (setting : Setting) (value : setting.Value)
    (known : Setting.ofKey? key = some setting) (read : setting.parse? text = some value)
    (checked : (p.put setting value).shared.check filters = .ok ()) :
    p.set filters key text = (p.put setting value, none) := by
  rcases assign_read p setting text with ⟨own, found, assigned⟩ | ⟨malformed, _⟩
  · obtain rfl := Option.some.inj (found.symm.trans read)
    simp only [set, known, assigned, checked]
  · rw [malformed] at read
    cases read

end PairwiseId.Console.Preferences
