import PairwiseId.Proofs.Console.Setting

/- What a rejected value leaves behind. A text that cannot be read changes nothing. A value that
   only the check of the whole rejects stays, and then no other setting can be changed any more. -/
namespace PairwiseId.Console.Preferences

set_option autoImplicit false

variable (filters : LogFilter.Language)

def Setting.fullKey : Setting → String
  | format => "output_format"
  | algorithm => "pairwise.default_algorithm"
  | saltLength => "pairwise.salt_length"
  | level => "logging.level"
  | ansi => "logging.ansi"

-- The settings that have a check of their own have no short key.
theorem refused_key (setting : Setting) (value : setting.Value)
    (refused : ¬ setting.Allows filters value) (key : String)
    (known : Setting.ofKey? key = some setting) : key = setting.fullKey := by
  unfold Setting.ofKey? at known
  split at known
  · obtain rfl := Option.some.inj known
    exact absurd trivial refused
  split at known
  · obtain rfl := Option.some.inj known
    exact absurd trivial refused
  split at known
  · rename_i same
    obtain rfl := Option.some.inj known
    exact same
  split at known
  · rename_i same
    obtain rfl := Option.some.inj known
    exact same
  split at known
  · obtain rfl := Option.some.inj known
    exact absurd trivial refused
  · cases known

theorem put_checked (p : Preferences) (checked : p.shared.check filters = .ok ())
    (setting : Setting) (value : setting.Value)
    (allowed : setting.Allows filters value) : (p.put setting value).shared.check filters = .ok () := by
  rw [check_iff]
  intro other
  by_cases same : other = setting
  · subst same
    rw [get_put_self]
    exact allowed
  · rw [get_put_other p setting other value same]
    exact (check_iff filters p).mp checked other

theorem refused_not_allowed (p : Preferences) (checked : p.shared.check filters = .ok ()) (setting : Setting)
    (value : setting.Value) (error : ConfigurationError)
    (unchecked : (p.put setting value).shared.check filters = .error error) : ¬ setting.Allows filters value := by
  intro allowed
  rw [put_checked filters p checked setting value allowed] at unchecked
  cases unchecked

-- A valid value: the key is known, and its text is read as a value that the check allows.
def Valid (key text : String) : Prop :=
  ∃ setting value, Setting.ofKey? key = some setting ∧ setting.parse? text = some value ∧ setting.Allows filters value

theorem set_accepted_iff (p : Preferences) (checked : p.shared.check filters = .ok ()) (key text : String) :
    (p.set filters key text).2 = none ↔ Valid filters key text := by
  constructor
  · intro accepted
    have outcome := set_outcome filters p key text
    generalize p.set filters key text = result at outcome accepted
    cases outcome with
    | unknown noSetting => cases accepted
    | unread setting known malformed detail => cases accepted
    | refused setting value known read error unchecked => cases accepted
    | accepted setting value known read fine =>
        have allowed := (check_iff filters _).mp fine setting
        rw [get_put_self] at allowed
        exact ⟨setting, value, known, read, allowed⟩
  · rintro ⟨setting, value, known, read, allowed⟩
    rw [set_accepted filters p key text setting value known read (put_checked filters p checked setting value allowed)]

-- As long as a setting has a value that is not allowed, no change of another one is accepted.
theorem set_blocked (p : Preferences) (setting : Setting)
    (stuck : ¬ setting.Allows filters (p.get setting)) (later text : String)
    (apart : Setting.ofKey? later ≠ some setting) : (p.set filters later text).2 ≠ none := by
  have outcome := set_outcome filters p later text
  generalize p.set filters later text = result at outcome
  cases outcome with
  | unknown noSetting => exact Option.some_ne_none _
  | unread other known malformed detail => exact Option.some_ne_none _
  | refused other value known read error unchecked => exact Option.some_ne_none _
  | accepted other value known read checked =>
      have differs : setting ≠ other := fun same => apart (same ▸ known)
      have kept := get_put_other p other setting value differs
      exact absurd (kept ▸ (check_iff filters _).mp checked setting) stuck

theorem rejected_cases (p : Preferences) (checked : p.shared.check filters = .ok ()) (key text : String)
    (failure : Failure) (rejected : (p.set filters key text).2 = some failure) :
    (∃ detail, failure = .invalidArgument detail) ∧ (p.set filters key text).1 = p ∨
      ∃ setting value error, Setting.ofKey? key = some setting ∧ setting.parse? text = some value ∧
        ¬ setting.Allows filters value ∧
        (p.put setting value).shared.check filters = .error error ∧ failure = .settings error ∧
        (p.set filters key text).1 = p.put setting value := by
  have outcome := set_outcome filters p key text
  generalize p.set filters key text = result at outcome rejected ⊢
  cases outcome with
  | unknown noSetting => exact .inl ⟨⟨_, (Option.some.inj rejected).symm⟩, rfl⟩
  | unread setting known malformed detail => exact .inl ⟨⟨detail, (Option.some.inj rejected).symm⟩, rfl⟩
  | refused setting value known read error unchecked =>
      have stuck := refused_not_allowed filters p checked setting value error unchecked
      exact .inr ⟨setting, value, error, known, read, stuck, unchecked, (Option.some.inj rejected).symm, rfl⟩
  | accepted setting value known read fine => cases rejected

theorem rejected_set_kept_iff (p : Preferences) (checked : p.shared.check filters = .ok ()) (key text : String)
    (failure : Failure) (rejected : (p.set filters key text).2 = some failure) :
    ((p.set filters key text).1 = p ↔ ∃ detail, failure = .invalidArgument detail) ∧
      ((p.set filters key text).1 ≠ p ↔ ∃ setting value error, Setting.ofKey? key = some setting ∧
        setting.parse? text = some value ∧ ¬ setting.Allows filters value ∧
        (p.set filters key text).1.shared.check filters = .error error ∧ failure = .settings error ∧
        Changed setting value p (p.set filters key text).1) ∧
      ∀ later other, later ≠ key → (((p.set filters key text).1.set filters later other).2 = none ↔
        (p.set filters key text).1 = p ∧ Valid filters later other) := by
  rcases rejected_cases filters p checked key text failure rejected with
    ⟨⟨detail, rfl⟩, same⟩ | ⟨setting, value, error, known, read, stuck, unchecked, rfl, after⟩
  · rw [same]
    refine ⟨⟨fun _ => ⟨detail, rfl⟩, fun _ => rfl⟩, ⟨fun differs => absurd rfl differs, ?_⟩, ?_⟩
    · rintro ⟨_, _, error, _, _, _, _, settings, _⟩
      cases settings
    · intro later other _
      rw [set_accepted_iff filters p checked later other]
      exact ⟨fun valid => ⟨rfl, valid⟩, fun both => both.2⟩
  · have differs : p.put setting value ≠ p := by
      intro same
      rw [same, checked] at unchecked
      cases unchecked
    rw [after]
    refine ⟨⟨fun same => absurd same differs, fun argument => nomatch argument⟩, ⟨fun _ => ?_, fun _ => differs⟩, ?_⟩
    · exact ⟨setting, value, error, known, read, stuck, unchecked, rfl, (changed_iff _ _ _ _).mpr rfl⟩
    · intro later other apart
      have stays : ¬ setting.Allows filters ((p.put setting value).get setting) := by
        rw [get_put_self]
        exact stuck
      have blocked := set_blocked filters (p.put setting value) setting stays later other fun again =>
        apart ((refused_key filters setting value stuck later again).trans
          (refused_key filters setting value stuck key known).symm)
      exact ⟨fun accepted => absurd accepted blocked, fun both => absurd both.1 differs⟩

theorem unread_length_kept :
    ({} : Preferences).shared.check LogFilter.grammar = .ok () ∧
      (({} : Preferences).set LogFilter.grammar "pairwise.salt_length" "many").2 =
        some (.invalidArgument "salt length must be a number: many") ∧
      (({} : Preferences).set LogFilter.grammar "pairwise.salt_length" "many").1 = {} :=
  ⟨rfl, rfl, (rejected_set_kept_iff LogFilter.grammar {} rfl "pairwise.salt_length" "many" _ rfl).1.mpr ⟨_, rfl⟩⟩

-- A salt length that is too short stays set, and the output format cannot be changed after it.
theorem short_length_stays :
    ({} : Preferences).shared.check LogFilter.grammar = .ok () ∧
      (({} : Preferences).set LogFilter.grammar "pairwise.salt_length" "4").2 = some (.settings (.shortSalt 4)) ∧
      (({} : Preferences).set LogFilter.grammar "pairwise.salt_length" "4").1 ≠ {} ∧
      (({} : Preferences).set LogFilter.grammar "output" "json").2 = none ∧
      ((({} : Preferences).set LogFilter.grammar "pairwise.salt_length" "4").1.set
          LogFilter.grammar "output" "json").2 =
        some (.settings (.shortSalt 4)) := by
  exact ⟨rfl, by decide +kernel⟩

end PairwiseId.Console.Preferences
