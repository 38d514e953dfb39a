import PairwiseId.Console.Run
import PairwiseId.Proofs.Console.Disk
import PairwiseId.Proofs.Console.Setting
import PairwiseId.Proofs.Toml.Document

/- The document of the preferences is read back as it was written, as long as the salt length has
   its place in a document and the values pass their own check. -/
namespace PairwiseId

set_option autoImplicit false

theorem Console.Format.of_name (format : Format) : ofName? format.name = some format := by
  cases format <;> decide +kernel

namespace Console.Preferences

open Toml

def rows (p : Preferences) : List Toml.Row :=
  [.pair "output_format" (.text p.format.name),
    .blank,
    .header "pairwise",
    .pair "default_algorithm" (.text p.shared.pairwise.defaultAlgorithm.name),
    .pair "salt_length" (.number p.shared.pairwise.saltLength),
    .blank,
    .header "logging",
    .pair "level" (.text p.shared.logging.level),
    .pair "ansi" (.flag p.shared.logging.ansi)]

def document (p : Preferences) : String := String.join (p.lines.map fun line => line ++ "\n")

theorem document_rows (p : Preferences) : p.document.toList = p.rows.flatMap Toml.Row.chars := by
  simp [document, lines, rows, Toml.Row.chars, Scalar.chars, String.join, quoted, boolText]

theorem rows_formed (p : Preferences) (small : p.shared.pairwise.saltLength < Text.signBound) :
    ∀ row ∈ p.rows, row.WellFormed := by
  simp only [rows, List.forall_mem_cons]
  have format := bare_of_all "output_format" (by decide)
  have pairwise := bare_of_all "pairwise" (by decide)
  have algorithm := bare_of_all "default_algorithm" (by decide)
  have length := bare_of_all "salt_length" (by decide)
  have logging := bare_of_all "logging" (by decide)
  have level := bare_of_all "level" (by decide)
  have ansi := bare_of_all "ansi" (by decide)
  exact ⟨⟨format, trivial⟩, trivial, pairwise, ⟨algorithm, trivial⟩, ⟨length, small⟩, trivial, logging,
    ⟨level, trivial⟩, ⟨ansi, trivial⟩, fun _ none => nomatch none⟩

def settingsTable (s : Settings) : Toml :=
  .table [("default_algorithm", .str s.defaultAlgorithm.name), ("salt_length", .int s.saltLength)]

def loggingTable (l : Logging) : Toml := .table [("level", .str l.level), ("ansi", .bool l.ansi)]

def fields (p : Preferences) : List (String × Toml) :=
  [("output_format", .str p.format.name),
    ("pairwise", settingsTable p.shared.pairwise),
    ("logging", loggingTable p.shared.logging)]

theorem document_fields (p : Preferences) (small : p.shared.pairwise.saltLength < Text.signBound) :
    parse? p.document = some p.fields := by
  rw [parse_rows p.rows (rows_formed p small) p.document (document_rows p)]
  rfl

theorem settings_read (s : Settings) : Configuration.settingsOfToml? (settingsTable s) = some s := by
  show ((Algorithm.ofExactName? s.defaultAlgorithm.name).bind fun algorithm =>
    some (⟨algorithm, s.saltLength⟩ : Settings)) = _
  rw [Algorithm.of_exact_name]
  rfl

theorem fields_shared (p : Preferences) : Configuration.ofFields? p.fields = some p.shared := by
  have pairwise : withDefault "pairwise" Configuration.settingsOfToml? {} p.fields = some p.shared.pairwise :=
    settings_read p.shared.pairwise
  have logging : withDefault "logging" Configuration.loggingOfToml? {} p.fields = some p.shared.logging := rfl
  simp only [Configuration.ofFields?, pairwise, logging, Option.bind_eq_bind, Option.bind_some, Option.pure_def]

theorem document_read (filters : LogFilter.Language) (p : Preferences) (checked : p.shared.check filters = .ok ())
    (small : p.shared.pairwise.saltLength < Text.signBound) : ofText filters p.document = .ok p := by
  have parsed := document_fields p small
  have shared : Configuration.ofText filters p.document = .ok p.shared := by
    rw [Configuration.ofText, parsed]
    simp only [Option.bind_some, fields_shared, checked]
    rfl
  have format : withDefault "output_format" formatOfToml? Format.table p.fields = some p.format := by
    exact Format.of_name p.format
  rw [ofText, shared, parsed]
  simp only [Option.getD_some, format]
  rfl

def notStored : Failure := .configuration "failed to serialize config"

theorem to_text_ok (p : Preferences) (text : String) (written : p.toText = .ok text) :
    p.shared.pairwise.saltLength < Text.signBound ∧ text = p.document := by
  unfold toText at written
  split at written
  · rename_i small
    exact ⟨small, (Except.ok.inj written).symm⟩
  · cases written

end Console.Preferences

namespace Console

open Preferences

-- A path at which a file can be written, once its folders are made.
def Disk.Writable (d : Disk) (path : String) : Prop :=
  (d.makeFolders path).1 = true ∧ ∃ place, (d.makeFolders path).2.place? path = some place ∧
    (d.makeFolders path).2.node? place ≠ some .folder

-- The two ways that saving the preferences can end. Unless all goes well no file is touched.
inductive SaveOutcome (d : Disk) (path : String) (p : Preferences) : Except Failure Unit × Disk → Prop where
  | failed (failure : Failure) (after : Disk) (grown : Disk.Grown d after) :
      SaveOutcome d path p (.error failure, after)
  | saved (content : String) (written : p.toText = .ok content) (made : (d.makeFolders path).1 = true)
      (place : Place) (led : (d.makeFolders path).2.place? path = some place)
      (free : (d.makeFolders path).2.node? place ≠ some .folder) :
      SaveOutcome d path p (.ok (), (d.makeFolders path).2.put place (.file content))

theorem save_run (d : Disk) (path : String) (p : Preferences) :
    (save Disk.machine path p).run d =
      match d.makeFolders path, p.toText with
      | (false, folders), _ => (.error (unwritableFile path), folders)
      | (true, folders), .error failure => (.error failure, folders)
      | (true, folders), .ok content =>
        match folders.write path content with
        | (false, after) => (.error (unwritableFile path), after)
        | (true, after) => (.ok (), after) := by
  simp only [StateT.run, save, Disk.machine, bind, StateT.bind, pure]
  rcases d.makeFolders path with ⟨_ | _, folders⟩
  · rfl
  · cases p.toText with
    | error failure => rfl
    | ok content =>
        simp only [if_true, StateT.bind, bind]
        rcases folders.write path content with ⟨_ | _, after⟩ <;> rfl

theorem save_outcome (d : Disk) (path : String) (p : Preferences) :
    SaveOutcome d path p ((save Disk.machine path p).run d) := by
  have grown := Disk.make_folders_grown d path
  have saved := @SaveOutcome.saved d path p
  rw [save_run]
  generalize d.makeFolders path = made at grown saved
  obtain ⟨_ | _, folders⟩ := made
  · exact .failed _ folders grown
  · cases written : p.toText with
    | error failure => exact .failed failure folders grown
    | ok content =>
        rcases Disk.write_cases folders path content with kept | ⟨place, led, free, put⟩
        · simp only [kept]
          exact .failed _ folders grown
        · simp only [put]
          exact saved content written rfl place led free

theorem save_ok_iff (d : Disk) (path : String) (p : Preferences) :
    (∃ after, (save Disk.machine path p).run d = (.ok (), after)) ↔
      d.Writable path ∧ p.shared.pairwise.saltLength < Text.signBound := by
  constructor
  · rintro ⟨after, ran⟩
    have outcome := save_outcome d path p
    rw [ran] at outcome
    cases outcome with
    | saved content written made place led free => exact ⟨⟨made, place, led, free⟩, (to_text_ok p content written).1⟩
  · rintro ⟨⟨made, place, led, free⟩, small⟩
    have written : p.toText = .ok p.document := if_pos small
    have folders : d.makeFolders path = (true, (d.makeFolders path).2) := Prod.ext made rfl
    refine ⟨(d.makeFolders path).2.put place (.file p.document), ?_⟩
    rw [save_run, folders, written]
    simp only [Disk.write_free _ place path p.document led free]

theorem save_large (d : Disk) (path : String) (p : Preferences) (made : (d.makeFolders path).1 = true)
    (large : Text.signBound ≤ p.shared.pairwise.saltLength) :
    (save Disk.machine path p).run d = (.error notStored, (d.makeFolders path).2) := by
  have unwritten : p.toText = .error notStored := if_neg (Nat.not_lt_of_le large)
  have folders : d.makeFolders path = (true, (d.makeFolders path).2) := Prod.ext made rfl
  rw [save_run, folders, unwritten]

namespace Preferences

variable (filters : LogFilter.Language)

-- What setting one value after the other leads to, each of them accepted.
inductive Reached : Preferences → Prop where
  | defaults : Reached {}
  | set (p after : Preferences) (key text : String) (earlier : Reached p)
      (accepted : p.set filters key text = (after, none)) :
      Reached after

theorem accepted_checked (p after : Preferences) (key text : String)
    (accepted : p.set filters key text = (after, none)) :
    after.shared.check filters = .ok () := by
  have outcome := set_outcome filters p key text
  rw [accepted] at outcome
  cases outcome with
  | accepted setting value known read checked => exact checked

-- The level of the defaults is one of those that every language has.
theorem defaults_checked : ({} : Preferences).shared.check filters = .ok () := by
  rw [check_iff]
  intro setting
  cases setting with
  | saltLength => exact (by decide : Settings.minSaltBytes ≤ 24)
  | level => exact filters.levels "info" (by decide)
  | format | algorithm | ansi => trivial

theorem reached_checked (p : Preferences) (reached : Reached filters p) : p.shared.check filters = .ok () := by
  cases reached with
  | defaults => exact defaults_checked filters
  | set p after key text earlier accepted => exact accepted_checked filters _ _ key text accepted

theorem saved_read (d after : Disk) (path : String) (p : Preferences) (checked : p.shared.check filters = .ok ())
    (saved : (save Disk.machine path p).run d = (.ok (), after)) :
    preferencesOf filters path (after.read path) = .ok p := by
  have outcome := save_outcome d path p
  rw [saved] at outcome
  cases outcome with
  | saved content written made place led free =>
      obtain ⟨small, rfl⟩ := to_text_ok p content written
      rw [Disk.read_put _ place _ free path led]
      exact document_read filters p checked small

theorem reached_stored_iff (p : Preferences) (reached : Reached filters p) (d : Disk) (path : String)
    (writable : d.Writable path) :
    ((∃ after, (save Disk.machine path p).run d = (.ok (), after) ∧
        preferencesOf filters path (after.read path) = .ok p) ↔ p.shared.pairwise.saltLength < Text.signBound) ∧
      (Text.signBound ≤ p.shared.pairwise.saltLength → ∃ after,
        (save Disk.machine path p).run d = (.error notStored, after) ∧ d.SameFiles after) := by
  refine ⟨⟨?_, fun small => ?_⟩, fun large => ?_⟩
  · rintro ⟨after, saved, _⟩
    exact ((save_ok_iff d path p).mp ⟨after, saved⟩).2
  · obtain ⟨after, saved⟩ := (save_ok_iff d path p).mpr ⟨writable, small⟩
    exact ⟨after, saved, saved_read filters d after path p (reached_checked filters p reached) saved⟩
  · exact ⟨_, save_large d path p writable.1 large, (Disk.make_folders_grown d path).same_files⟩

theorem length_set_reached (text : String) (after : Preferences)
    (accepted : ({} : Preferences).set filters "pairwise.salt_length" text = (after, none)) : Reached filters after :=
  .set {} after "pairwise.salt_length" text .defaults accepted

def withLength (length : Nat) : Preferences := ({} : Preferences).withSettings fun s => { s with saltLength := length }

theorem empty_disk_writable : Disk.Writable {} "folder/kc-pairwise.toml" :=
  ⟨by decide +kernel, ["folder", "kc-pairwise.toml"], by decide +kernel, by decide +kernel⟩

-- The greatest length that a document can have.
theorem greatest_length_stored :
    Reached LogFilter.grammar (withLength 9223372036854775807) ∧ Disk.Writable {} "folder/kc-pairwise.toml" ∧
      ∃ after,
        (save Disk.machine "folder/kc-pairwise.toml" (withLength 9223372036854775807)).run {} = (.ok (), after) ∧
        preferencesOf LogFilter.grammar "folder/kc-pairwise.toml" (after.read "folder/kc-pairwise.toml") =
          .ok (withLength 9223372036854775807) := by
  have reached : Reached LogFilter.grammar (withLength 9223372036854775807) :=
    length_set_reached LogFilter.grammar "9223372036854775807" _ (by decide +kernel)
  have stored := reached_stored_iff LogFilter.grammar _ reached {} "folder/kc-pairwise.toml" empty_disk_writable
  exact ⟨reached, empty_disk_writable, stored.1.mpr (by decide)⟩

-- One more is accepted as a setting, and then nothing can be stored.
theorem greater_length_not_stored :
    Reached LogFilter.grammar (withLength 9223372036854775808) ∧ Disk.Writable {} "folder/kc-pairwise.toml" ∧
      ((save Disk.machine "folder/kc-pairwise.toml" (withLength 9223372036854775808)).run {}).1 = .error notStored :=
  ⟨length_set_reached LogFilter.grammar "9223372036854775808" _ (by decide +kernel), empty_disk_writable,
    congrArg Prod.fst (save_large {} "folder/kc-pairwise.toml" _ empty_disk_writable.1 (by decide +kernel))⟩

end Preferences

end Console

end PairwiseId
