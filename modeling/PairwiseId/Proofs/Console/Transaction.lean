import PairwiseId.Proofs.Console.Storage

/- Setting a preference from the command line is a transaction on the configuration file. Unless
   the command succeeds all files are as they were; if it does, one file has the preferences that
   were loaded, with one setting changed. -/
namespace PairwiseId.Console

set_option autoImplicit false

open Preferences

namespace Disk

-- The files of all other places are as they were.
def SameElsewhere (place : Place) (d e : Disk) : Prop :=
  ∀ other content, other ≠ place → (e.node? other = some (.file content) ↔ d.node? other = some (.file content))

theorem put_elsewhere (d folders : Disk) (place : Place) (content : String) (grown : Grown d folders) :
    SameElsewhere place d (folders.put place (.file content)) := by
  intro other held differs
  rw [node_put_other folders place other _ differs]
  exact grown.same_files other held

end Disk

theorem saved_elsewhere (d after : Disk) (path : String) (p : Preferences)
    (saved : (save Disk.machine path p).run d = (.ok (), after)) :
    ∃ place, after.place? path = some place ∧ d.SameElsewhere place after := by
  have outcome := save_outcome d path p
  rw [saved] at outcome
  cases outcome with
  | saved content written made place led free =>
      exact ⟨place, Disk.place_put _ place _ free path led,
        Disk.put_elsewhere d _ place content (Disk.make_folders_grown d path)⟩

theorem save_with_run (d : Disk) (path : String) (p : Preferences) (note : String) :
    (saveWith Disk.machine path p note).run d =
      match (save Disk.machine path p).run d with
      | (.ok (), after) => ({ output := success note }, after)
      | (.error failure, after) => (.ofFailure failure, after) := by
  simp only [StateT.run, saveWith, bind, StateT.bind]
  rcases save Disk.machine path p d with ⟨_ | _, after⟩ <;> rfl

section Run

variable (filters : LogFilter.Language) (env : Environment) (i : Invocation) (key text : String) (d : Disk)

-- What the command gets through before anything is written.
structure Ready (path : String) (before : Preferences) (setting : Setting) (value : setting.Value) : Prop where
  located : preferencesPath env i.config = .ok path
  loaded : preferencesOf filters path (d.read path) = .ok before
  logged : checkLogFilter filters env i.verbose = .ok ()
  known : Setting.ofKey? key = some setting
  read : setting.parse? text = some value
  checked : (before.put setting value).shared.check filters = .ok ()

variable (command : i.command = .setPreference key text)

include command

theorem run_loaded (path : String) (before : Preferences) (located : preferencesPath env i.config = .ok path)
    (loaded : preferencesOf filters path (d.read path) = .ok before)
    (logged : checkLogFilter filters env i.verbose = .ok ()) :
    (i.run filters Disk.machine env).run d = (setPreference filters Disk.machine path before key text).run d := by
  simp only [Invocation.run, located, StateT.run, bind, StateT.bind, Disk.machine, loaded, logged, perform, command]

theorem run_ready (path : String) (before : Preferences) (setting : Setting) (value : setting.Value)
    (ready : Ready filters env i key text d path before setting value) :
    (i.run filters Disk.machine env).run d =
      (saveWith Disk.machine path (before.put setting value) ("Set " ++ key ++ " = " ++ text)).run d := by
  rw [run_loaded filters env i key text d command path before ready.located ready.loaded ready.logged, setPreference,
    set_accepted filters before key text setting value ready.known ready.read ready.checked]

theorem run_stopped_or_ready :
    (∃ failure, (i.run filters Disk.machine env).run d = (.ofFailure failure, d)) ∨
      ∃ path before setting value, Ready filters env i key text d path before setting value := by
  cases located : preferencesPath env i.config with
  | error failure =>
      refine .inl ⟨failure, ?_⟩
      rw [Invocation.run, located]
      rfl
  | ok path =>
      cases loaded : preferencesOf filters path (d.read path) with
      | error failure =>
          refine .inl ⟨failure, ?_⟩
          simp only [Invocation.run, located, StateT.run, bind, StateT.bind, Disk.machine, loaded]
          rfl
      | ok before =>
          cases logged : checkLogFilter filters env i.verbose with
          | error failure =>
              refine .inl ⟨failure, ?_⟩
              simp only [Invocation.run, located, StateT.run, bind, StateT.bind, Disk.machine, loaded, logged]
              rfl
          | ok _ =>
              have outcome := set_outcome filters before key text
              rw [run_loaded filters env i key text d command path before located loaded logged, setPreference]
              generalize before.set filters key text = result at outcome ⊢
              cases outcome with
              | unknown noSetting => exact .inl ⟨_, rfl⟩
              | unread setting known malformed detail => exact .inl ⟨_, rfl⟩
              | refused setting value known read error unchecked => exact .inl ⟨_, rfl⟩
              | accepted setting value known read checked =>
                  exact .inr ⟨path, before, setting, value, ⟨located, loaded, logged, known, read, checked⟩⟩

-- The command fails with no file touched, or it has saved what was loaded with one setting changed.
theorem run_failed_or_saved :
    (∃ failure after, (i.run filters Disk.machine env).run d = (.ofFailure failure, after) ∧ Disk.Grown d after) ∨
      ∃ path before setting value output after, Ready filters env i key text d path before setting value ∧
        (save Disk.machine path (before.put setting value)).run d = (.ok (), after) ∧
        (i.run filters Disk.machine env).run d = ({ output }, after) := by
  rcases run_stopped_or_ready filters env i key text d command with
    ⟨failure, run⟩ | ⟨path, before, setting, value, ready⟩
  · exact .inl ⟨failure, d, run, .refl d⟩
  · rw [run_ready filters env i key text d command path before setting value ready, save_with_run]
    have outcome := save_outcome d path (before.put setting value)
    generalize saved : (save Disk.machine path (before.put setting value)).run d = result at outcome
    cases outcome with
    | failed failure after grown => exact .inl ⟨failure, after, rfl, grown⟩
    | saved content written made place led free => exact .inr ⟨path, before, setting, value, _, _, ready, saved, rfl⟩

-- The command succeeds exactly if all of this holds.
theorem set_preference_succeeds_iff :
    ((i.run filters Disk.machine env).run d).1.exitCode = 0 ↔
      ∃ path before setting value, Ready filters env i key text d path before setting value ∧ d.Writable path ∧
        (before.put setting value).shared.pairwise.saltLength < Text.signBound := by
  constructor
  · intro success
    rcases run_failed_or_saved filters env i key text d command with
      ⟨failure, kept, run, _⟩ | ⟨path, before, setting, value, output, after, ready, saved, run⟩
    · rw [run] at success
      cases success
    · exact ⟨path, before, setting, value, ready, (save_ok_iff d path _).mp ⟨after, saved⟩⟩
  · rintro ⟨path, before, setting, value, ready, writable⟩
    obtain ⟨after, saved⟩ := (save_ok_iff d path (before.put setting value)).mpr writable
    rw [run_ready filters env i key text d command path before setting value ready, save_with_run, saved]
    rfl

theorem set_preference_transaction (ending : Ending) (after : Disk)
    (ran : (i.run filters Disk.machine env).run d = (ending, after)) :
    (ending.exitCode = 0 ↔ ∃ path before setting value, Ready filters env i key text d path before setting value ∧
        d.Writable path ∧ (before.put setting value).shared.pairwise.saltLength < Text.signBound) ∧
      (ending.exitCode ≠ 0 → d.SameFiles after ∧
        ∀ other content, d.read other = .text content → after.read other = .text content) ∧
      (ending.exitCode = 0 → ∃ path before now setting value place,
        preferencesPath env i.config = .ok path ∧ preferencesOf filters path (d.read path) = .ok before ∧
        Setting.ofKey? key = some setting ∧ setting.parse? text = some value ∧
        preferencesOf filters path (after.read path) = .ok now ∧ Changed setting value before now ∧
        after.place? path = some place ∧ d.SameElsewhere place after) := by
  have succeeds := set_preference_succeeds_iff filters env i key text d command
  rw [ran] at succeeds
  refine ⟨succeeds, ?_⟩
  rcases run_failed_or_saved filters env i key text d command with
    ⟨failure, kept, run, grown⟩ | ⟨path, before, setting, value, output, written, ready, saved, run⟩
  · obtain ⟨rfl, rfl⟩ := Prod.mk.inj (ran.symm.trans run)
    exact ⟨fun _ => ⟨grown.same_files, grown.read⟩, fun success => nomatch success⟩
  · obtain ⟨rfl, rfl⟩ := Prod.mk.inj (ran.symm.trans run)
    refine ⟨fun failed => absurd rfl failed, fun _ => ?_⟩
    obtain ⟨place, led, elsewhere⟩ := saved_elsewhere d after path _ saved
    exact ⟨path, before, before.put setting value, setting, value, place, ready.located, ready.loaded, ready.known,
      ready.read, saved_read filters d after path _ ready.checked saved, (changed_iff _ _ _ _).mpr rfl, led, elsewhere⟩

end Run

def handWritten : Disk :=
  { nodes := [(["kc.toml"], .file
      "# by hand\noutput_format = 'json'\npairwise.salt_length = 0x20 # bytes\n\n[logging]\nlevel = \"\"\"\nkc=debug\"\"\"\n")] }

def setCommand (key text : String) : Invocation := ⟨some "kc.toml", none, false, .setPreference key text⟩

def setRun (key text : String) : Ending × Disk :=
  ((setCommand key text).run LogFilter.grammar Disk.machine {}).run handWritten

theorem set_ran (key text : String) :
    ((setCommand key text).run LogFilter.grammar Disk.machine {}).run handWritten =
      ((setRun key text).1, (setRun key text).2) := rfl

theorem hand_written_preferences_set :
    (setRun "logging.ansi" "false").1.exitCode = 0 ∧ (setRun "pairwise.salt_length" "4").1.exitCode ≠ 0 ∧
      (∃ path before now setting value place,
        preferencesPath {} (some "kc.toml") = .ok path ∧
        preferencesOf LogFilter.grammar path (handWritten.read path) = .ok before ∧
        Setting.ofKey? "logging.ansi" = some setting ∧ setting.parse? "false" = some value ∧
        preferencesOf LogFilter.grammar path ((setRun "logging.ansi" "false").2.read path) = .ok now ∧
        Changed setting value before now ∧ (setRun "logging.ansi" "false").2.place? path = some place ∧
        handWritten.SameElsewhere place (setRun "logging.ansi" "false").2) ∧
      handWritten.SameFiles (setRun "pairwise.salt_length" "4").2 := by
  have succeeded : (setRun "logging.ansi" "false").1.exitCode = 0 := by decide +kernel
  have failed : (setRun "pairwise.salt_length" "4").1.exitCode ≠ 0 := by decide +kernel
  have first := set_preference_transaction LogFilter.grammar {}
    (setCommand "logging.ansi" "false") "logging.ansi" "false" handWritten rfl
    _ _ (set_ran "logging.ansi" "false")
  have second := set_preference_transaction LogFilter.grammar {}
    (setCommand "pairwise.salt_length" "4") "pairwise.salt_length" "4"
    handWritten rfl _ _ (set_ran "pairwise.salt_length" "4")
  exact ⟨succeeded, failed, first.2.2 succeeded, (second.2.1 failed).1⟩

end PairwiseId.Console
