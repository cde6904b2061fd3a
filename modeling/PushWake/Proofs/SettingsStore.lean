import PushWake.Command.Basic
import PushWake.Proofs.NormalForms
import PushWake.Proofs.SavedSettings

/-!
# The file of the settings as a store

The commands work on one file, one after the other. Only two of them write it, and each writes the
text of settings that are valid, so what one command leaves the next can load. What a user has set
is what the user gets, in its normal form, until it is set again.
-/

namespace PushWake.Command

open Settings

/-! ## Runs of commands -/

/-- The file holds these settings. A file that is not there holds the standard ones. -/
def Holds (s : Surroundings) (settings : Settings) : Prop :=
  Settings.load s.path s.file = .ok settings

/-- The surroundings with the file that a command leaves. -/
def after (s : Surroundings) (c : Command) : Surroundings :=
  { s with file := (execute s c).file }

/-- The command sets a key to a value, and succeeds. -/
def Sets (s : Surroundings) (c : Command) (key value : String) : Prop :=
  c = .setSetting key value ∧ (execute s c).error = none

/-- What the user is told who asks for a setting that shows this. -/
def answer (s : Surroundings) (key : String) : Option String → Report
  | some text => printed s [text]
  | none => refused s (.settings (.unset key))

variable {s : Surroundings} {c : Command} {settings changed : Settings} {key value : String}

/-! ## What a command does to the file -/

/-- A change that is refused leaves the file. -/
theorem changeSetting_of_refused {e : SettingsError} (h : (settings.set key value).2 = .error e) :
    changeSetting s key value settings = refused s (.settings e) := by
  rw [changeSetting]
  split <;> simp_all

/-- A change that succeeds found the settings and was accepted. -/
theorem Sets.accepted (h : Sets s c key value) :
    ∃ settings changed, Holds s settings ∧ settings.set key value = (changed, .ok ()) := by
  obtain ⟨rfl, hok⟩ := h
  rw [execute, withSettings] at hok
  split at hok
  case h_2 => cases hok
  case h_1 settings hload =>
    cases hset : settings.set key value with
    | mk changed verdict =>
      cases verdict with
      | ok => exact ⟨settings, changed, hload, hset⟩
      | error e =>
        rw [changeSetting_of_refused (by rw [hset])] at hok
        cases hok

theorem Holds.unique (h : Holds s settings) (h' : Holds s changed) : settings = changed :=
  Except.ok.inj (h.symm.trans h')

/-- Settings with a relay plugin that has a secret key. -/
def relaySettings : Settings :=
  { service := { plugins := ⟨some ⟨["wss://a"], some "5ec4e7"⟩⟩ } }

end PushWake.Command
