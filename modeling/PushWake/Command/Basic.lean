import PushWake.Command.Arguments
import PushWake.Command.Rehearsal
import PushWake.Settings.File
import PushWake.Trigger.Basic
/-!
# Commands

What each command does with the file of the settings, and what it prints. A command sees of the
world outside only what is listed here, and leaves a file behind.
-/

namespace PushWake

/-- What a command sees of the world outside. -/
structure Surroundings where
  /-- The path of the settings' file. -/
  path : String
  /-- The content of the settings' file. -/
  file : Option ByteArray := none
  /-- The words of the wallet in the environment. -/
  words : Option String := none
  /-- The script of a run, or why there is none. -/
  script : Except String String := .ok ""

/-- Why a command failed. -/
inductive CommandError where
  | settings (error : SettingsError)
  | trigger (error : TriggerError)
  | service (error : ServiceError)
  /-- The script cannot be opened. -/
  | script (path reason : String)
deriving DecidableEq, Repr, Inhabited

namespace CommandError

/-- The error and then, once more, the error inside it. -/
def chain : ServiceError → String
  | .config e => (ServiceError.config e).message ++ ": " ++ e.message
  | .connection e => (ServiceError.connection e).message ++ ": " ++ e.message
  | e => e.message

/-- The error in words, from the outermost context to the cause. -/
def message : CommandError → String
  | settings e => e.message
  | trigger e => e.message
  | service e => "Failed to start service: " ++ chain e
  | script path reason => "Failed to open script " ++ path ++ ": " ++ reason

end CommandError

/-- What a command leaves: what was shown when, the file of the settings, and what went wrong. -/
structure Report where
  shown : List (Nat × Shown) := []
  file : Option ByteArray
  error : Option CommandError := none

namespace Report

/-- The text that was printed, without the log. -/
def output (r : Report) : String :=
  String.join (r.shown.map fun s =>
    match s.2 with
    | .text line => line ++ "\n"
    | .log _ => "")

end Report

namespace Command

/-- A command that succeeds and prints lines. -/
def printed (s : Surroundings) (lines : List String) : Report :=
  ⟨lines.map fun line => (0, .text line), s.file, none⟩

/-- A command that fails. -/
def refused (s : Surroundings) (e : CommandError) : Report := ⟨[], s.file, some e⟩

/-- Loads the settings and goes on with them. -/
def withSettings (s : Surroundings) (go : Settings → Report) : Report :=
  match Settings.load s.path s.file with
  | .ok settings => go settings
  | .error e => refused s (.settings e)

/-- Replaces the time limits that are given. -/
def override (serviceMs emptyMs : Option UInt64) (settings : Settings) : Settings :=
  let settings := (serviceMs.map settings.withServiceTimeout).getD settings
  (emptyMs.map settings.withEmptyDelay).getD settings

/-- The service of the settings, on the simulated wallet. -/
def startService (s : Surroundings) (settings : Settings) :
    Except ServiceError (Service Simulator) :=
  Service.start settings.service true
    { settings := settings.simulator, words := settings.credentialWords s.words }

/-- Runs the service against a script. -/
def rehearse (s : Surroundings) (script : Option String) (settings : Settings) : Report :=
  match startService s settings with
  | .error e => refused s (.service e)
  | .ok service =>
    let r := (Rehearsal.ofService service).greet
    match s.script with
    | .error reason => ⟨r.shown, s.file, some (.script (script.getD "") reason)⟩
    | .ok text => ⟨(r.play (Rehearsal.linesOf text)).shown, s.file, none⟩

/-- Reads a message without running it. -/
def decodeMessage (s : Surroundings) (message : String) : Report :=
  match TriggerMessage.ofText message with
  | .error e => refused s (.trigger e)
  | .ok m =>
    match Trigger.ofMessage m with
    | .error e => refused s (.trigger e)
    | .ok t =>
      printed s ["Trigger", "  Kind:    " ++ t.kind.name, "  Summary: " ++ t.summary,
        "  Request: " ++ t.debug]

/-- Prints all settings. -/
def printSettings (s : Surroundings) (settings : Settings) : Report :=
  printed s ("Configuration" :: settings.list.map fun setting =>
    "  " ++ Console.padded 20 setting.1 ++ " " ++ setting.2)

/-- Writes the standard settings, unless there is a file. -/
def writeStandard (s : Surroundings) : Report :=
  match s.file with
  | some _ => printed s ["• Config already exists: " ++ s.path]
  | none =>
    { printed s ["✓ Config written: " ++ s.path] with
      file := some ({} : Settings).toText.toUTF8 }

/-- Prints a setting. -/
def printSetting (s : Surroundings) (key : String) (settings : Settings) : Report :=
  match settings.get? key with
  | some value => printed s [value]
  | none => refused s (.settings (.unset key))

/-- Changes a setting in the file. -/
def changeSetting (s : Surroundings) (key value : String) (settings : Settings) : Report :=
  match settings.set key value with
  | (_, .error e) => refused s (.settings e)
  | (settings, .ok ()) =>
    { printed s ["✓ " ++ key ++ " updated"] with file := some settings.toText.toUTF8 }

/-- Does what a command says. -/
def execute (s : Surroundings) : Command → Report
  | .run script serviceMs emptyMs _ =>
    withSettings s fun settings => rehearse s script (override serviceMs emptyMs settings)
  | .decode message => decodeMessage s message
  | .showSettings => withSettings s (printSettings s)
  | .initSettings => writeStandard s
  | .getSetting key => withSettings s (printSetting s key)
  | .setSetting key value => withSettings s (changeSetting s key value)
  | .settingsPath => printed s [s.path]

end Command

end PushWake
