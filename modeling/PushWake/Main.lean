import PushWake.Command.Basic
/-!
# The command line

Reads the settings' file, the environment and the script, lets the library do the work, and shows
what came of it at its own pace.
-/

namespace PushWake.Terminal

/-- The content of a file, unless it is not there. -/
def readFile? (path : String) : IO (Option ByteArray) := do
  try
    return some (← IO.FS.readBinFile path)
  catch
    | .noFileOrDirectory .. => return none
    | e => throw e

/-- Why a file could not be read. -/
def reasonOf : IO.Error → String
  | .noFileOrDirectory .. => "No such file or directory (os error 2)"
  | .permissionDenied .. => "Permission denied (os error 13)"
  | e => toString e

/-- All lines of the standard input. -/
partial def readInput (stream : IO.FS.Stream) (text : String) : IO String := do
  let line ← stream.getLine
  if line.isEmpty then return text else readInput stream (text ++ line)

/-- The script of a run, or why there is none. -/
def readScript : Command → IO (Except String String)
  | .run (some path) _ _ _ => do
    try
      return .ok (← IO.FS.readFile path)
    catch e => return .error (reasonOf e)
  | .run none _ _ _ => do
    return .ok (← readInput (← IO.getStdin) "")
  | _ => return .ok ""

/-- The directory of the settings of all programs. -/
def settingsRoot : IO String := do
  match ← IO.getEnv "XDG_CONFIG_HOME" with
  | some dir => return dir
  | none => return (← IO.getEnv "HOME").getD "." ++ "/.config"

/-- Shows lines when their time has come. -/
def present : Nat → List (Nat × Shown) → IO Unit
  | _, [] => return
  | now, (t, shown) :: rest => do
    if now < t then IO.sleep (UInt32.ofNat (t - now))
    match shown with
    | .text line => IO.println line
    | .log line => (← IO.getStderr).putStr (Console.logLine line)
    present (max now t) rest

/-- What is wrong with the arguments. -/
def usageText : UsageError → String
  | .missingCommand => "a command is required: run, decode or config"
  | .unknownCommand => "unrecognized command"
  | .missingArgument => "an argument is missing"
  | .unknownArgument => "unexpected argument"
  | .missingValue => "an option lacks its value"
  | .badValue => "the value of an option is not a number"
  | .repeatedOption => "an option is given twice"
  | .helpRequested =>
      "commands: run, decode, config show, config init, config get, config set, config path"
  | .versionRequested => "walletnotify"

/-- Carries a command out. -/
def carryOut (command : Command) : IO UInt32 := do
  let dir := (← settingsRoot) ++ "/walletnotify"
  let path := dir ++ "/config.json"
  let file ← readFile? path
  let report := command.execute
    ⟨path, file, ← IO.getEnv "WALLETNOTIFY_MNEMONIC", ← readScript command⟩
  match report.file with
  | some bytes =>
    if report.file != file then
      IO.FS.createDirAll dir
      IO.FS.writeBinFile path bytes
  | none => pure ()
  present 0 report.shown
  match report.error with
  | some e =>
    IO.eprintln ("Error: " ++ e.message)
    return 1
  | none => return 0

end PushWake.Terminal

/-- Reads the arguments and carries the command out. -/
def main (args : List String) : IO UInt32 :=
  match PushWake.Command.ofArguments args with
  | .ok command => PushWake.Terminal.carryOut command
  | .error e => do
    IO.eprintln ("error: " ++ PushWake.Terminal.usageText e)
    return 2
