import PushWake.Console.Basic
import PushWake.Runner.Basic
import PushWake.Script.Line
import PushWake.Simulator.Basic
/-!
# Rehearsals

A script is played line by line against a service that runs on the simulated wallet. What the
console shows is collected with the time at which it shows it. When the script is over, the service
runs until it ends by itself.
-/

namespace PushWake

/-- A line that the console shows. -/
inductive Shown where
  | text (line : String)
  | log (line : LogLine)
deriving DecidableEq, Repr, Inhabited

/-- A service that is played to, and what has been shown so far. -/
structure Rehearsal where
  runner : Runner Simulator
  /-- How much of the history and of the log has been shown. -/
  seen : Nat := 0
  logged : Nat := 0
  shown : List (Nat × Shown) := []

namespace Rehearsal

/-- Far more turns than a script takes. -/
def patience : Nat := 1000000000

/-- The service. -/
def service (r : Rehearsal) : Service Simulator := r.runner.service

/-- What the console shows of an occurrence. -/
def lineOf? : Occurrence → Option String
  | .notify _ n => some (Console.notification n)
  | .reply _ url body => if Simulator.isWeb url then none else some (Console.reply url body)
  | .hostShutdown reason => some (Console.shutdown reason)
  | _ => none

/-- The levels that the console shows. -/
def isShown : LogLevel → Bool
  | .error => true
  | .warn => true
  | .info => true
  | .debug => false
  | .trace => false

/-- What is new in the history. -/
def newLines (r : Rehearsal) : List (Nat × Shown) :=
  (r.service.history.drop r.seen).filterMap fun o => (lineOf? o.2).map fun l => (o.1, .text l)

/-- What is new in the log. -/
def newLogs (r : Rehearsal) : List (Nat × Shown) :=
  ((r.service.log.drop r.logged).filter fun l => isShown l.2.level).map fun l => (l.1, .log l.2)

/-- Shows what is new. -/
def catchUp (r : Rehearsal) : Rehearsal :=
  { r with seen := r.service.history.length
           logged := r.service.log.length
           shown := r.shown ++ r.newLogs ++ r.newLines }

/-- Shows a line, after what is new. -/
def say (r : Rehearsal) (line : String) : Rehearsal :=
  let r := r.catchUp
  { r with shown := r.shown ++ [(r.service.now, .text line)] }

/-- Waits in the foreground. -/
def await (r : Rehearsal) (a : Await) : Rehearsal :=
  { r with runner := Runner.loop Simulator.collaborators a patience r.runner }

/-- Reports an event of the session, and to how many. -/
def playEvent (r : Rehearsal) (e : Event) : Rehearsal :=
  let listeners :=
    match r.service.newestSession? with
    | some session => (r.service.listenersOf session).length
    | none => 0
  let runner :=
    match r.service.newestSession? with
    | some session => r.runner.modify fun s => s.emit Simulator.collaborators session e
    | none => r.runner
  say { r with runner } ("⚡ " ++ e.debug ++ " (" ++ toString listeners ++ " listener(s))")

/-- Hands in a trigger and waits for its answer. -/
def playTrigger (r : Rehearsal) (m : TriggerMessage) : Rehearsal :=
  let (runner, numbers) :=
    r.runner.call Simulator.collaborators [.trigger m .arriving] patience
  let r := { r with runner }
  match numbers.filterMap runner.service.answer? with
  | .trigger (.ok id) :: _ => r.say ("✓ " ++ m.kind ++ " → job " ++ id.text)
  | .trigger (.error e) :: _ => r.say ("✗ " ++ m.kind ++ ": " ++ e.message)
  | _ => r

/-- Plays a line. -/
def playLine (r : Rehearsal) (line : String) : Rehearsal :=
  match ScriptLine.ofText line with
  | .error e => r.say ("✗ " ++ e.message)
  | .ok none => r
  | .ok (some (.sleep ms)) => r.await (.moment (r.service.now + ms.toNat))
  | .ok (some (.event e)) => r.playEvent e
  | .ok (some (.trigger m)) => r.playTrigger m

/-- Plays lines until there are no more, or the service has ended. Says whether it came
to the end. -/
def playLines : Rehearsal → List String → Rehearsal × Bool
  | r, [] => (r, r.service.terminated.isNone)
  | r, line :: rest =>
    match r.service.terminated with
    | some _ => (r, false)
    | none => (r.playLine line).playLines rest

/-- What is shown at the start. -/
def greet (r : Rehearsal) : Rehearsal :=
  let t := r.service.config.timeouts
  ["walletnotify service started", "  Service timeout: " ++ Text.duration t.serviceMs.toNat,
    "  Empty delay:     " ++ Text.duration t.emptyDelayMs.toNat, ""].foldl say r

/-- Why the service ended, to the user. -/
def reasonText : ShutdownReason → String
  | .serviceTimeout => "service timeout reached"
  | .emptyDelay => "no more work"
  | .requested => "requested"

/-- What is shown at the end. -/
def summarize (r : Rehearsal) : Rehearsal :=
  match r.service.terminated with
  | none => r.catchUp
  | some reason =>
    ["", "Service stopped: " ++ reasonText reason,
      "  Connection events: " ++ toString r.service.dispatched].foldl say r

/-- Plays a script to the end of the service. -/
def play (r : Rehearsal) (lines : List String) : Rehearsal :=
  let (r, finished) := r.playLines lines
  let r := if finished then r.say "Script finished, waiting for the service to stop" else r
  (r.await (.termination none)).summarize

/-- A rehearsal with a service that has just started. -/
def ofService (s : Service Simulator) : Rehearsal :=
  { runner := Runner.ofService s }

/-- Takes a carriage return off the end of a line, last character first. -/
def chompReturn : List Char → List Char
  | '\r' :: rest => rest
  | cs => cs

/-- Splits a text into lines, given the line under way, last character first. A line ends with a
line feed, and a carriage return before it does not belong to the line. -/
def splitLines : List Char → List Char → List String
  | [], [] => []
  | line, [] => [String.ofList line.reverse]
  | line, c :: rest =>
    if c = '\n' then String.ofList (chompReturn line).reverse :: splitLines [] rest
    else splitLines (c :: line) rest

/-- The lines of a script. -/
def linesOf (script : String) : List String := splitLines [] script.toList

end Rehearsal

end PushWake
