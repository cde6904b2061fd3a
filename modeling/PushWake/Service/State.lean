import PushWake.Job.Set
import PushWake.Service.Activity
import PushWake.Service.Occurrence
/-!
# The state of a service

Everything a service remembers, and the smallest changes of it: a line of the log, an entry of the
history, a wake-up. A wake-up says who may have become able to go on; the service itself never reads
them, they are there for whoever hands out turns.
-/

namespace PushWake

/-- A completer: the job it belongs to, and the outcome once there is one. -/
structure Completer where
  job : Identity
  outcome : Option JobOutcome := none
deriving DecidableEq, Repr, Inhabited

/-- A completer as a structured value. -/
def Completer.debug (c : Completer) : String :=
  Text.record "JobCompleter" [("id", Text.wrapped "JobId" [c.job.text]),
    ("pending", if c.outcome.isNone then "true" else "false")]

/-- A listener on a session. -/
structure Listener where
  session : Nat
  number : Nat
  target : ListenerTarget
deriving DecidableEq, Repr, Inhabited

/-- A service among collaborators whose state is of type `W`. -/
structure Service (W : Type) where
  config : ServiceConfig
  /-- Whether plugins can be made at all. -/
  makesPlugins : Bool
  world : W
  now : Nat := 0
  /-- How many identities have been drawn. -/
  drawn : Nat := 0
  hub : ConnectionHub := {}
  listeners : List Listener := []
  /-- How many listeners have been accepted. -/
  listenersAdded : Nat := 0
  shelf : PluginShelf := {}
  jobs : JobSet := {}
  /-- What the jobs have to do. -/
  works : List (Identity × JobWork) := []
  completers : List Completer := []
  /-- The commands that the scheduler has not dealt with. -/
  commands : List SchedulerCommand := []
  /-- Whether somebody reads the commands. -/
  inboxOpen : Bool := true
  scheduler : Scheduler := {}
  /-- How many events the jobs' listener has seen. -/
  dispatched : Nat := 0
  /-- Whether the service has begun to end. -/
  ending : Bool := false
  /-- Why the service ended. -/
  terminated : Option ShutdownReason := none
  /-- Whether the host has let go of the service. -/
  released : Bool := false
  activities : List (Nat × Activity) := []
  /-- How many activities have been begun. -/
  begun : Nat := 0
  /-- What happened, with the time. -/
  history : List (Nat × Occurrence) := []
  /-- The lines that were logged, with the time. -/
  log : List (Nat × LogLine) := []
  /-- Who may have become able to go on. -/
  wakes : List Nat := []
deriving Inhabited

namespace Service

variable {W : Type}

/-! ## Traces -/

/-- Logs a line. -/
def say (s : Service W) (tag : String) (level : LogLevel) (message : String) : Service W :=
  { s with log := s.log ++ [(s.now, ⟨tag, level, message⟩)] }

/-- Logs lines of somebody else. -/
def quote (s : Service W) (lines : List LogLine) : Service W :=
  { s with log := s.log ++ lines.map fun line => (s.now, line) }

/-- Notes what happened. -/
def note (s : Service W) (o : Occurrence) : Service W :=
  { s with history := s.history ++ [(s.now, o)] }

/-- Wakes an activity up. -/
def wake (s : Service W) (k : Nat) : Service W :=
  { s with wakes := s.wakes ++ [k] }

/-! ## Identities -/

/-- Draws a fresh identity. -/
def draw (s : Service W) : Service W × Identity :=
  ({ s with drawn := s.drawn + 1 }, ⟨s.drawn⟩)

/-! ## Calls -/

/-- Begins a call: the collaborator's state changes, its lines are logged, and the answer is on its
way. -/
def ask {α : Type} (s : Service W) (reply : Answer α × W) : Service W × Pending α :=
  ({ s with world := reply.2 }.quote reply.1.lines, ⟨s.now + reply.1.delay, reply.1.result⟩)

/-! ## Activities -/

/-- The activity of a number. -/
def activity? (s : Service W) (k : Nat) : Option Activity :=
  (s.activities.find? fun a => a.1 == k).map Prod.snd

/-- Begins an activity. Its number is the count of those before it. -/
def begin (s : Service W) (a : Activity) : Service W :=
  { s with activities := s.activities ++ [(s.begun, a)], begun := s.begun + 1 }

/-- Begins an activity and lets it have a turn later. -/
def spawn (s : Service W) (a : Activity) : Service W :=
  (s.begin a).wake s.begun

/-- Moves an activity to another stage. -/
def put (s : Service W) (k : Nat) (a : Activity) : Service W :=
  { s with activities := s.activities.map fun b => if b.1 == k then (k, a) else b }

/-- Ends an activity. -/
def finish (s : Service W) (k : Nat) : Service W :=
  { s with activities := s.activities.filter fun b => b.1 != k }

/-! ## Locks -/

/-- Wakes the new holder of a lock that was handed over. -/
def wakeHolder (s : Service W) (l : Lock) : Service W :=
  match l.holder with
  | some k => s.wake k
  | none => s

/-- Asks for the slot of the session. -/
def requestSlot (s : Service W) (k : Nat) : Service W :=
  { s with hub := { s.hub with lock := s.hub.lock.request k } }

/-- Whether an activity holds the slot. -/
def holdsSlot (s : Service W) (k : Nat) : Bool := s.hub.lock.isHeldBy k

/-- Hands the slot on. -/
def releaseSlot (s : Service W) : Service W :=
  wakeHolder { s with hub := { s.hub with lock := s.hub.lock.release } } s.hub.lock.release

/-- Asks for the shelf of the plugins. -/
def requestShelf (s : Service W) (k : Nat) : Service W :=
  { s with shelf := { s.shelf with lock := s.shelf.lock.request k } }

/-- Whether an activity holds the shelf. -/
def holdsShelf (s : Service W) (k : Nat) : Bool := s.shelf.lock.isHeldBy k

/-- Hands the shelf on. -/
def releaseShelf (s : Service W) : Service W :=
  wakeHolder { s with shelf := { s.shelf with lock := s.shelf.lock.release } } s.shelf.lock.release

/-! ## Commands -/

/-- Whether an activity is the scheduler. -/
def isScheduler : Activity → Bool
  | .scheduler _ => true
  | _ => false

/-- Wakes the scheduler, if it runs. -/
def wakeScheduler (s : Service W) : Service W :=
  match s.activities.find? fun a => isScheduler a.2 with
  | some (k, _) => s.wake k
  | none => s

/-- Sends the scheduler a command; without a reader it is dropped. -/
def send (s : Service W) (c : SchedulerCommand) : Service W :=
  if s.inboxOpen then
    wakeScheduler ({ s with commands := s.commands ++ [c] }.note (.command c))
  else (s.note (.command c)).say "scheduler" .trace ("Scheduler gone, dropping " ++ c.name)

end Service

end PushWake
