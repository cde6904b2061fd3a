import PushWake.Service.Connecting
import PushWake.Service.Plugins
import PushWake.Text.Duration
/-!
# Ending the service

Whoever ends the service first does it alone: the plugins stop, the session is closed, and then the
host is told that the process may end. Everybody else finds that the service is ending already.
-/

namespace PushWake.Service

variable {W : Type}

/-- An end under way, or its completion. -/
abbrev TeardownProgress := Progress TeardownStage Unit

/-- Tells the host that the service is down. -/
def endTeardown (s : Service W) (reason : ShutdownReason) : Service W × TeardownProgress :=
  let s := s.note (.hostShutdown reason)
  let s := { s with terminated := some reason }
  (s.say "teardown" .info "Shutdown complete", .done ())

/-- The session has been closed, or is about to be. -/
def afterClosing (reason : ShutdownReason) :
    Service W × DisconnectProgress → Service W × TeardownProgress
  | (s, .waits stage) => (s, .waits (.closingConnection stage))
  | (s, .done ()) => s.endTeardown reason

/-- The plugins have stopped, or are about to. -/
def afterStopping (env : Collaborators W) (k : Nat) (reason : ShutdownReason) :
    Service W × PluginStopProgress → Service W × TeardownProgress
  | (s, .waits stage) => (s, .waits (.stoppingPlugins stage))
  | (s, .done ()) => afterClosing reason (s.enterDisconnect env k true)

/-- Ends the service, unless that has begun already. -/
def enterTeardown (env : Collaborators W) (s : Service W) (k : Nat) (reason : ShutdownReason) :
    Service W × TeardownProgress :=
  if s.ending then
    (s.say "teardown" .debug ("Shutdown (" ++ reason.text ++ ") ignored, already shutting down"),
      .done ())
  else
    let s := { s with ending := true }.note (.teardownStarted reason)
    let s := s.say "teardown" .info ("Shutting down (" ++ reason.text ++ ")")
    afterStopping env k reason (s.enterStop env k)

/-- Takes the end from a stage to the next, if it can go on. -/
def resumeTeardown (env : Collaborators W) (s : Service W) (k : Nat) (reason : ShutdownReason) :
    TeardownStage → Option (Service W × TeardownProgress)
  | .stoppingPlugins stage => (s.resumeStop env k stage).map (afterStopping env k reason)
  | .closingConnection stage => (s.resumeDisconnect env k true stage).map (afterClosing reason)

/-! ## The host's request -/

/-- Ends the service because the host wants it to. -/
def enterShutdown (env : Collaborators W) (s : Service W) (k : Nat) :
    Service W × TeardownProgress :=
  if s.ending then (s, .done ())
  else
    let (s, _) := s.signalJobs
    (s.send .cancel).enterTeardown env k .requested

/-! ## The scheduler -/

/-- The scheduler under way, or its end. -/
abbrev SchedulerProgress := Progress SchedulerStage Unit

/-- The service has been ended by the scheduler, or is about to be. -/
def afterTeardown (reason : ShutdownReason) :
    Service W × TeardownProgress → Service W × SchedulerProgress
  | (s, .waits stage) => (s, .waits (.tearingDown reason stage))
  | (s, .done ()) => (s, .done ())

/-- Changes the scheduler. -/
def schedule (s : Service W) (change : Scheduler → Scheduler) : Service W :=
  { s with scheduler := change s.scheduler }

/-- Logs what a command means. -/
def sayCommand (s : Service W) (command : SchedulerCommand) : Service W :=
  let t := s.config.timeouts
  match command with
  | .reset =>
    let s :=
      if s.scheduler.empty.isSome then
        s.say "scheduler" .debug "Delayed shutdown cancelled by new work"
      else s
    s.say "scheduler" .trace ("Service timeout armed (" ++ Text.duration t.serviceMs.toNat ++ ")")
  | .armEmptyDelay =>
    if s.scheduler.service.isSome then
      s.say "scheduler" .debug ("No active jobs, shutting down in " ++
        Text.duration t.emptyDelayMs.toNat)
    else s.say "scheduler" .debug "Service timeout not pending, not arming empty delay"
  | .cancel => s.say "scheduler" .debug "Shutdown scheduler cancelled"

/-- Deals with a command. Only a cancelled scheduler ends. -/
def obey (s : Service W) (command : SchedulerCommand) : Service W × SchedulerProgress :=
  let s := (s.note (.obeyed command)).sayCommand command
  (s.schedule fun scheduler => scheduler.obey s.config.timeouts s.now command,
    if command = .cancel then .done () else .waits .listening)

/-- The hard limit is over. -/
def serviceOver (env : Collaborators W) (s : Service W) (k : Nat) : Service W × SchedulerProgress :=
  let s := s.note (.expired .service)
  let s := s.say "scheduler" .info ("Service timeout reached with " ++
    toString s.jobs.entries.length ++ " active job(s)")
  let (s, _) := s.signalJobs
  let s := s.schedule (Scheduler.fire .serviceTimeout)
  afterTeardown .serviceTimeout (s.enterTeardown env k .serviceTimeout)

/-- The delay is over. If there are jobs, or the service is ending, nothing comes of it. -/
def emptyOver (env : Collaborators W) (s : Service W) (k : Nat) : Service W × SchedulerProgress :=
  let s := (s.note (.expired .empty)).schedule Scheduler.forgetEmpty
  match s.closeIfEmpty with
  | (s, false) =>
    let s := s.say "scheduler" .debug
      "Empty delay elapsed but jobs are active or shutdown is underway"
    (s.schedule Scheduler.publish, .waits .listening)
  | (s, true) =>
    let s := s.say "scheduler" .info ("No jobs for " ++
      Text.duration s.config.timeouts.emptyDelayMs.toNat ++ ", shutting down")
    let s := s.schedule (Scheduler.fire .emptyDelay)
    afterTeardown .emptyDelay (s.enterTeardown env k .emptyDelay)

/-- Takes the scheduler a step further: commands come before deadlines. -/
def resumeScheduler (env : Collaborators W) (s : Service W) (k : Nat) :
    SchedulerStage → Option (Service W × SchedulerProgress)
  | .listening =>
    match s.commands with
    | command :: rest => some ({ s with commands := rest }.obey command)
    | [] =>
      match s.scheduler.due? s.now with
      | some .service => some (s.serviceOver env k)
      | some .empty => some (s.emptyOver env k)
      | none => none
  | .tearingDown reason stage =>
    (s.resumeTeardown env k reason stage).map (afterTeardown reason)

end PushWake.Service
