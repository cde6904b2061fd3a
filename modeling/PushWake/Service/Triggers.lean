import PushWake.Service.Connecting
import PushWake.Service.Plugins
/-!
# Handling a trigger

A trigger starts the hard limit over before anything else is known about it. It gets a job if its
message can be read, the session can be had, and the service has not begun to end meanwhile; plugins
are started on the way, and a plugin that fails keeps no job from running. A trigger that gets no
job starts the delay, if there is no other job.
-/

namespace PushWake.Service

variable {W : Type}

/-- A trigger under way, or the job it got. -/
abbrev TriggerProgress := Progress TriggerStage (Except ServiceError Identity)

/-- Turns a trigger away because the service ends. -/
def dropTrigger (s : Service W) (message : String) : Service W × TriggerProgress :=
  (s.say "service" .warn message, .done (.error .shutDown))

/-- Registers the job of a trigger and begins its body. -/
def beginJob (s : Service W) (trigger : Trigger) (connection : Connection) :
    Service W × TriggerProgress :=
  let (s, id) := s.draw
  let work := JobWork.ofTrigger trigger
  let s := { s with works := s.works ++ [(id, work)] }
  match s.addJob id work.kind with
  | (s, none) =>
    s.dropTrigger ("Dropping " ++ work.kind.name ++ " job, service is shutting down")
  | (s, some completer) => (s.spawn (.body id completer connection .fresh), .done (.ok id))

/-- The plugins have started, or are about to. -/
def afterPlugins (trigger : Trigger) (connection : Connection) :
    Service W × PluginStartProgress → Service W × TriggerProgress
  | (s, .waits stage) => (s, .waits (.startingPlugins trigger connection stage))
  | (s, .done _) =>
    if s.ending then
      s.dropTrigger ("Dropping " ++ trigger.kind.name ++
        " trigger, service shut down while starting plugins")
    else s.beginJob trigger connection

/-- The session has been opened, or is about to be. -/
def afterConnect (env : Collaborators W) (k : Nat) (trigger : Trigger) :
    Service W × ConnectProgress → Service W × TriggerProgress
  | (s, .waits stage) => (s, .waits (.connecting trigger stage))
  | (s, .done (.error .closed)) =>
    s.dropTrigger ("Dropping " ++ trigger.kind.name ++
      " trigger, service shut down while connecting")
  | (s, .done (.error e)) =>
    let s := s.say "service" .error ("Cannot run " ++ trigger.kind.name ++ " job: " ++ e.message)
    let (s, _) := s.armIfEmpty
    (s, .done (.error (.connection e)))
  | (s, .done (.ok connection)) =>
    if s.ending then
      s.dropTrigger ("Dropping " ++ trigger.kind.name ++
        " trigger, service shut down while connecting")
    else afterPlugins trigger connection (s.enterStartAll env k connection s.config.plugins)

/-- Looks at a trigger for the first time. -/
def enterTrigger (env : Collaborators W) (s : Service W) (k : Nat) (m : TriggerMessage) :
    Service W × TriggerProgress :=
  if s.ending then
    s.dropTrigger ("Ignoring " ++ m.kind ++ " trigger, service is shut down")
  else
    let s := s.send .reset
    match Trigger.ofMessage m with
    | .error e =>
      let s := s.say "service" .warn ("Ignoring trigger: " ++ e.message)
      let (s, _) := s.armIfEmpty
      (s, .done (.error (.trigger e)))
    | .ok trigger =>
      let s := s.say "service" .info ("Received " ++ trigger.summary ++ " trigger")
      afterConnect env k trigger (s.enterConnect env k s.config.connection)

/-- Takes a trigger from a stage to the next, if it can go on. -/
def resumeTrigger (env : Collaborators W) (s : Service W) (k : Nat) (m : TriggerMessage) :
    TriggerStage → Option (Service W × TriggerProgress)
  | .arriving => some (s.enterTrigger env k m)
  | .connecting trigger stage =>
    (s.resumeConnect env k s.config.connection .jobs stage).map (afterConnect env k trigger)
  | .startingPlugins trigger connection stage =>
    (s.resumeStart env k connection s.config.plugins stage).map (afterPlugins trigger connection)

end PushWake.Service
