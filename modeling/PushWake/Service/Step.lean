import PushWake.Service.Body
import PushWake.Service.Teardown
import PushWake.Service.Triggers
/-!
# Steps

A step takes one activity from its stage to the next. It is the only way in which a service
moves by itself, so a run is a list of numbers: who took a step, in order. An activity that has
to wait has no step.
-/

namespace PushWake.Service

variable {W : Type}

/-- Whether an activity keeps the service alive for the host. -/
def holdsService : Activity → Bool
  | .trigger _ _ => true
  | .shutdown _ => true
  | _ => false

/-- Tells the scheduler to stop once nobody holds the service any more. -/
def cancelIfUnheld (s : Service W) : Service W :=
  if s.released && !(s.activities.any fun a => holdsService a.2) then s.send .cancel else s

/-- Ends an activity that a host called for, and hands it its answer. -/
def answer (s : Service W) (k : Nat) (a : CallAnswer) : Service W :=
  (s.finish k).note (.answered k a)

/-- Moves an activity to where it has come. -/
def follow {σ α : Type} (k : Nat) (stage : σ → Activity) (result : Service W → α → Service W) :
    Service W × Progress σ α → Service W
  | (s, .waits st) => s.put k (stage st)
  | (s, .done a) => result s a

/-- Ends the body of a registered job. -/
def endBody (s : Service W) (k : Nat) (id : Identity) : Except JobError Unit → Service W
  | .ok () => s.finish k
  | .error e =>
    match s.work? id with
    | some work =>
      (s.say "service" .warn (jobText id work.kind ++ " errored: " ++ e.message)).finish k
    | none => s.finish k

/-- Ends the scheduler: nobody reads the commands any more. -/
def endScheduler (s : Service W) (k : Nat) : Service W :=
  { s.finish k with inboxOpen := false, commands := [] }

/-- Reports the events that a session has saved for later. -/
def settleLater (env : Collaborators W) (session : Nat) (s : Service W)
    (steps : List (LogLine × Event)) : Service W :=
  steps.foldl (fun s step => (s.quote [step.1]).emit env session step.2) s

/-- The live session, with the slot in hand. -/
def answerCurrent (s : Service W) (k : Nat) : Service W :=
  s.releaseSlot.answer k (.current (s.hub.live.map LiveSession.connection))

/-- The plugin that runs, with the shelf in hand. -/
def answerHandle (s : Service W) (k : Nat) : Service W :=
  s.releaseShelf.answer k (.plugin s.shelf.running)

/-- The answer to a start of one plugin, or of all. -/
def startAnswer (all : Bool) (running : Option PluginHandle) : CallAnswer :=
  if all then .plugins running.toList else .plugin running

/-- Takes an activity a step further, if it can go on. -/
def act (env : Collaborators W) (s : Service W) (k : Nat) : Activity → Option (Service W)
  | .scheduler stage =>
    (s.resumeScheduler env k stage).map (follow k .scheduler fun s _ => s.endScheduler k)
  | .trigger m stage =>
    (s.resumeTrigger env k m stage).map
      (follow k (.trigger m) fun s result => (s.answer k (.trigger result)).cancelIfUnheld)
  | .shutdown stage =>
    let progress :=
      match stage with
      | none => some (s.enterShutdown env k)
      | some stage => s.resumeTeardown env k .requested stage
    progress.map (follow k (fun stage => .shutdown (some stage))
      fun s _ => (s.answer k .shutDown).cancelIfUnheld)
  | .body id completer connection stage =>
    let s :=
      match stage with
      | .fresh => (s.markRunning id).1
      | _ => s
    (s.resumeBody env id completer connection.session stage).map
      (follow k (.body id completer connection) fun s result => s.endBody k id result)
  | .reaper id completer => do
    let c ← s.completers[completer]?
    let outcome ← c.outcome
    pure ((s.removeJob id outcome).1.finish k)
  | .settlement session due steps =>
    if due ≤ s.now then some ((settleLater env session s steps).finish k) else none
  | .connect config target stage =>
    let progress :=
      match stage with
      | none => some (s.enterConnect env k config)
      | some stage => s.resumeConnect env k config target stage
    progress.map (follow k (fun stage => .connect config target (some stage))
      fun s result => s.answer k (.connect result))
  | .disconnect close stage =>
    let progress :=
      match stage with
      | none => some (s.enterDisconnect env k close)
      | some stage => s.resumeDisconnect env k close stage
    progress.map (follow k (fun stage => .disconnect close (some stage))
      fun s _ => s.answer k .disconnected)
  | .current queued =>
    let s := if queued then s else s.requestSlot k
    if s.holdsSlot k then some (s.answerCurrent k)
    else if queued then none else some (s.put k (.current true))
  | .startPlugin all connection configs stage =>
    let progress :=
      match stage with
      | none =>
        some (if all then s.enterStartAll env k connection configs
          else s.enterStart env k connection configs)
      | some stage => s.resumeStart env k connection configs stage
    progress.map (follow k (fun stage => .startPlugin all connection configs (some stage))
      fun s running => s.answer k (startAnswer all running))
  | .stopPlugins stage =>
    let progress :=
      match stage with
      | none => some (s.enterStop env k)
      | some stage => s.resumeStop env k stage
    progress.map (follow k (fun stage => .stopPlugins (some stage))
      fun s _ => s.answer k .pluginsStopped)
  | .handle queued =>
    let s := if queued then s else s.requestShelf k
    if s.holdsShelf k then some (s.answerHandle k)
    else if queued then none else some (s.put k (.handle true))
  | .start id completer connection stage =>
    (s.resumeBody env id completer connection.session stage).map
      (follow k (.start id completer connection) fun s result => s.answer k (.job result))

/-- The step of an activity, if there is such an activity and it can go on. -/
def step (env : Collaborators W) (s : Service W) (k : Nat) : Option (Service W) :=
  (s.activity? k).bind (s.act env k)

/-! ## Time -/

/-- When the answer to a call arrives. -/
def dueConnect? : ConnectStage → Option Nat
  | .awaitingSlot => none
  | .opening call => some call.due
  | .abandoning _ _ call => some call.due

/-- When the answer to a disconnect arrives. -/
def dueDisconnect? : DisconnectStage → Option Nat
  | .awaitingSlot => none
  | .closing _ call => some call.due

/-- When the start of a plugin can go on. -/
def dueStart? : PluginStartStage → Option Nat
  | .awaitingShelf => none
  | .creating call => some call.due
  | .undoing _ _ call => some call.due

/-- When the stop of the plugins can go on. -/
def dueStop? : PluginStopStage → Option Nat
  | .awaitingShelf => none
  | .stopping _ call => some call.due

/-- When the end of the service can go on. -/
def dueTeardown? : TeardownStage → Option Nat
  | .stoppingPlugins stage => dueStop? stage
  | .closingConnection stage => dueDisconnect? stage

/-- When the body of a job can go on. -/
def dueBody? : BodyStage → Option Nat
  | .fresh => none
  | .syncing call => some call.due
  | .askingLimits call => some call.due
  | .invoicing call => some call.due
  | .replying call => some call.due
  | .apologizing _ call => some call.due

/-- The time that an activity waits for, if it waits for a time. -/
def due? (s : Service W) : Activity → Option Nat
  | .scheduler .listening => s.scheduler.next?
  | .scheduler (.tearingDown _ stage) => dueTeardown? stage
  | .trigger _ .arriving => none
  | .trigger _ (.connecting _ stage) => dueConnect? stage
  | .trigger _ (.startingPlugins _ _ stage) => dueStart? stage
  | .shutdown stage => stage.bind dueTeardown?
  | .body _ _ _ stage => dueBody? stage
  | .reaper _ _ => none
  | .settlement _ due _ => some due
  | .connect _ _ stage => stage.bind dueConnect?
  | .disconnect _ stage => stage.bind dueDisconnect?
  | .current _ => none
  | .startPlugin _ _ _ stage => stage.bind dueStart?
  | .stopPlugins stage => stage.bind dueStop?
  | .handle _ => none
  | .start _ _ _ stage => dueBody? stage

/-- Lets time pass until a point in time. -/
def advanceTo (s : Service W) (t : Nat) : Service W :=
  { s with now := max s.now t }

/-! ## Calls of the host -/

/-- A service that has not done anything, without a scheduler. -/
def bare (config : ServiceConfig) (makesPlugins : Bool) (world : W) : Service W :=
  { config := config, makesPlugins := makesPlugins, world := world }

/-- A service that has not done anything. The scheduler waits for its first turn. -/
def initial (config : ServiceConfig) (makesPlugins : Bool) (world : W) : Service W :=
  (bare config makesPlugins world).spawn (.scheduler .listening)

/-- Starts a service, if its configuration is valid. -/
def start (config : ServiceConfig) (makesPlugins : Bool) (world : W) :
    Except ServiceError (Service W) :=
  match config.validate with
  | .error e => .error (.config e)
  | .ok () =>
    .ok ((initial config makesPlugins world).say "service" .info
      ("Coordinator ready (service timeout " ++ Text.duration config.timeouts.serviceMs.toNat ++
        ", empty delay " ++ Text.duration config.timeouts.emptyDelayMs.toNat ++ ")"))

/-- Lets go of the service. -/
def release (s : Service W) : Service W :=
  cancelIfUnheld { s with released := true }

end PushWake.Service
