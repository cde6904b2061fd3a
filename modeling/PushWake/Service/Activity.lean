import PushWake.Collaborators.Basic
import PushWake.Job.Work
import PushWake.Plugin.Shelf
import PushWake.Trigger.Basic
/-!
# Activities

Everything that runs in a service runs as an activity. An activity acts until it has to wait, for a
lock, for the answer of a collaborator, for a completer or for a point in time; where it waits is
its stage. Between two stages nothing else happens, so the stages are the only places at which
activities interleave.
-/

namespace PushWake

/-- Where something stands that takes several turns: at a stage, or at its end with a result. -/
inductive Progress (σ α : Type) where
  | waits (stage : σ)
  | done (result : α)
deriving Repr

/-- Connecting. -/
inductive ConnectStage where
  /-- Queued for the slot. -/
  | awaitingSlot
  /-- The wallet opens a session. -/
  | opening (call : Pending (Except SdkError Unit))
  /-- The session refused the listener and is being disconnected. -/
  | abandoning (session : Nat) (cause : SdkError) (call : Pending (Except SdkError Unit))
deriving Inhabited

/-- Who gets the events of a session. -/
inductive ListenerTarget where
  /-- The jobs of the set. -/
  | jobs
  | plugin (plugin : Nat)
  /-- A listener of the host. -/
  | host (name : String)
deriving DecidableEq, Repr, Inhabited

/-- Disconnecting. -/
inductive DisconnectStage where
  /-- Queued for the slot. -/
  | awaitingSlot
  /-- The session disconnects. -/
  | closing (live : LiveSession) (call : Pending (Except SdkError Unit))
deriving Inhabited

/-- Starting a plugin. -/
inductive PluginStartStage where
  /-- Queued for the shelf. -/
  | awaitingShelf
  /-- The plugin is being made. -/
  | creating (call : Pending (Except PluginError Unit))
  /-- The session refused the listener and the plugin is being stopped. -/
  | undoing (plugin : Nat) (cause : SdkError) (call : Pending (Except PluginError Unit))
deriving Inhabited

/-- Stopping the plugins. -/
inductive PluginStopStage where
  /-- Queued for the shelf. -/
  | awaitingShelf
  /-- The plugin stops. -/
  | stopping (handle : PluginHandle) (call : Pending (Except PluginError Unit))
deriving Inhabited

/-- Ending the service. -/
inductive TeardownStage where
  | stoppingPlugins (stage : PluginStopStage)
  | closingConnection (stage : DisconnectStage)
deriving Inhabited

/-- Handling a trigger. -/
inductive TriggerStage where
  /-- Not looked at yet. -/
  | arriving
  | connecting (trigger : Trigger) (stage : ConnectStage)
  | startingPlugins (trigger : Trigger) (connection : Connection) (stage : PluginStartStage)
deriving Inhabited

/-- The body of a job. -/
inductive BodyStage where
  /-- Not begun yet. -/
  | fresh
  /-- The wallet is being brought up to date. -/
  | syncing (call : Pending (Except SdkError Unit))
  /-- The limits have been asked for. -/
  | askingLimits (call : Pending (Except SdkError ReceiveLimits))
  /-- An invoice has been asked for. -/
  | invoicing (call : Pending (Except SdkError Invoice))
  /-- The reply is being posted. -/
  | replying (call : Pending (Except String Unit))
  /-- The payer is being told why there is no other reply. -/
  | apologizing (error : JobError) (call : Pending (Except String Unit))
deriving Inhabited

/-- The scheduler. -/
inductive SchedulerStage where
  /-- Waiting for a command or a deadline. -/
  | listening
  | tearingDown (reason : ShutdownReason) (stage : TeardownStage)
deriving Inhabited

/-- Something that runs. A stage that is missing has not been reached: the activity has not had
a turn yet. -/
inductive Activity where
  | scheduler (stage : SchedulerStage)
  | trigger (message : TriggerMessage) (stage : TriggerStage)
  | shutdown (stage : Option TeardownStage)
  /-- The body of a job that was added to the set. -/
  | body (job : Identity) (completer : Nat) (connection : Connection) (stage : BodyStage)
  /-- Waits for the completer of a job and takes the job out of the set. -/
  | reaper (job : Identity) (completer : Nat)
  /-- Events that a session reports later. -/
  | settlement (session : Nat) (due : Nat) (steps : List (LogLine × Event))
  | connect (config : ConnectionConfig) (target : ListenerTarget) (stage : Option ConnectStage)
  | disconnect (close : Bool) (stage : Option DisconnectStage)
  /-- Asks for the live session. -/
  | current (queued : Bool)
  | startPlugin (all : Bool) (connection : Connection) (configs : PluginConfigs)
      (stage : Option PluginStartStage)
  | stopPlugins (stage : Option PluginStopStage)
  /-- Asks for the plugin that runs. -/
  | handle (queued : Bool)
  /-- The body of a job that stands alone. -/
  | start (job : Identity) (completer : Nat) (connection : Connection) (stage : BodyStage)
deriving Inhabited

end PushWake
