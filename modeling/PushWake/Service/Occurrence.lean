import PushWake.Host.Basic
import PushWake.Job.Basic
import PushWake.Plugin.Shelf
import PushWake.Scheduler.Basic
import PushWake.Service.Error
import PushWake.Wallet.Event
import PushWake.Wallet.Session
/-!
# What happens in a service

A service keeps the history of what it asked of others and of what came of it. Nothing it does
depends on its history: what can be said about a run is said about the history it leaves.
-/

namespace PushWake

/-- The answer to a call that a host made. -/
inductive CallAnswer where
  | trigger (result : Except ServiceError Identity)
  | shutDown
  | connect (result : Except ConnectionError Connection)
  | disconnected
  | current (connection : Option Connection)
  | plugin (handle : Option PluginHandle)
  | plugins (handles : List PluginHandle)
  | pluginsStopped
  | job (result : Except JobError Unit)
deriving Inhabited

/-- Something that happened. -/
inductive Occurrence where
  /-- The store was asked for credentials. -/
  | credentialsLoad
  /-- The wallet was asked for a session. -/
  | openSession (config : ConnectionConfig) (credentials : Credentials)
  /-- A session was opened. -/
  | sessionOpened (session : Nat)
  /-- A listener was offered to a session. -/
  | addListener (session : Nat)
  /-- The listener was accepted. -/
  | listenerAdded (session listener : Nat)
  /-- The removal of a listener was asked for. -/
  | removeListener (session listener : Nat)
  /-- A session was asked to disconnect. -/
  | closeSession (session : Nat)
  /-- A session was asked to bring itself up to date. -/
  | sync (session : Nat) (job : Identity)
  /-- A session was asked for its limits. -/
  | receiveLimits (session : Nat) (job : Identity)
  /-- A session was asked for an invoice. -/
  | receivePayment (session : Nat) (job : Identity) (sat : UInt64) (description : String)
  /-- The host was asked to show a notification. -/
  | notify (job : Identity) (notification : Notification)
  /-- The host was asked to post a reply. -/
  | reply (job : Identity) (url : String) (body : Json)
  /-- The host was told that the service is down. -/
  | hostShutdown (reason : ShutdownReason)
  /-- A plugin was asked for. -/
  | createPlugin (connection : Connection) (config : NwcConfig)
  /-- A plugin was made. -/
  | pluginCreated (plugin : Nat) (session : Nat)
  /-- A plugin saw an event. -/
  | pluginEvent (plugin : Nat) (event : Event)
  /-- A plugin was asked to stop. -/
  | stopPlugin (plugin : Nat)
  /-- A listener of the host saw an event. -/
  | listenerEvent (name : String) (event : Event)
  /-- A job entered the set. -/
  | jobAdded (job : Identity) (kind : JobKind)
  /-- A job saw an event. -/
  | jobEvent (job : Identity) (event : Event)
  /-- A job was told that the service ends. -/
  | jobShutdown (job : Identity)
  /-- A completer was used, or went away. -/
  | jobCompleted (job : Identity) (completer : Nat) (outcome : JobOutcome)
  /-- A job left the set. -/
  | jobRemoved (job : Identity) (outcome : JobOutcome)
  /-- The scheduler was sent a command. -/
  | command (command : SchedulerCommand)
  /-- The scheduler dealt with a command. -/
  | obeyed (command : SchedulerCommand)
  /-- The scheduler dealt with a deadline. -/
  | expired (deadline : Deadline)
  /-- The service began to end. -/
  | teardownStarted (reason : ShutdownReason)
  /-- A call of the host was answered. -/
  | answered (call : Nat) (answer : CallAnswer)
deriving Inhabited

end PushWake
