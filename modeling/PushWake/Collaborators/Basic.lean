import PushWake.Config.Basic
import PushWake.Connection.Basic
import PushWake.Log.Basic
import PushWake.Plugin.Basic
import PushWake.Wallet.Event
import PushWake.Wallet.Session
/-!
# Collaborators

The service works with a wallet, a store of credentials, a host and the makers of plugins. What they
answer, and how long they take, is theirs: each call is a function of a state of theirs, about which
the service knows nothing. An answer is fixed when the call begins and arrives after its delay.
-/

namespace PushWake

/-- An answer, the time it takes, and the lines that are logged when the call begins. -/
structure Answer (α : Type) where
  result : α
  delay : Nat := 0
  lines : List LogLine := []
deriving Repr, Inhabited

/-- Events that a session reports on its own after a while, each with a line of the log. -/
structure Settlement where
  delay : Nat
  steps : List (LogLine × Event)
deriving DecidableEq, Repr, Inhabited

/-- What a sync brings: events at once, settlements later, and an answer. -/
structure SyncAnswer where
  answer : Answer (Except SdkError Unit)
  events : List Event := []
  settlements : List Settlement := []
deriving Inhabited

/-- What the service asks of others. Sessions, listeners and plugins go by their numbers. -/
structure Collaborators (W : Type) where
  /-- The credentials in the store, if there are any. -/
  loadCredentials : W → Except String (Option Credentials) × W
  /-- Opens a session. -/
  openSession : ConnectionConfig → Credentials → W → Answer (Except SdkError Unit) × W
  /-- Registers a listener on a session. -/
  addListener : Nat → W → Except SdkError Unit × W
  /-- Removes a listener from a session. -/
  removeListener : Nat → Nat → W → Except SdkError Unit × W
  /-- Disconnects a session. -/
  closeSession : Nat → W → Answer (Except SdkError Unit) × W
  /-- Brings a session up to date. -/
  sync : Nat → W → SyncAnswer × W
  /-- The amounts that can be received. -/
  receiveLimits : Nat → W → Answer (Except SdkError ReceiveLimits) × W
  /-- An invoice over an amount with a description. -/
  receivePayment : Nat → UInt64 → String → W → Answer (Except SdkError Invoice) × W
  /-- Posts a reply to an address. -/
  reply : String → Json → W → Answer (Except String Unit) × W
  /-- Makes a plugin for a connection. -/
  createPlugin : Connection → NwcConfig → W → Answer (Except PluginError Unit) × W
  /-- Stops a plugin. -/
  stopPlugin : Nat → W → Answer (Except PluginError Unit) × W
  /-- What a plugin logs when it sees an event. -/
  pluginLines : Nat → Event → W → List LogLine
  /-- How a session calls a listener. -/
  listenerName : Nat → String

/-- A call under way: when its answer arrives, and the answer. -/
structure Pending (α : Type) where
  due : Nat
  result : α
deriving Repr, Inhabited

namespace Pending

/-- The answer, once it has arrived. -/
def result? {α : Type} (p : Pending α) (now : Nat) : Option α :=
  if p.due ≤ now then some p.result else none

end Pending

end PushWake
