import PushWake.Collaborators.Basic
/-!
# Collaborators that follow a plan

A plan lists for each call the outcomes of its uses in order; a list that is used up means success.
Each call that takes time has a delay. Planned collaborators log nothing.
-/

namespace PushWake

/-- The delays of the calls that take time, in milliseconds. -/
structure PlanDelays where
  connect : Nat := 0
  disconnect : Nat := 0
  sync : Nat := 0
  receiveLimits : Nat := 0
  receivePayment : Nat := 0
  reply : Nat := 0
  pluginCreate : Nat := 0
  pluginStop : Nat := 0
deriving Repr, Inhabited

/-- The outcomes still to come. -/
structure Plan where
  credentials : List (Except String Bool) := []
  connect : List (Except SdkError Unit) := []
  addListener : List (Except SdkError Unit) := []
  removeListener : List (Except SdkError Unit) := []
  disconnect : List (Except SdkError Unit) := []
  sync : List (Except SdkError Unit) := []
  /-- Limits of their own, or none for the standing ones. -/
  receiveLimits : List (Except SdkError (Option ReceiveLimits)) := []
  receivePayment : List (Except SdkError Unit) := []
  reply : List (Except String Unit) := []
  pluginCreate : List (Except PluginError Unit) := []
  pluginStop : List (Except PluginError Unit) := []
  delays : PlanDelays := {}
  limits : ReceiveLimits := ⟨1, 100000⟩
  syncEmits : List Event := []
  store : Credentials := ⟨"abandon abandon about", none⟩
deriving Inhabited

namespace Plan

/-- The next outcome of a list, and the outcomes after it. -/
def next {ε α : Type} (standing : α) : List (Except ε α) → Except ε α × List (Except ε α)
  | [] => (.ok standing, [])
  | outcome :: rest => (outcome, rest)

/-- Loads the credentials of the plan, unless it says that there are none. -/
def loadCredentials (p : Plan) : Except String (Option Credentials) × Plan :=
  let (outcome, rest) := next true p.credentials
  (outcome.map fun there => if there then some p.store else none, { p with credentials := rest })

/-- Opens a session. -/
def openSession (p : Plan) : Answer (Except SdkError Unit) × Plan :=
  let (outcome, rest) := next () p.connect
  (⟨outcome, p.delays.connect, []⟩, { p with connect := rest })

/-- Registers a listener. -/
def takeAddListener (p : Plan) : Except SdkError Unit × Plan :=
  let (outcome, rest) := next () p.addListener
  (outcome, { p with addListener := rest })

/-- Removes a listener. -/
def takeRemoveListener (p : Plan) : Except SdkError Unit × Plan :=
  let (outcome, rest) := next () p.removeListener
  (outcome, { p with removeListener := rest })

/-- Disconnects a session. -/
def closeSession (p : Plan) : Answer (Except SdkError Unit) × Plan :=
  let (outcome, rest) := next () p.disconnect
  (⟨outcome, p.delays.disconnect, []⟩, { p with disconnect := rest })

/-- Brings a session up to date. -/
def takeSync (p : Plan) : SyncAnswer × Plan :=
  let (outcome, rest) := next () p.sync
  (⟨⟨outcome, p.delays.sync, []⟩, p.syncEmits, []⟩, { p with sync := rest })

/-- The limits of this time, or else the standing ones. -/
def takeLimits (p : Plan) : Answer (Except SdkError ReceiveLimits) × Plan :=
  let (outcome, rest) := next none p.receiveLimits
  (⟨outcome.map (·.getD p.limits), p.delays.receiveLimits, []⟩, { p with receiveLimits := rest })

/-- An invoice. -/
def takePayment (sat : UInt64) (p : Plan) : Answer (Except SdkError Invoice) × Plan :=
  let (outcome, rest) := next () p.receivePayment
  (⟨outcome.map fun _ => ⟨"lnbc" ++ toString sat.toNat ++ "fake"⟩, p.delays.receivePayment, []⟩,
    { p with receivePayment := rest })

/-- Posts a reply. -/
def takeReply (p : Plan) : Answer (Except String Unit) × Plan :=
  let (outcome, rest) := next () p.reply
  (⟨outcome, p.delays.reply, []⟩, { p with reply := rest })

/-- Makes a plugin. -/
def takePluginCreate (p : Plan) : Answer (Except PluginError Unit) × Plan :=
  let (outcome, rest) := next () p.pluginCreate
  (⟨outcome, p.delays.pluginCreate, []⟩, { p with pluginCreate := rest })

/-- Stops a plugin. -/
def takePluginStop (p : Plan) : Answer (Except PluginError Unit) × Plan :=
  let (outcome, rest) := next () p.pluginStop
  (⟨outcome, p.delays.pluginStop, []⟩, { p with pluginStop := rest })

/-- The collaborators that follow a plan. -/
def collaborators : Collaborators Plan where
  loadCredentials := loadCredentials
  openSession _ _ := openSession
  addListener _ := takeAddListener
  removeListener _ _ := takeRemoveListener
  closeSession _ := closeSession
  sync _ := takeSync
  receiveLimits _ := takeLimits
  receivePayment _ sat _ := takePayment sat
  reply _ _ := takeReply
  createPlugin _ _ := takePluginCreate
  stopPlugin _ := takePluginStop
  pluginLines _ _ _ := []
  listenerName n := "listener-" ++ toString n

end Plan

end PushWake
