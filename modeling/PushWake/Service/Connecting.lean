import PushWake.Service.Jobs
/-!
# Opening and closing the shared session

Connecting checks the slot and opens a session while it holds the slot's lock. A session that
refuses the listener is disconnected again before the lock is handed on. Closing refuses everybody
who comes later.
-/

namespace PushWake.Service

variable {W : Type}

/-- A connect under way, or its result. -/
abbrev ConnectProgress := Progress ConnectStage (Except ConnectionError Connection)

/-- Changes the state that others see of the connection. -/
def setConnectionState (s : Service W) (state : ConnectionState) : Service W :=
  { s with hub := { s.hub with state } }

/-- Ends a connect that failed. -/
def failConnect (s : Service W) (e : ConnectionError) : Service W × ConnectProgress :=
  let s := s.setConnectionState .disconnected
  let s := s.say "connection" .error ("Failed to connect: " ++ e.message)
  (s.releaseSlot, .done (.error e))

/-- Ends a connect that succeeded: the session is live. -/
def endConnect (s : Service W) (session listener : Nat) : Service W × ConnectProgress :=
  let (s, id) := s.draw
  let connection : Connection := ⟨id, session⟩
  let s := { s with hub := { s.hub with live := some ⟨connection, listener⟩ } }
  let s := s.setConnectionState .connected
  let s := s.say "connection" .info ("Connected (" ++ id.text ++ ")")
  (s.releaseSlot, .done (.ok connection))

/-- Connects, with the slot in hand. -/
def beginConnect (env : Collaborators W) (s : Service W) (config : ConnectionConfig) :
    Service W × ConnectProgress :=
  if s.hub.closed then
    let s := s.say "connection" .debug "Connect refused, connection manager closed"
    (s.releaseSlot, .done (.error .closed))
  else
    match s.hub.live with
    | some live =>
      let s := s.say "connection" .info ("Already connected (" ++ live.connection.id.text ++ ")")
      (s.releaseSlot, .done (.ok live.connection))
    | none =>
      let s := s.setConnectionState .connecting
      let s := s.say "connection" .debug
        ("Connecting to wallet SDK (" ++ config.network.name ++ ")")
      let s := s.note .credentialsLoad
      let (credentials, world) := env.loadCredentials s.world
      let s := { s with world }
      match credentials with
      | .error reason => s.failConnect (.credentials reason)
      | .ok none => s.failConnect .missingCredentials
      | .ok (some credentials) =>
        let s := s.note (.openSession config credentials)
        let (s, call) := s.ask (env.openSession config credentials s.world)
        (s, .waits (.opening call))

/-- Disconnects a session. -/
def beginClose (env : Collaborators W) (s : Service W) (session : Nat) :
    Service W × Pending (Except SdkError Unit) :=
  let s := s.note (.closeSession session)
  s.ask (env.closeSession session s.world)

/-- The wallet has answered: a session that is open gets its listener. -/
def afterOpen (env : Collaborators W) (s : Service W) (target : ListenerTarget) :
    Except SdkError Unit → Service W × ConnectProgress
  | .error e => s.failConnect (.sdk e)
  | .ok () =>
    let session := s.hub.opened
    let s := { s with hub := { s.hub with opened := session + 1 } }.note (.sessionOpened session)
    match s.addListener env session target with
    | (s, .ok listener) => s.endConnect session listener
    | (s, .error e) =>
      let (s, call) := s.beginClose env session
      (s, .waits (.abandoning session e call))

/-- The session that refused the listener is disconnected. -/
def afterAbandon (s : Service W) (cause : SdkError) :
    Except SdkError Unit → Service W × ConnectProgress
  | .ok () => s.failConnect (.listener cause)
  | .error e =>
    (s.say "connection" .warn ("Disconnect after listener failure: " ++ e.message)).failConnect
      (.listener cause)

/-- Asks for the slot and connects at once if it is free. -/
def enterConnect (env : Collaborators W) (s : Service W) (k : Nat) (config : ConnectionConfig) :
    Service W × ConnectProgress :=
  let s := s.requestSlot k
  if s.holdsSlot k then s.beginConnect env config else (s, .waits .awaitingSlot)

/-- Takes a connect from a stage to the next, if it can go on. -/
def resumeConnect (env : Collaborators W) (s : Service W) (k : Nat) (config : ConnectionConfig)
    (target : ListenerTarget) : ConnectStage → Option (Service W × ConnectProgress)
  | .awaitingSlot => if s.holdsSlot k then some (s.beginConnect env config) else none
  | .opening call => (call.result? s.now).map (s.afterOpen env target)
  | .abandoning _ cause call => (call.result? s.now).map (s.afterAbandon cause)

/-! ## Disconnecting -/

/-- A disconnect under way, or its end. -/
abbrev DisconnectProgress := Progress DisconnectStage Unit

/-- Ends a disconnect. -/
def endDisconnect (s : Service W) : Service W × DisconnectProgress :=
  ((s.setConnectionState .disconnected).releaseSlot, .done ())

/-- Disconnects the live session, with the slot in hand; whoever closes the hub does so first. -/
def beginDisconnect (env : Collaborators W) (s : Service W) (close : Bool) :
    Service W × DisconnectProgress :=
  let s := { s with hub := { s.hub with closed := s.hub.closed || close } }
  match s.hub.live with
  | none => (s.say "connection" .debug "Disconnect requested while not connected").endDisconnect
  | some live =>
    let s := { s with hub := { s.hub with live := none } }
    let (s, removed) := s.removeListener env live.connection.session live.listener
    let s :=
      match removed with
      | .ok () => s
      | .error e => s.say "connection" .warn ("Failed to remove event listener: " ++ e.message)
    let (s, call) := s.beginClose env live.connection.session
    (s, .waits (.closing live call))

/-- The session has disconnected, or failed to. -/
def afterClose (s : Service W) (live : LiveSession) (result : Except SdkError Unit) :
    Service W × DisconnectProgress :=
  let s :=
    match result with
    | .ok () => s
    | .error e => s.say "connection" .warn ("SDK disconnect failed: " ++ e.message)
  (s.say "connection" .info ("Disconnected (" ++ live.connection.id.text ++ ")")).endDisconnect

/-- Asks for the slot and disconnects at once if it is free. -/
def enterDisconnect (env : Collaborators W) (s : Service W) (k : Nat) (close : Bool) :
    Service W × DisconnectProgress :=
  let s := s.requestSlot k
  if s.holdsSlot k then s.beginDisconnect env close else (s, .waits .awaitingSlot)

/-- Takes a disconnect from a stage to the next, if it can go on. -/
def resumeDisconnect (env : Collaborators W) (s : Service W) (k : Nat) (close : Bool) :
    DisconnectStage → Option (Service W × DisconnectProgress)
  | .awaitingSlot => if s.holdsSlot k then some (s.beginDisconnect env close) else none
  | .closing live call => (call.result? s.now).map (s.afterClose live)

end PushWake.Service
