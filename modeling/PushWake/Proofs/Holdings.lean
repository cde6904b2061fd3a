import PushWake.Proofs.RunRecord

/-!
# What a service holds

A service holds at most one session with a listener on it, and at most one plugin with a listener of
its own. Everything it asks of sessions and plugins comes in a few patterns, the deals: a session
that was opened is kept with its listener or disconnected at once, a plugin that was made is kept or
stopped at once, and what was kept is given back in full. Whether anything leaks is therefore
decided by the holdings alone, whoever makes the deals and in whatever order: `Ledger` says how the
holdings and the record of the dealings fit together, and every deal keeps it.
-/

namespace PushWake

/-! ## Counting what was given back -/

/-- Whether something is a request to disconnect a session. -/
def isClosing (n : Nat) : Occurrence → Bool
  | .closeSession m => m == n
  | _ => false

/-- Whether something is a request to a plugin to stop. -/
def isStopping (p : Nat) : Occurrence → Bool
  | .stopPlugin q => q == p
  | _ => false

/-- Whether something is a request to remove a listener of a session. -/
def isRemoval (n l : Nat) : Occurrence → Bool
  | .removeListener m j => m == n && j == l
  | _ => false

/-- Whether something belongs to what is had and given back, or tells the host of its end. -/
def Occurrence.isDeal : Occurrence → Bool
  | .openSession _ _ => true
  | .sessionOpened _ => true
  | .addListener _ => true
  | .listenerAdded _ _ => true
  | .removeListener _ _ => true
  | .closeSession _ => true
  | .createPlugin _ _ => true
  | .pluginCreated _ _ => true
  | .stopPlugin _ => true
  | .hostShutdown _ => true
  | _ => false

/-- Everything that was had has been given back, once. -/
structure GivenBack (os : List Occurrence) : Prop where
  sessions : ∀ n, .sessionOpened n ∈ os → tally (isClosing n) os = 1
  plugins : ∀ p n, .pluginCreated p n ∈ os → tally (isStopping p) os = 1
  listeners : ∀ n l, .listenerAdded n l ∈ os → tally (isRemoval n l) os = 1

/-- The host has been told that the service is down. -/
def Told (os : List Occurrence) : Prop := ∃ reason, .hostShutdown reason ∈ os

/-- What must have happened before something may happen. Nothing is begun once the host has been
told; a session disconnects after all that was made on it was given back, and nothing is made on it
later; and the host is told when everything was given back. -/
def Allowed (os : List Occurrence) : Occurrence → Prop
  | .openSession _ _ => ¬Told os
  | .createPlugin _ _ => ¬Told os
  | .addListener _ => ¬Told os
  | .closeSession n => (∀ p, .pluginCreated p n ∈ os → tally (isStopping p) os = 1) ∧
      ∀ l, .listenerAdded n l ∈ os → tally (isRemoval n l) os = 1
  | .pluginCreated _ n => tally (isClosing n) os = 0
  | .listenerAdded n _ => tally (isClosing n) os = 0
  | .hostShutdown _ => GivenBack os
  | _ => True

/-- Whether something asks for what would have to be given back. -/
def isBeginning : Occurrence → Bool
  | .openSession _ _ => true
  | .createPlugin _ _ => true
  | .addListener _ => true
  | _ => false

/-- Nothing is begun once the host has been told. -/
theorem Orderly.not_isBeginning {os before after : List Occurrence} {o : Occurrence}
    (h : Orderly Allowed os) (he : os = before ++ o :: after) (htold : Told before) :
    isBeginning o = false := by
  have hallowed := h.was_allowed he
  cases o with
  | openSession | createPlugin | addListener => exact absurd htold hallowed
  | _ => rfl

/-- Whatever was made on a session was given back before the session. -/
def InnerFirst (os : List Occurrence) : Prop :=
  ∀ before n after, os = before ++ .closeSession n :: after →
    (∀ p, .pluginCreated p n ∈ os → tally (isStopping p) before = 1) ∧
      ∀ l, .listenerAdded n l ∈ os → tally (isRemoval n l) before = 1

theorem Orderly.innerFirst {os : List Occurrence} (h : Orderly Allowed os) : InnerFirst os := by
  intro before n after he
  -- what was made on the session was not made after its end
  have hbefore : ∀ o, (∀ os', Allowed os' o → tally (isClosing n) os' = 0) → o ≠ .closeSession n →
      o ∈ os → o ∈ before := by
    intro o hlate hne ho
    rw [he, List.mem_append, List.mem_cons] at ho
    rcases ho with ho | ho | ho
    · exact ho
    · exact absurd ho hne
    · obtain ⟨mid, rest, rfl⟩ := List.append_of_mem ho
      have he' : os = (before ++ .closeSession n :: mid) ++ o :: rest := by simpa using he
      have hnone := hlate _ (h.was_allowed he')
      simp [isClosing] at hnone
  have hclose := h.was_allowed he
  refine ⟨fun p hp => hclose.1 p (hbefore _ (fun _ ha => ha) (by simp) hp), fun l hl => ?_⟩
  exact hclose.2 l (hbefore _ (fun _ ha => ha) (by simp) hl)

/-! ## Deals -/

/-- The session and the plugin that a service holds, how many there have been, and the record. -/
structure Holdings where
  live : Option LiveSession := none
  closed : Bool := false
  /-- How many sessions have been opened. -/
  opened : Nat := 0
  /-- How many listeners have been accepted. -/
  accepted : Nat := 0
  running : Option PluginHandle := none
  stopped : Bool := false
  /-- How many plugins have been made. -/
  created : Nat := 0
  record : List Occurrence := []

namespace Holdings

/-- The session that is held. -/
def session? (h : Holdings) : Option Nat := h.live.map fun live => live.connection.session

/-- The plugin that is held. -/
def plugin? (h : Holdings) : Option Nat := h.running.map fun handle => handle.plugin

/-- Whether a listener is the one on the session that is held, or that of the plugin. -/
def listens (h : Holdings) (n l : Nat) : Prop :=
  (∃ live, h.live = some live ∧ live.connection.session = n ∧ live.listener = l) ∨
    ∃ handle, h.running = some handle ∧ handle.connection.session = n ∧ handle.listener = l

end Holdings

/-- The patterns in which a service deals with sessions and plugins. -/
inductive Deal : Holdings → Holdings → Prop where
  | ask {h : Holdings} (config : ConnectionConfig) (credentials : Credentials) : h.closed = false →
      Deal h { h with record := h.record ++ [.openSession config credentials] }
  /-- A session is opened and kept. -/
  | open {h : Holdings} (id : Identity) : h.live = none → h.closed = false →
      Deal h { h with
        opened := h.opened + 1
        accepted := h.accepted + 1
        live := some ⟨⟨id, h.opened⟩, h.accepted⟩
        record := h.record ++ [.sessionOpened h.opened, .addListener h.opened,
          .listenerAdded h.opened h.accepted] }
  /-- A session is opened and refuses the listener. -/
  | abandon {h : Holdings} : h.closed = false →
      Deal h { h with
        opened := h.opened + 1
        record := h.record ++ [.sessionOpened h.opened, .addListener h.opened,
          .closeSession h.opened] }
  /-- Nothing is opened from here on. -/
  | shut {h : Holdings} : h.live = none → h.stopped = true → Deal h { h with closed := true }
  /-- The session is given back for good. -/
  | close {h : Holdings} {live : LiveSession} : h.live = some live → h.stopped = true →
      Deal h { h with
        live := none
        closed := true
        record := h.record ++ [.removeListener live.connection.session live.listener,
          .closeSession live.connection.session] }
  | order {h : Holdings} (connection : Connection) (config : NwcConfig) : h.stopped = false →
      Deal h { h with record := h.record ++ [.createPlugin connection config] }
  /-- A plugin is made on the session that is held, and kept. -/
  | create {h : Holdings} (connection : Connection) : h.running = none → h.stopped = false →
      h.session? = some connection.session →
      Deal h { h with
        created := h.created + 1
        accepted := h.accepted + 1
        running := some ⟨h.created, connection, h.accepted⟩
        record := h.record ++ [.pluginCreated h.created connection.session,
          .addListener connection.session, .listenerAdded connection.session h.accepted] }
  /-- A plugin is made and its listener is refused. -/
  | discard {h : Holdings} (connection : Connection) : h.stopped = false →
      h.session? = some connection.session →
      Deal h { h with
        created := h.created + 1
        record := h.record ++ [.pluginCreated h.created connection.session,
          .addListener connection.session, .stopPlugin h.created] }
  /-- Nothing is made from here on. -/
  | halt {h : Holdings} : h.running = none → Deal h { h with stopped := true }
  /-- The plugin is given back for good. -/
  | stop {h : Holdings} {handle : PluginHandle} : h.running = some handle →
      Deal h { h with
        running := none
        stopped := true
        record := h.record ++ [.removeListener handle.connection.session handle.listener,
          .stopPlugin handle.plugin] }
  | tell {h : Holdings} (reason : ShutdownReason) : h.closed = true →
      Deal h { h with record := h.record ++ [.hostShutdown reason] }
  /-- Something else happens. -/
  | other {h : Holdings} {o : Occurrence} : o.isDeal = false →
      Deal h { h with record := h.record ++ [o] }

/-! ## The ledger -/

/-- The sessions of the record: each has been asked to disconnect once, but for the one that is
held. -/
structure SessionLedger (h : Holdings) : Prop where
  opened : ∀ n, .sessionOpened n ∈ h.record → n < h.opened
  held : ∀ n, h.session? = some n → n < h.opened
  left : ∀ n, tally (isClosing n) h.record = if n < h.opened ∧ h.session? ≠ some n then 1 else 0

/-- The plugins of the record, in the same way. -/
structure PluginLedger (h : Holdings) : Prop where
  created : ∀ p n, .pluginCreated p n ∈ h.record → p < h.created ∧ n < h.opened
  held : ∀ p, h.plugin? = some p → p < h.created
  left : ∀ p, tally (isStopping p) h.record = if p < h.created ∧ h.plugin? ≠ some p then 1 else 0

/-- The listeners of the record, in the same way. -/
structure ListenerLedger (h : Holdings) : Prop where
  added : ∀ n l, .listenerAdded n l ∈ h.record → l < h.accepted ∧ n < h.opened
  onSession : ∀ live, h.live = some live → live.listener < h.accepted ∧
    tally (isRemoval live.connection.session live.listener) h.record = 0
  ofPlugin : ∀ handle, h.running = some handle → handle.listener < h.accepted ∧
    tally (isRemoval handle.connection.session handle.listener) h.record = 0
  left : ∀ n l, .listenerAdded n l ∈ h.record → ¬h.listens n l →
    tally (isRemoval n l) h.record = 1
  unaccepted : ∀ n l, h.accepted ≤ l → tally (isRemoval n l) h.record = 0
  /-- The session and the plugin have different listeners. -/
  apart : ∀ live handle, h.live = some live → h.running = some handle →
    live.listener ≠ handle.listener

/-- **How the holdings and the record fit together.** -/
structure Ledger (h : Holdings) : Prop where
  sessions : SessionLedger h
  plugins : PluginLedger h
  listeners : ListenerLedger h
  /-- The plugins go first. -/
  stopped_of_closed : h.closed = true → h.stopped = true
  live_of_closed : h.closed = true → h.live = none
  running_of_stopped : h.stopped = true → h.running = none
  closed_of_told : Told h.record → h.closed = true
  orderly : Orderly Allowed h.record

end PushWake
