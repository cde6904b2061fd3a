import PushWake.Proofs.Veil

/-!
# Sessions and plugins behind the veil

Opening and closing the session, and starting and stopping the plugin, commute with the veil. This
is where the secrets go: they are handed over, the key of the wallet's interface and the credentials
to the wallet and the secret key to the maker of the plugin, and nothing else is done with them.
-/

namespace PushWake.Service

variable {W U : Type} {view : W → U} {s : Service W} {env : Collaborators W}
  {picture : Collaborators U}

@[simp] theorem hub_veiled : (s.veiled view).hub = s.hub := rfl

@[simp] theorem shelf_veiled : (s.veiled view).shelf = s.shelf := rfl

@[simp] theorem scheduler_veiled : (s.veiled view).scheduler = s.scheduler := rfl

/-- What goes on when it holds a lock goes on behind the veil, and in the same way. -/
theorem veiled_held {β : Type} {held : Bool} {r : Service W × β} {r' : Service U × β}
    (hr : veiledWith view r = r') :
    (if held = true then some r else none).map (veiledWith view) =
      if held = true then some r' else none := by
  cases held with
  | true => exact congrArg some hr
  | false => rfl

section
variable {α β : Type} {f : Service W × α → Service W × β} {g : Service U × α → Service U × β}
  (hfg : ∀ {s : Service W} a, veiledWith view (f (s, a)) = g (s.veiled view, a))
include hfg

/-- What follows on something follows on it behind the veil. -/
theorem veiled_then {r : Service W × α} {r' : Service U × α} (hr : veiledWith view r = r') :
    veiledWith view (f r) = g r' := by
  rw [← hr]
  exact hfg r.2

/-- So does what follows on something that need not happen. -/
theorem veiled_thenAny {r : Option (Service W × α)} {r' : Option (Service U × α)}
    (hr : r.map (veiledWith view) = r') : (r.map f).map (veiledWith view) = r'.map g := by
  rw [← hr, Option.map_map, Option.map_map]
  exact congrArg (Option.map · r) (funext fun _ => veiled_then hfg rfl)

end

/-- The veil is drawn over both branches. -/
theorem veiled_if {β : Type} {b : Bool} {r t : Service W × β} {r' t' : Service U × β}
    (hr : veiledWith view r = r') (ht : veiledWith view t = t') :
    veiledWith view (if b = true then r else t) = if b = true then r' else t' := by
  cases b with
  | true => exact hr
  | false => exact ht

/-! ## Opening the session -/

@[simp] theorem veiled_setConnectionState (state : ConnectionState) :
    (s.setConnectionState state).veiled view = (s.veiled view).setConnectionState state := rfl

/-- The reason why a connect failed is shown, and it is no secret. -/
theorem veiled_failConnect (e : ConnectionError) :
    veiledWith view (s.failConnect e) = (s.veiled view).failConnect e := by
  rw [failConnect, veiledWith_mk, veiled_releaseSlot, veiled_say, veiled_setConnectionState]
  rfl

/-- A session that is live is told from others by its number. -/
theorem veiled_endConnect (session listener : Nat) :
    veiledWith view (s.endConnect session listener) =
      (s.veiled view).endConnect session listener := by
  simp only [endConnect, draw, veiledWith_mk, veiled_releaseSlot, veiled_say,
    veiled_setConnectionState]
  rfl

theorem veiled_afterAbandon (cause : SdkError) (result : Except SdkError Unit) :
    veiledWith view (s.afterAbandon cause result) = (s.veiled view).afterAbandon cause result := by
  cases result with
  | ok => exact veiled_failConnect _
  | error e =>
    rw [afterAbandon, veiled_failConnect, veiled_say]
    rfl

/-- Asks the store for credentials and the wallet for a session. -/
def beginOpen (env : Collaborators W) (s : Service W) (config : ConnectionConfig) :
    Service W × ConnectProgress :=
  let (credentials, world) := env.loadCredentials s.world
  let s := { s with world }
  match credentials with
  | .error reason => s.failConnect (.credentials reason)
  | .ok none => s.failConnect .missingCredentials
  | .ok (some credentials) =>
    let s := s.note (.openSession config credentials)
    let (s, call) := s.ask (env.openSession config credentials s.world)
    (s, .waits (.opening call))

/-- A service that connects. -/
def connecting (s : Service W) (config : ConnectionConfig) : Service W :=
  ((s.setConnectionState .connecting).say "connection" .debug
    ("Connecting to wallet SDK (" ++ config.network.name ++ ")")).note .credentialsLoad

/-- An open hub without a session is the one case in which credentials are looked up. -/
theorem beginConnect_of_idle {config : ConnectionConfig} (hclosed : s.hub.closed = false)
    (hlive : s.hub.live = none) :
    s.beginConnect env config = (s.connecting config).beginOpen env config := by
  unfold beginConnect
  rw [hclosed, hlive]
  rfl

/-- A service with one more session. -/
def opened (s : Service W) : Service W :=
  { s with hub := { s.hub with opened := s.hub.opened + 1 } }.note (.sessionOpened s.hub.opened)

/-- The session has taken the listener, or refused it. -/
def afterListen (env : Collaborators W) (session : Nat) :
    Service W × Except SdkError Nat → Service W × ConnectProgress
  | (s, .ok listener) => s.endConnect session listener
  | (s, .error e) =>
    let (s, call) := s.beginClose env session
    (s, .waits (.abandoning session e call))

/-- The session is counted first, then it is asked for a listener. -/
theorem afterOpen_ok (target : ListenerTarget) : s.afterOpen env target (.ok ()) =
    afterListen env s.hub.opened (s.opened.addListener env s.hub.opened target) := by
  unfold afterOpen afterListen opened
  rfl

section
variable (h : LooksLike view env picture)
include h

/-- The credentials and the key are handed to the wallet, and nothing else depends on them. -/
theorem veiled_beginOpen (config : ConnectionConfig) :
    veiledWith view (s.beginOpen env config) =
      (s.veiled view).beginOpen picture config.veiled := by
  have hasked : picture.loadCredentials (s.veiled view).world =
      ((env.loadCredentials s.world).1.map (Option.map Credentials.veiled),
        view (env.loadCredentials s.world).2) := h.loadCredentials s.world
  unfold beginOpen
  -- the store answers through the veil: there are credentials, there are none, or it fails
  rw [hasked]
  cases env.loadCredentials s.world with
  | mk loaded world =>
    cases loaded with
    | error reason => exact veiled_failConnect (s := { s with world }) _
    | ok credentials =>
      cases credentials with
      | none => exact veiled_failConnect (s := { s with world }) _
      | some credentials =>
        simp [Except.map, veiled, note, ask, quote, Occurrence.veiled, h.openSession]

/-- Whether a session has to be opened is decided by the hub, which the veil leaves as it is. -/
theorem veiled_beginConnect (config : ConnectionConfig) :
    veiledWith view (s.beginConnect env config) =
      (s.veiled view).beginConnect picture config.veiled := by
  cases hclosed : s.hub.closed with
  | true =>
    simp only [beginConnect, hub_veiled, hclosed, if_true]
    rw [veiledWith_mk, veiled_releaseSlot, veiled_say]
  | false =>
    cases hlive : s.hub.live with
    | some live =>
      simp only [beginConnect, hub_veiled, hclosed, hlive, Bool.false_eq_true, if_false]
      rw [veiledWith_mk, veiled_releaseSlot, veiled_say]
    | none =>
      -- on either side it is a service that says it is connecting who asks the store
      have hconnecting : (s.connecting config).veiled view =
          (s.veiled view).connecting config.veiled := veiled_note .credentialsLoad
      rw [beginConnect_of_idle hclosed hlive, veiled_beginOpen h, hconnecting]
      exact (beginConnect_of_idle (s := s.veiled view) hclosed hlive).symm

theorem veiled_beginClose (session : Nat) :
    veiledWith view (s.beginClose env session) = (s.veiled view).beginClose picture session := by
  simp [beginClose, veiled, note, ask, quote, Occurrence.veiled, h.closeSession]

/-- A session that takes no listener is closed behind the veil as well. -/
theorem veiled_afterListen (session : Nat) (added : Except SdkError Nat) :
    veiledWith view (afterListen env session (s, added)) =
      afterListen picture session (s.veiled view, added) := by
  cases added with
  | ok listener => exact veiled_endConnect _ _
  | error e =>
    have hclose := veiled_beginClose h (s := s) session
    exact veiled_waits hclose (ConnectStage.abandoning session e)

/-- What follows on the opening of a session depends on its answer alone. -/
theorem veiled_afterOpen (target : ListenerTarget) (result : Except SdkError Unit) :
    veiledWith view (s.afterOpen env target result) =
      (s.veiled view).afterOpen picture target result := by
  cases result with
  | error e => exact veiled_failConnect _
  | ok =>
    -- counted behind the veil under the same number, so the listener is asked of the same session
    have hopened : s.opened.veiled view = (s.veiled view).opened :=
      veiled_note (.sessionOpened s.hub.opened)
    have hadded := veiled_addListener h (s := s.opened) s.hub.opened target
    rw [hopened] at hadded
    rw [afterOpen_ok, afterOpen_ok, hub_veiled, ← hadded]
    exact veiled_afterListen h _ _

/-- Who has the slot is no secret. -/
theorem veiled_enterConnect (k : Nat) (config : ConnectionConfig) :
    veiledWith view (s.enterConnect env k config) =
      (s.veiled view).enterConnect picture k config.veiled := by
  simp only [enterConnect]
  exact veiled_if (veiled_beginConnect h config) rfl

/-- A connect goes on behind the veil if it can go on, and comes as far. -/
theorem veiled_resumeConnect (k : Nat) (config : ConnectionConfig) (target : ListenerTarget)
    (stage : ConnectStage) :
    (s.resumeConnect env k config target stage).map (veiledWith view) =
      (s.veiled view).resumeConnect picture k config.veiled target stage := by
  cases stage with
  | awaitingSlot => exact veiled_held (veiled_beginConnect h config)
  | opening call => exact veiled_answered fun result => veiled_afterOpen h target result
  | abandoning session cause call =>
    exact veiled_answered fun result => veiled_afterAbandon cause result

end

/-! ## Closing the session -/

theorem veiled_endDisconnect : veiledWith view s.endDisconnect = (s.veiled view).endDisconnect := by
  rw [endDisconnect, veiledWith_mk, veiled_releaseSlot, veiled_setConnectionState]
  rfl

/-- A session that is gone leaves the slot, and a line in the log. -/
theorem veiled_afterClose (live : LiveSession) (result : Except SdkError Unit) :
    veiledWith view (s.afterClose live result) = (s.veiled view).afterClose live result := by
  unfold afterClose
  cases result with
  | ok => rw [veiled_endDisconnect, veiled_say]
  | error e => rw [veiled_endDisconnect, veiled_say, veiled_say]

/-- Logs that a listener could not be removed. -/
def sayRemoved (s : Service W) (tag what : String) : Except SdkError Unit → Service W
  | .ok () => s
  | .error e => s.say tag .warn (what ++ e.message)

@[simp] theorem veiled_sayRemoved (tag what : String) (removed : Except SdkError Unit) :
    (s.sayRemoved tag what removed).veiled view =
      (s.veiled view).sayRemoved tag what removed := by
  cases removed <;> rfl

/-- The listener of a session that is about to be closed has been removed, or not. -/
def afterRemove (env : Collaborators W) (live : LiveSession)
    (removed : Service W × Except SdkError Unit) : Service W × DisconnectProgress :=
  let (s, call) := (removed.1.sayRemoved "connection" "Failed to remove event listener: "
    removed.2).beginClose env live.connection.session
  (s, .waits (.closing live call))

/-- A service whose hub may have been closed. -/
def closing (s : Service W) (close : Bool) : Service W :=
  { s with hub := { s.hub with closed := s.hub.closed || close } }

/-- A service without a live session. -/
def forgetLive (s : Service W) : Service W := { s with hub := { s.hub with live := none } }

/-- A live session is forgotten before its listener is removed, and closed after that. -/
theorem beginDisconnect_of_live {close : Bool} {live : LiveSession}
    (hlive : s.hub.live = some live) :
    s.beginDisconnect env close = afterRemove env live
      ((s.closing close).forgetLive.removeListener env live.connection.session live.listener) := by
  simp only [beginDisconnect, hlive, afterRemove, sayRemoved]
  rfl

section
variable (h : LooksLike view env picture)
include h

theorem veiled_afterRemove (live : LiveSession) (removed : Except SdkError Unit) :
    veiledWith view (afterRemove env live (s, removed)) =
      afterRemove picture live (s.veiled view, removed) := by
  have hclose := veiled_beginClose h (s := s.sayRemoved "connection"
    "Failed to remove event listener: " removed) live.connection.session
  rw [veiled_sayRemoved] at hclose
  exact veiled_waits hclose (DisconnectStage.closing live)

/-- Which session is closed is no secret. -/
theorem veiled_beginDisconnect (close : Bool) :
    veiledWith view (s.beginDisconnect env close) =
      (s.veiled view).beginDisconnect picture close := by
  cases hlive : s.hub.live with
  | none =>
    simp only [beginDisconnect, hub_veiled, hlive]
    rw [veiled_endDisconnect, veiled_say]
    rfl
  | some live =>
    -- the session is there on either side, so the listener is removed from the same one
    have hremoved := veiled_removeListener h (s := (s.closing close).forgetLive)
      live.connection.session live.listener
    have hlive' : (s.veiled view).hub.live = some live := hlive
    rw [beginDisconnect_of_live hlive, beginDisconnect_of_live hlive']
    exact veiled_then (veiled_afterRemove h live) hremoved

theorem veiled_enterDisconnect (k : Nat) (close : Bool) :
    veiledWith view (s.enterDisconnect env k close) =
      (s.veiled view).enterDisconnect picture k close := by
  simp only [enterDisconnect]
  exact veiled_if (veiled_beginDisconnect h close) rfl

/-- A disconnect goes on behind the veil if it can go on, and comes as far. -/
theorem veiled_resumeDisconnect (k : Nat) (close : Bool) (stage : DisconnectStage) :
    (s.resumeDisconnect env k close stage).map (veiledWith view) =
      (s.veiled view).resumeDisconnect picture k close stage := by
  cases stage with
  | awaitingSlot => exact veiled_held (veiled_beginDisconnect h close)
  | closing live call => exact veiled_answered fun result => veiled_afterClose live result

end

/-! ## Starting the plugin -/

/-- Every way out of a start lets go of the shelf behind the veil. -/
theorem veiled_endStart (level : LogLevel) (message : String) (running : Option PluginHandle) :
    veiledWith view (s.endStart level message running) =
      (s.veiled view).endStart level message running := by
  rw [endStart, veiledWith_mk, veiled_releaseShelf, veiled_say]
  rfl

theorem veiled_failStart (e : PluginError) :
    veiledWith view (s.failStart e) = (s.veiled view).failStart e :=
  veiled_endStart _ _ _

theorem veiled_afterUndo (cause : SdkError) (result : Except PluginError Unit) :
    veiledWith view (s.afterUndo cause result) = (s.veiled view).afterUndo cause result := by
  cases result with
  | ok => exact veiled_failStart _
  | error e =>
    rw [afterUndo, veiled_failStart, veiled_say]
    rfl

/-- A service with one more plugin. -/
def created (s : Service W) (session : Nat) : Service W :=
  { s with shelf := { s.shelf with created := s.shelf.created + 1 } }.note
    (.pluginCreated s.shelf.created session)

/-- The plugin that runs from now on. -/
def shelve (s : Service W) (handle : PluginHandle) : Service W × PluginStartProgress :=
  { s with shelf := { s.shelf with running := some handle } }.endStart .info "Plugin nwc started"
    (some handle)

/-- The session has taken the listener of a plugin, or refused it. -/
def afterPluginListen (env : Collaborators W) (plugin : Nat) (connection : Connection) :
    Service W × Except SdkError Nat → Service W × PluginStartProgress
  | (s, .ok listener) => s.shelve ⟨plugin, connection, listener⟩
  | (s, .error e) =>
    let (s, call) := s.beginStop env plugin
    (s, .waits (.undoing plugin e call))

/-- The plugin is counted first, then its listener is added. -/
theorem afterCreate_ok (connection : Connection) : s.afterCreate env connection (.ok ()) =
    afterPluginListen env s.shelf.created connection
      ((s.created connection.session).addListener env connection.session
        (.plugin s.shelf.created)) := by
  unfold afterCreate afterPluginListen created shelve
  rfl

/-- Asks for a plugin to be made. -/
def beginCreate (env : Collaborators W) (s : Service W) (connection : Connection)
    (config : NwcConfig) : Service W × PluginStartProgress :=
  let s := s.note (.createPlugin connection config)
  let (s, call) := s.ask (env.createPlugin connection config s.world)
  (s, .waits (.creating call))

section
variable (h : LooksLike view env picture)
include h

/-- The key is handed to the maker of the plugin, and nothing else depends on it. -/
theorem veiled_beginCreate (connection : Connection) (config : NwcConfig) :
    veiledWith view (s.beginCreate env connection config) =
      (s.veiled view).beginCreate picture connection config.veiled := by
  simp [beginCreate, veiled, note, ask, quote, Occurrence.veiled, h.createPlugin]

/-- Whether a plugin is made depends on whether there are settings, not on the key among them. -/
theorem veiled_beginStart (connection : Connection) (configs : PluginConfigs) :
    veiledWith view (s.beginStart env connection configs) =
      (s.veiled view).beginStart picture connection configs.veiled := by
  unfold beginStart
  rw [shelf_veiled]
  split
  · exact veiled_endStart _ _ _
  · cases s.shelf.running with
    | some handle => exact veiled_endStart _ _ _
    | none =>
      -- only the last branch reads the settings, and hands them on
      obtain ⟨nwc⟩ := configs
      cases nwc with
      | none => exact veiled_endStart _ _ _
      | some config =>
        exact veiled_if (veiled_beginCreate h connection config) (veiled_endStart _ _ _)

theorem veiled_beginStop (plugin : Nat) :
    veiledWith view (s.beginStop env plugin) = (s.veiled view).beginStop picture plugin := by
  simp [beginStop, veiled, note, ask, quote, Occurrence.veiled, h.stopPlugin]

/-- A plugin that cannot listen is stopped behind the veil as well. -/
theorem veiled_afterPluginListen (plugin : Nat) (connection : Connection)
    (added : Except SdkError Nat) :
    veiledWith view (afterPluginListen env plugin connection (s, added)) =
      afterPluginListen picture plugin connection (s.veiled view, added) := by
  cases added with
  | ok listener => exact veiled_endStart _ _ _
  | error e =>
    have hstop := veiled_beginStop h (s := s) plugin
    exact veiled_waits hstop (PluginStartStage.undoing plugin e)

/-- What follows on the making of a plugin depends on the maker's answer alone. -/
theorem veiled_afterCreate (connection : Connection) (result : Except PluginError Unit) :
    veiledWith view (s.afterCreate env connection result) =
      (s.veiled view).afterCreate picture connection result := by
  cases result with
  | error e => exact veiled_failStart e
  | ok =>
    have hcreated : (s.created connection.session).veiled view =
        (s.veiled view).created connection.session := veiled_note (.pluginCreated _ _)
    have hadded := veiled_addListener h (s := s.created connection.session) connection.session
      (.plugin s.shelf.created)
    rw [hcreated] at hadded
    rw [afterCreate_ok, afterCreate_ok, shelf_veiled, ← hadded]
    exact veiled_afterPluginListen h _ _ _

theorem veiled_enterStart (k : Nat) (connection : Connection) (configs : PluginConfigs) :
    veiledWith view (s.enterStart env k connection configs) =
      (s.veiled view).enterStart picture k connection configs.veiled := by
  simp only [enterStart]
  exact veiled_if (veiled_beginStart h connection configs) rfl

theorem veiled_enterStartAll (k : Nat) (connection : Connection) (configs : PluginConfigs) :
    veiledWith view (s.enterStartAll env k connection configs) =
      (s.veiled view).enterStartAll picture k connection configs.veiled := by
  simp only [enterStartAll]
  exact veiled_if (veiled_enterStart h k connection configs) rfl

/-- A start goes on behind the veil if it can go on, and comes as far. -/
theorem veiled_resumeStart (k : Nat) (connection : Connection) (configs : PluginConfigs)
    (stage : PluginStartStage) :
    (s.resumeStart env k connection configs stage).map (veiledWith view) =
      (s.veiled view).resumeStart picture k connection configs.veiled stage := by
  cases stage with
  | awaitingShelf => exact veiled_held (veiled_beginStart h connection configs)
  | creating call => exact veiled_answered fun result => veiled_afterCreate h connection result
  | undoing plugin cause call => exact veiled_answered fun result => veiled_afterUndo cause result

end

/-! ## Stopping the plugin -/

theorem veiled_afterStop (result : Except PluginError Unit) :
    veiledWith view (s.afterStop result) = (s.veiled view).afterStop result := by
  cases result <;> rw [afterStop, veiledWith_mk, veiled_releaseShelf, veiled_say] <;> rfl

/-- A service whose shelf starts nothing any more. -/
def stopping (s : Service W) : Service W := { s with shelf := { s.shelf with stopped := true } }

/-- A service without a plugin that runs. -/
def unshelve (s : Service W) : Service W := { s with shelf := { s.shelf with running := none } }

/-- The listener of a plugin that is about to stop has been removed, or not. -/
def afterPluginRemove (env : Collaborators W) (handle : PluginHandle)
    (removed : Service W × Except SdkError Unit) : Service W × PluginStopProgress :=
  let (s, call) := (removed.1.sayRemoved "plugin" "Plugin nwc listener removal failed: "
    removed.2).beginStop env handle.plugin
  (s, .waits (.stopping handle call))

/-- The plugin that runs is forgotten before its listener is removed, and stopped after that. -/
theorem beginStopAll_of_running {handle : PluginHandle} (hrunning : s.shelf.running = some handle) :
    s.beginStopAll env = afterPluginRemove env handle
      (s.stopping.unshelve.removeListener env handle.connection.session handle.listener) := by
  simp only [beginStopAll, hrunning, afterPluginRemove, sayRemoved]
  rfl

section
variable (h : LooksLike view env picture)
include h

theorem veiled_afterPluginRemove (handle : PluginHandle) (removed : Except SdkError Unit) :
    veiledWith view (afterPluginRemove env handle (s, removed)) =
      afterPluginRemove picture handle (s.veiled view, removed) := by
  have hstop := veiled_beginStop h (s := s.sayRemoved "plugin"
    "Plugin nwc listener removal failed: " removed) handle.plugin
  rw [veiled_sayRemoved] at hstop
  exact veiled_waits hstop (PluginStopStage.stopping handle)

/-- Which plugin is stopped is no secret. -/
theorem veiled_beginStopAll :
    veiledWith view (s.beginStopAll env) = (s.veiled view).beginStopAll picture := by
  cases hrunning : s.shelf.running with
  | none =>
    simp only [beginStopAll, shelf_veiled, hrunning]
    rw [veiledWith_mk, veiled_releaseShelf]
    rfl
  | some handle =>
    -- as in `veiled_beginDisconnect`, with the plugin for the session
    have hremoved := veiled_removeListener h (s := s.stopping.unshelve)
      handle.connection.session handle.listener
    have hrunning' : (s.veiled view).shelf.running = some handle := hrunning
    rw [beginStopAll_of_running hrunning, beginStopAll_of_running hrunning']
    exact veiled_then (veiled_afterPluginRemove h handle) hremoved

theorem veiled_enterStop (k : Nat) :
    veiledWith view (s.enterStop env k) = (s.veiled view).enterStop picture k := by
  simp only [enterStop]
  exact veiled_if (veiled_beginStopAll h) rfl

/-- A stop goes on behind the veil if it can go on, and comes as far. -/
theorem veiled_resumeStop (k : Nat) (stage : PluginStopStage) :
    (s.resumeStop env k stage).map (veiledWith view) =
      (s.veiled view).resumeStop picture k stage := by
  cases stage with
  | awaitingShelf => exact veiled_held (veiled_beginStopAll h)
  | stopping handle call => exact veiled_answered fun result => veiled_afterStop result

end

end PushWake.Service
