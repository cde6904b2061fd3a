import PushWake.Service.Step

/-!
# What sessions and plugins leave alone

Connecting, disconnecting, and the starts and stops of plugins move the slot and the shelf, and
have nothing to do with jobs, commands or deadlines. A property is `SessionStable` if the few
changes that they are made of keep it; each of their functions then keeps it, by one lemma. That
the hub closes and that the shelf stops are the changes that only the end of a service makes, so
they are kept apart.
-/

namespace PushWake

/-- Whether something happens only between a service, its sessions and its plugins. -/
def Occurrence.isDealing : Occurrence → Bool
  | .credentialsLoad => true
  | .openSession _ _ => true
  | .sessionOpened _ => true
  | .addListener _ => true
  | .listenerAdded _ _ => true
  | .removeListener _ _ => true
  | .closeSession _ => true
  | .createPlugin _ _ => true
  | .pluginCreated _ _ => true
  | .stopPlugin _ => true
  | _ => false

namespace Service

variable {W : Type} {env : Collaborators W} {s : Service W} {k : Nat}

/-- A property that the changes that dealings with sessions and plugins are made of keep. -/
structure SessionStable (P : Service W → Prop) : Prop where
  /-- What nobody else reads. -/
  quiet : ∀ {s : Service W} (world : W) (listeners : List Listener) (listenersAdded : Nat)
    (shelf : PluginShelf) (log : List (Nat × LogLine)) (wakes : List Nat),
    shelf.stopped = s.shelf.stopped → P s →
    P { s with world, listeners, listenersAdded, shelf, log, wakes }
  draw : ∀ {s : Service W}, P s → P s.draw.1
  /-- The slot moves, and the hub stays open or closed. -/
  hub : ∀ {s : Service W} (hub : ConnectionHub), hub.closed = s.hub.closed → P s → P { s with hub }
  note : ∀ {s : Service W} {o : Occurrence}, o.isDealing = true → P s → P (s.note o)

namespace SessionStable

variable {P : Service W → Prop} (hP : SessionStable P)
include hP

theorem say (tag : String) (level : LogLevel) (message : String) (h : P s) :
    P (s.say tag level message) :=
  hP.quiet _ _ _ _ _ _ rfl h

theorem wakeHolder (l : Lock) (h : P s) : P (s.wakeHolder l) := by
  unfold Service.wakeHolder
  split
  · exact hP.quiet _ _ _ _ _ _ rfl h
  · exact h

/-- A call that is over at once, such as the loading of credentials, changes the state of the
collaborators only. -/
theorem world (world : W) (h : P s) : P { s with world } :=
  hP.quiet _ _ _ _ _ _ rfl h

/-- Nobody but the caller learns what a call will be answered. -/
theorem ask {α : Type} (reply : Answer α × W) (h : P s) : P (s.ask reply).1 :=
  hP.quiet (s := s) _ _ _ _ _ _ rfl h

theorem requestSlot (k : Nat) (h : P s) : P (s.requestSlot k) :=
  hP.hub _ rfl h

/-- Letting go of the slot may wake whoever comes next, and that is all. -/
theorem releaseSlot (h : P s) : P s.releaseSlot :=
  hP.wakeHolder _ (hP.hub _ rfl h)

theorem requestShelf (k : Nat) (h : P s) : P (s.requestShelf k) :=
  hP.quiet _ _ _ _ _ _ rfl h

theorem releaseShelf (h : P s) : P s.releaseShelf :=
  hP.wakeHolder _ (hP.quiet _ _ _ _ _ _ rfl h)

/-- A session is asked for a listener and takes it or refuses; both are dealings. -/
theorem addListener {session : Nat} {target : ListenerTarget} {r : Service W × Except SdkError Nat}
    (hr : s.addListener env session target = r) (h : P s) : P r.1 := by
  have hn : P (s.note (.addListener session)) := hP.note rfl h
  subst hr
  unfold Service.addListener
  extract_lets noted
  split
  · exact hP.quiet _ _ _ _ _ _ rfl hn
  · exact hP.note rfl (hP.quiet _ _ _ _ _ _ rfl hn)

/-- The listener is gone whatever the session says to that. -/
theorem removeListener {session listener : Nat} {r : Service W × Except SdkError Unit}
    (hr : s.removeListener env session listener = r) (h : P s) : P r.1 := by
  have hn : P (s.note (.removeListener session listener)) := hP.note rfl h
  subst hr
  unfold Service.removeListener
  extract_lets noted
  split
  · exact hP.quiet _ _ _ _ _ _ rfl hn
  · exact hP.quiet _ _ _ _ _ _ rfl hn

/-! ## Connecting -/

theorem setConnectionState (state : ConnectionState) (h : P s) : P (s.setConnectionState state) :=
  hP.hub _ rfl h

/-- A connect that fails leaves the slot as somebody else may use it. -/
theorem failConnect (e : ConnectionError) (h : P s) : P (s.failConnect e).1 :=
  hP.releaseSlot (hP.say _ _ _ (hP.setConnectionState _ h))

theorem endConnect (session listener : Nat) (h : P s) : P (s.endConnect session listener).1 := by
  have hdrawn : P s.draw.1 := hP.draw h
  exact hP.releaseSlot (hP.say _ _ _ (hP.setConnectionState _ (hP.hub _ rfl hdrawn)))

/-- With the slot in hand: a hub that is closed and a session that is there end the connect at once,
and so do credentials that cannot be loaded. -/
theorem beginConnect (config : ConnectionConfig) (h : P s) : P (s.beginConnect env config).1 := by
  unfold Service.beginConnect
  split
  · exact hP.releaseSlot (hP.say _ _ _ h)
  · split
    · exact hP.releaseSlot (hP.say _ _ _ h)
    · -- only here something is begun; the credentials decide how far it goes
      extract_lets connecting said noted
      have hn : P noted := hP.note rfl (hP.say _ _ _ (hP.setConnectionState _ h))
      split
      rename_i credentials world _
      have hw : P { noted with world } := hP.world _ hn
      split
      · exact hP.failConnect _ hw
      · exact hP.failConnect _ hw
      · exact hP.ask _ (hP.note rfl hw)

theorem beginClose (session : Nat) (h : P s) : P (s.beginClose env session).1 :=
  hP.ask _ (hP.note rfl h)

/-- The wallet has answered: a session that it opened is kept with its listener, or given back. -/
theorem afterOpen (target : ListenerTarget) (result : Except SdkError Unit) (h : P s) :
    P (s.afterOpen env target result).1 := by
  cases result with
  | error e => exact hP.failConnect _ h
  | ok =>
    simp only [Service.afterOpen]
    -- the session has its first listener, or it cannot be kept
    split
    · rename_i he
      exact hP.endConnect _ _ (hP.addListener he (hP.note rfl (hP.hub _ rfl h)))
    · rename_i he
      exact hP.beginClose _ (hP.addListener he (hP.note rfl (hP.hub _ rfl h)))

theorem afterAbandon (cause : SdkError) (result : Except SdkError Unit) (h : P s) :
    P (s.afterAbandon cause result).1 := by
  cases result with
  | ok => exact hP.failConnect _ h
  | error e => exact hP.failConnect _ (hP.say _ _ _ h)

/-- Whoever finds the slot free goes on at once, and whoever does not waits for it. -/
theorem enterConnect (k : Nat) (config : ConnectionConfig) (h : P s) :
    P (s.enterConnect env k config).1 := by
  unfold Service.enterConnect
  extract_lets requested
  split
  · exact hP.beginConnect _ (hP.requestSlot k h)
  · exact hP.requestSlot k h

/-- **Connecting, step by step.** Which step it is depends on the stage only. -/
theorem resumeConnect {config : ConnectionConfig} {target : ListenerTarget} {stage : ConnectStage}
    {r : Service W × ConnectProgress} (hr : s.resumeConnect env k config target stage = some r)
    (h : P s) : P r.1 := by
  cases stage with
  | awaitingSlot =>
    obtain ⟨-, hr⟩ := Option.ite_none_right_eq_some.mp hr
    cases hr
    exact hP.beginConnect _ h
  | opening call =>
    obtain ⟨result, -, rfl⟩ := Option.map_eq_some_iff.mp hr
    exact hP.afterOpen _ _ h
  | abandoning session cause call =>
    obtain ⟨result, -, rfl⟩ := Option.map_eq_some_iff.mp hr
    exact hP.afterAbandon _ _ h

/-! ## Disconnecting -/

theorem endDisconnect (h : P s) : P s.endDisconnect.1 :=
  hP.releaseSlot (hP.setConnectionState _ h)

/-- With the slot in hand the live session goes, listener first. Whether the hub closes in the same
step is said by the caller, since only the end of a service closes it. -/
theorem beginDisconnect {close : Bool}
    (h : P { s with hub := { s.hub with closed := s.hub.closed || close } }) :
    P (s.beginDisconnect env close).1 := by
  unfold Service.beginDisconnect
  extract_lets hub closed _ left
  split
  · exact hP.endDisconnect (hP.say _ _ _ h)
  · rename_i live _
    have hleft : P left := hP.hub { closed.hub with live := none } rfl h
    split
    rename_i removed he
    have hr := hP.removeListener he hleft
    -- a listener that the session did not give up is only complained about
    cases removed with
    | ok => exact hP.beginClose _ hr
    | error e => exact hP.beginClose _ (hP.say _ _ _ hr)

/-- A session that could not be closed is gone as well; there is only more to log. -/
theorem afterClose (live : LiveSession) (result : Except SdkError Unit) (h : P s) :
    P (s.afterClose live result).1 := by
  cases result with
  | ok => exact hP.endDisconnect (hP.say _ _ _ h)
  | error e => exact hP.endDisconnect (hP.say _ _ _ (hP.say _ _ _ h))

theorem enterDisconnect {k : Nat} {close : Bool} (h : P s)
    (hclose : ∀ {s : Service W}, P s →
      P { s with hub := { s.hub with closed := s.hub.closed || close } }) :
    P (s.enterDisconnect env k close).1 := by
  unfold Service.enterDisconnect
  extract_lets requested
  split
  · exact hP.beginDisconnect (hclose (hP.requestSlot k h))
  · exact hP.requestSlot k h

/-- **Disconnecting, step by step.** -/
theorem resumeDisconnect {close : Bool} {stage : DisconnectStage}
    {r : Service W × DisconnectProgress} (hr : s.resumeDisconnect env k close stage = some r)
    (h : P s)
    (hclose : ∀ {s : Service W}, P s →
      P { s with hub := { s.hub with closed := s.hub.closed || close } }) : P r.1 := by
  cases stage with
  | awaitingSlot =>
    obtain ⟨-, hr⟩ := Option.ite_none_right_eq_some.mp hr
    cases hr
    exact hP.beginDisconnect (hclose h)
  | closing live call =>
    obtain ⟨result, -, rfl⟩ := Option.map_eq_some_iff.mp hr
    exact hP.afterClose _ _ h

/-! ## Plugins -/

theorem beginStop (plugin : Nat) (h : P s) : P (s.beginStop env plugin).1 :=
  hP.ask _ (hP.note rfl h)

/-- Every way out of a start ends here: it says how things stand and lets go of the shelf. -/
theorem endStart (level : LogLevel) (message : String) (running : Option PluginHandle) (h : P s) :
    P (s.endStart level message running).1 :=
  hP.releaseShelf (hP.say _ _ _ h)

/-- With the shelf in hand: a shelf that is stopped, a plugin that runs, and settings or a maker
that are missing end the start at once. -/
theorem beginStart (connection : Connection) (configs : PluginConfigs) (h : P s) :
    P (s.beginStart env connection configs).1 := by
  unfold Service.beginStart
  split
  · exact hP.endStart _ _ _ h
  · split
    · exact hP.endStart _ _ _ h
    · exact hP.endStart _ _ _ h
    · split
      · exact hP.ask _ (hP.note rfl h)
      · exact hP.endStart _ _ _ h

/-- A plugin that was made is kept with its listener, or stopped again. -/
theorem afterCreate (connection : Connection) (result : Except PluginError Unit) (h : P s) :
    P (s.afterCreate env connection result).1 := by
  cases result with
  | error e => exact hP.endStart _ _ _ h
  | ok =>
    simp only [Service.afterCreate]
    -- the plugin hears the session from now on, or it cannot be kept
    split
    · rename_i he
      have ha := hP.addListener he (hP.note rfl (hP.quiet _ _ _ _ _ _ rfl h))
      exact hP.endStart _ _ _ (hP.quiet _ _ _ _ _ _ rfl ha)
    · rename_i he
      exact hP.beginStop _ (hP.addListener he (hP.note rfl (hP.quiet _ _ _ _ _ _ rfl h)))

theorem afterUndo (cause : SdkError) (result : Except PluginError Unit) (h : P s) :
    P (s.afterUndo cause result).1 := by
  cases result with
  | ok => exact hP.endStart _ _ _ h
  | error e => exact hP.endStart _ _ _ (hP.say _ _ _ h)

theorem enterStart (k : Nat) (connection : Connection) (configs : PluginConfigs) (h : P s) :
    P (s.enterStart env k connection configs).1 := by
  unfold Service.enterStart
  extract_lets requested
  split
  · exact hP.beginStart _ _ (hP.requestShelf k h)
  · exact hP.requestShelf k h

theorem enterStartAll (k : Nat) (connection : Connection) (configs : PluginConfigs) (h : P s) :
    P (s.enterStartAll env k connection configs).1 := by
  unfold Service.enterStartAll
  split
  · exact hP.enterStart k _ _ h
  · exact h

/-- **Starting a plugin, step by step.** -/
theorem resumeStart {connection : Connection} {configs : PluginConfigs} {stage : PluginStartStage}
    {r : Service W × PluginStartProgress}
    (hr : s.resumeStart env k connection configs stage = some r) (h : P s) : P r.1 := by
  cases stage with
  | awaitingShelf =>
    obtain ⟨-, hr⟩ := Option.ite_none_right_eq_some.mp hr
    cases hr
    exact hP.beginStart _ _ h
  | creating call =>
    obtain ⟨result, -, rfl⟩ := Option.map_eq_some_iff.mp hr
    exact hP.afterCreate _ _ h
  | undoing plugin cause call =>
    obtain ⟨result, -, rfl⟩ := Option.map_eq_some_iff.mp hr
    exact hP.afterUndo _ _ h

/-- With the shelf in hand the plugin that runs goes, listener first. As with the hub, that the
shelf stops is said by the caller. -/
theorem beginStopAll (h : P { s with shelf := { s.shelf with stopped := true } }) :
    P (s.beginStopAll env).1 := by
  unfold Service.beginStopAll
  extract_lets shelf stopped _ left
  split
  · exact hP.releaseShelf h
  · rename_i handle _
    have hleft : P left := hP.quiet (s := stopped) _ _ _ _ _ _ rfl h
    split
    rename_i removed he
    have hr := hP.removeListener he hleft
    cases removed with
    | ok => exact hP.beginStop _ hr
    | error e => exact hP.beginStop _ (hP.say _ _ _ hr)

theorem afterStop (result : Except PluginError Unit) (h : P s) : P (s.afterStop result).1 := by
  cases result with
  | ok => exact hP.releaseShelf (hP.say _ _ _ h)
  | error e => exact hP.releaseShelf (hP.say _ _ _ h)

theorem enterStop (k : Nat) (h : P s)
    (hhalt : ∀ {s : Service W}, P s → P { s with shelf := { s.shelf with stopped := true } }) :
    P (s.enterStop env k).1 := by
  unfold Service.enterStop
  extract_lets requested
  split
  · exact hP.beginStopAll (hhalt (hP.requestShelf k h))
  · exact hP.requestShelf k h

/-- **Stopping the plugins, step by step.** -/
theorem resumeStop {stage : PluginStopStage} {r : Service W × PluginStopProgress}
    (hr : s.resumeStop env k stage = some r) (h : P s)
    (hhalt : ∀ {s : Service W}, P s → P { s with shelf := { s.shelf with stopped := true } }) :
    P r.1 := by
  cases stage with
  | awaitingShelf =>
    obtain ⟨-, hr⟩ := Option.ite_none_right_eq_some.mp hr
    cases hr
    exact hP.beginStopAll (hhalt h)
  | stopping handle call =>
    obtain ⟨result, -, rfl⟩ := Option.map_eq_some_iff.mp hr
    exact hP.afterStop _ h

end SessionStable

end Service

end PushWake
