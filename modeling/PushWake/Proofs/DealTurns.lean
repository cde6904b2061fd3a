import PushWake.Proofs.Turns

/-!
# Sessions and plugins in turns

Each function that connects, disconnects, or starts or stops plugins is a turn, given what is
known of the stage it starts from; and where it stops to wait, what has to be known of the new
stage is true.
-/

namespace PushWake.Service

open Relation

variable {W : Type} {env : Collaborators W} {s s' : Service W} {k : Nat}

/-! ## Locks -/

@[simp] theorem wakeHolder_holdings (l : Lock) : (s.wakeHolder l).holdings = s.holdings := by
  unfold wakeHolder
  split <;> rfl

@[simp] theorem wakeHolder_hub (l : Lock) : (s.wakeHolder l).hub = s.hub := by
  unfold wakeHolder
  split <;> rfl

@[simp] theorem wakeHolder_shelf (l : Lock) : (s.wakeHolder l).shelf = s.shelf := by
  unfold wakeHolder
  split <;> rfl

@[simp] theorem wakeHolder_scene (l : Lock) : (s.wakeHolder l).scene = s.scene := by
  unfold wakeHolder
  split <;> rfl

/-- Whoever asks for the slot stands in line, and makes no deal by that. -/
theorem Turn.requestSlot : Turn k s (s.requestSlot k) where
  deals := .refl
  slot j hj h := by
    refine ⟨?_, rfl, rfl⟩
    simp [Service.requestSlot, Lock.request, h]
  shelf _ _ h := ⟨h, rfl, rfl⟩
  joined := .refl

theorem Turn.requestShelf : Turn k s (s.requestShelf k) where
  deals := .refl
  slot _ _ h := ⟨h, rfl, rfl⟩
  shelf j hj h := by
    refine ⟨?_, rfl, rfl⟩
    simp [Service.requestShelf, Lock.request, h]
  joined := .refl

/-- Handing the slot on ends what was done with it in hand. -/
theorem Turn.leaveSlot (h : Turn k s s') (hk : s'.hub.lock.holder = some k) :
    Turn k s s'.releaseSlot :=
  h.trans (.inSlot hk (by rw [releaseSlot, wakeHolder_holdings]; exact .refl)
    (wakeHolder_shelf _) (wakeHolder_scene _))

/-- Handing the shelf on ends what was done with it in hand. -/
theorem Turn.leaveShelf (h : Turn k s s') (hk : s'.shelf.lock.holder = some k) :
    Turn k s s'.releaseShelf :=
  h.trans (.inShelf hk (by rw [releaseShelf, wakeHolder_holdings]; exact .refl)
    (wakeHolder_hub _) (wakeHolder_scene _))

/-- A connection is still the live one when the slot goes to somebody else. -/
theorem attached_releaseSlot {connection : Connection} (h : s.Attached connection) :
    s.releaseSlot.Attached connection := by
  simpa [Attached, releaseSlot] using h

/-! ## Listeners -/

/-- A session takes a listener. -/
theorem addListener_taken {session l : Nat} {target : ListenerTarget}
    (h : s.addListener env session target = (s', .ok l)) :
    l = s.listenersAdded ∧ ∃ world, s' = ({ s.note (.addListener session) with
      world
      listenersAdded := l + 1
      listeners := s.listeners ++ [(⟨session, l, target⟩ : Listener)] }).note
        (.listenerAdded session l) := by
  unfold addListener at h
  extract_lets noted at h
  split at h
  · cases (Prod.mk.inj h).2
  · obtain ⟨rfl, hl⟩ := Prod.mk.inj h
    obtain rfl := Except.ok.inj hl
    exact ⟨rfl, _, rfl⟩

/-- A session refuses a listener. -/
theorem addListener_refused {session : Nat} {target : ListenerTarget} {e : SdkError}
    (h : s.addListener env session target = (s', .error e)) :
    ∃ world, s' = { s.note (.addListener session) with world } := by
  unfold addListener at h
  extract_lets noted at h
  split at h
  · cases h
    exact ⟨_, rfl⟩
  · cases h

/-- A session is asked to remove a listener, which it may keep. -/
theorem removeListener_asked {session l : Nat} {result : Except SdkError Unit}
    (h : s.removeListener env session l = (s', result)) :
    ∃ world listeners, listeners ⊆ s.listeners ∧
      s' = { s.note (.removeListener session l) with world, listeners } := by
  unfold removeListener at h
  extract_lets noted at h
  split at h
  · cases h
    exact ⟨_, _, List.Subset.refl _, rfl⟩
  · cases h
    exact ⟨_, _, List.filter_sublist.subset, rfl⟩

/-- What changes when a listener is offered to a session: only the record, and the count of those
that were accepted. -/
structure Offered (s : Service W) (session : Nat) (s' : Service W) (accepted : Nat)
    (record : List Occurrence) : Prop where
  holdings : s'.holdings = { s.holdings with
    accepted := accepted, record := s.holdings.record ++ .addListener session :: record }
  hub : s'.hub = s.hub
  shelf : s'.shelf = s.shelf
  scene : s'.scene = s.scene

/-- A session that takes a listener has been offered it, and the listener is numbered. -/
theorem addListener_ok {session l : Nat} {target : ListenerTarget}
    (h : s.addListener env session target = (s', .ok l)) :
    l = s.listenersAdded ∧
      Offered s session s' (s.listenersAdded + 1) [.listenerAdded session s.listenersAdded] := by
  obtain ⟨rfl, world, rfl⟩ := addListener_taken h
  exact ⟨rfl, by simp [Service.holdings, Service.record, note], rfl, rfl, rfl⟩

/-- A session that refuses has been offered a listener, and nothing else has happened. -/
theorem addListener_error {session : Nat} {target : ListenerTarget} {e : SdkError}
    (h : s.addListener env session target = (s', .error e)) :
    Offered s session s' s.listenersAdded [] := by
  obtain ⟨world, rfl⟩ := addListener_refused h
  exact ⟨by simp [Service.holdings, Service.record, note], rfl, rfl, rfl⟩

/-- A removal is asked for, whatever the session answers. -/
theorem removeListener_eq {session l : Nat} {result : Except SdkError Unit}
    (h : s.removeListener env session l = (s', result)) :
    s'.holdings = { s.holdings with
        record := s.holdings.record ++ [.removeListener session l] } ∧
      s'.hub = s.hub ∧ s'.shelf = s.shelf ∧ s'.scene = s.scene := by
  obtain ⟨world, listeners, -, rfl⟩ := removeListener_asked h
  exact ⟨by simp [Service.holdings, Service.record, note], rfl, rfl, rfl⟩

/-! ## Connecting -/

/-- What has to be known where a connect has come. -/
def ConnectOk (k : Nat) : Service W × ConnectProgress → Prop
  | (s, .waits stage) => s.ConnectSound k stage
  | (s, .done (.ok connection)) => s.Attached connection
  | (s, .done (.error e)) => e = .closed → s.hub.closed = true

/-- A connect that fails ends its turn without a deal. -/
theorem failConnect_turn (hk : s.hub.lock.holder = some k) {e : ConnectionError}
    (he : e ≠ .closed) :
    Turn k s (s.failConnect e).1 ∧ ConnectOk k (s.failConnect e) :=
  ⟨Turn.leaveSlot (.inSlot hk .refl rfl rfl) hk, fun hc => absurd hc he⟩

/-- With the slot in hand a connect opens a session where there is none, and then waits
alone for it. -/
theorem beginConnect_turn (hk : s.hub.lock.holder = some k) (config : ConnectionConfig) :
    Turn k s (s.beginConnect env config).1 ∧ ConnectOk k (s.beginConnect env config) := by
  unfold beginConnect
  split
  · rename_i hclosed
    refine ⟨Turn.leaveSlot (.inSlot hk .refl rfl rfl) hk, fun _ => ?_⟩
    simpa [releaseSlot, say] using hclosed
  · rename_i hopen
    have hopen : s.hub.closed = false := Bool.eq_false_iff.mpr hopen
    split
    · rename_i live hlive
      refine ⟨Turn.leaveSlot (.inSlot hk .refl rfl rfl) hk, ?_⟩
      exact attached_releaseSlot fun _ => by simp [say, hlive]
    · rename_i hlive
      extract_lets connecting said noted
      -- the credentials are looked for with the slot in hand, before there is any deal
      have hn : Turn k s noted :=
        (Turn.inSlot hk .refl rfl rfl : Turn k s said).trans (.note rfl)
      split
      rename_i credentials world _
      extract_lets loaded
      have hl : Turn k s loaded := hn.trans (.aside .refl rfl rfl rfl)
      split
      · obtain ⟨hf, hok⟩ := failConnect_turn (s := loaded) hk (e := .credentials _) nofun
        exact ⟨hl.trans hf, hok⟩
      · obtain ⟨hf, hok⟩ := failConnect_turn (s := loaded) hk (e := .missingCredentials) nofun
        exact ⟨hl.trans hf, hok⟩
      · rename_i credentials _
        have hd : Deal loaded.holdings
            (loaded.note (.openSession config credentials)).holdings := by
          rw [holdings_note]
          exact .ask config credentials hopen
        exact ⟨hl.trans (.aside (.single hd) rfl rfl rfl), hk, hlive, hopen⟩

/-- The session that was opened is kept with its listener. -/
theorem endConnect_holdings (n l : Nat) : (s.endConnect n l).1.holdings =
    { s.holdings with live := some ⟨⟨⟨s.drawn⟩, n⟩, l⟩ } :=
  wakeHolder_holdings _

theorem endConnect_ok (n l : Nat) : ConnectOk k (s.endConnect n l) :=
  attached_releaseSlot fun _ => rfl

/-- A session is asked to disconnect; what is held of it is settled before. -/
theorem beginClose_holdings (n : Nat) : (s.beginClose env n).1.holdings =
    { s.holdings with record := s.holdings.record ++ [.closeSession n] } :=
  holdings_note (s := s) (.closeSession n)

/-- The session that was opened is kept or disconnected at once, in one deal. -/
theorem afterOpen_turn (ha : s.OpensAlone k) (target : ListenerTarget)
    (result : Except SdkError Unit) :
    Turn k s (s.afterOpen env target result).1 ∧ ConnectOk k (s.afterOpen env target result) := by
  obtain ⟨hk, hlive, hopen⟩ := ha
  cases result with
  | error e => exact failConnect_turn hk nofun
  | ok =>
    -- opening and the listener that follows are one deal: nobody sees the session in between
    have hopened : ({ s with hub := { s.hub with opened := s.hub.opened + 1 } }.note
        (.sessionOpened s.hub.opened)).holdings = { s.holdings with
          opened := s.hub.opened + 1
          record := s.holdings.record ++ [.sessionOpened s.hub.opened] } := holdings_note _
    simp only [afterOpen]
    split
    · rename_i s' l he
      obtain ⟨rfl, ho⟩ := addListener_ok he
      refine ⟨.inSlot hk (.single ?_) ?_ ?_, endConnect_ok _ _⟩
      · simp only [endConnect_holdings, ho.holdings, hopened, List.append_assoc]
        exact .open ⟨s'.drawn⟩ hlive hopen
      · exact (wakeHolder_shelf _).trans ho.shelf
      · exact (wakeHolder_scene _).trans ho.scene
    · rename_i s' e he
      have ho := addListener_error he
      refine ⟨.inSlot hk (.single ?_) ho.shelf ho.scene, ?_⟩
      · simp only [beginClose_holdings, ho.holdings, hopened, List.append_assoc]
        exact .abandon hopen
      · have hhub : (s'.beginClose env s.hub.opened).1.hub =
            { s.hub with opened := s.hub.opened + 1 } := ho.hub
        exact ⟨by rw [hhub]; exact hk, by rw [hhub]; exact hlive, by rw [hhub]; exact hopen⟩

/-- A session that could not be kept has been given back already. -/
theorem afterAbandon_turn (ha : s.OpensAlone k) (cause : SdkError) (result : Except SdkError Unit) :
    Turn k s (s.afterAbandon cause result).1 ∧ ConnectOk k (s.afterAbandon cause result) := by
  cases result with
  | ok => exact failConnect_turn ha.1 nofun
  | error e => exact ⟨Turn.leaveSlot (.inSlot ha.1 .refl rfl rfl) ha.1, nofun⟩

theorem holder_of_holdsSlot (h : s.holdsSlot k = true) : s.hub.lock.holder = some k := by
  simpa [holdsSlot, Lock.isHeldBy] using h

theorem holder_of_holdsShelf (h : s.holdsShelf k = true) : s.shelf.lock.holder = some k := by
  simpa [holdsShelf, Lock.isHeldBy] using h

/-- A connect that finds the slot free goes on at once. -/
theorem enterConnect_turn (config : ConnectionConfig) :
    Turn k s (s.enterConnect env k config).1 ∧ ConnectOk k (s.enterConnect env k config) := by
  unfold enterConnect
  extract_lets requested
  split
  · rename_i hk
    obtain ⟨ht, hok⟩ := beginConnect_turn (W := W) (holder_of_holdsSlot hk) config
    exact ⟨Turn.requestSlot.trans ht, hok⟩
  · exact ⟨.requestSlot, trivial⟩

/-- **A connect takes a turn at every step**, given what is known of its stage. -/
theorem resumeConnect_turn {config : ConnectionConfig} {target : ListenerTarget}
    {stage : ConnectStage} {r : Service W × ConnectProgress} (hs : s.ConnectSound k stage)
    (hr : s.resumeConnect env k config target stage = some r) :
    Turn k s r.1 ∧ ConnectOk k r := by
  cases stage with
  | awaitingSlot =>
    obtain ⟨hk, hr⟩ := Option.ite_none_right_eq_some.mp hr
    cases hr
    exact beginConnect_turn (holder_of_holdsSlot hk) config
  | opening call =>
    obtain ⟨result, -, rfl⟩ := Option.map_eq_some_iff.mp hr
    exact afterOpen_turn hs target result
  | abandoning session cause call =>
    obtain ⟨result, -, rfl⟩ := Option.map_eq_some_iff.mp hr
    exact afterAbandon_turn hs cause result

/-! ## Disconnecting -/

/-- What has to be known where the disconnect of a teardown has come. -/
def DisconnectOk (k : Nat) : Service W × DisconnectProgress → Prop
  | (s, .waits .awaitingSlot) => s.shelf.stopped = true
  | (s, .waits (.closing _ _)) =>
      s.shelf.stopped = true ∧ s.hub.lock.holder = some k ∧ s.hub.closed = true
  | (s, .done ()) => s.hub.closed = true

theorem endDisconnect_turn (hk : s.hub.lock.holder = some k) (hclosed : s.hub.closed = true) :
    Turn k s s.endDisconnect.1 ∧ DisconnectOk k s.endDisconnect := by
  refine ⟨Turn.leaveSlot (.inSlot hk .refl rfl rfl) hk, ?_⟩
  simpa [DisconnectOk, endDisconnect, releaseSlot, setConnectionState] using hclosed

/-- Where the plugins have stopped, the live session goes with its listener, in one deal. -/
theorem beginDisconnect_turn (hk : s.hub.lock.holder = some k) (hstopped : s.shelf.stopped = true) :
    Turn k s (s.beginDisconnect env true).1 ∧ DisconnectOk k (s.beginDisconnect env true) := by
  unfold beginDisconnect
  extract_lets hub closed hub' left
  have hclosed : closed.hub.closed = true := Bool.or_true _
  split
  · rename_i hlive
    have ht : Turn k s
        (closed.say "connection" .debug "Disconnect requested while not connected") := by
      refine .inSlot hk (.single ?_) rfl rfl
      have : closed.holdings = { s.holdings with closed := true } := by
        simp [holdings, record, closed, hub]
      exact this ▸ .shut hlive hstopped
    obtain ⟨ht', hok⟩ := endDisconnect_turn (k := k)
      (s := closed.say "connection" .debug "Disconnect requested while not connected") hk hclosed
    exact ⟨ht.trans ht', hok⟩
  · rename_i live hlive
    split
    rename_i s' removed he
    obtain ⟨hholdings, hhub, hshelf, hscene⟩ := removeListener_eq he
    -- the session is disconnected whether or not its listener could be removed
    have hclose : ∀ t : Service W, t.holdings = s'.holdings → t.hub = s'.hub → t.shelf = s'.shelf →
        t.scene = s'.scene →
        Turn k s (t.beginClose env live.connection.session).1 ∧ DisconnectOk k
          ((t.beginClose env live.connection.session).1,
            .waits (.closing live (t.beginClose env live.connection.session).2)) := by
      intro t hholdings' hhub' hshelf' hscene'
      have hshelf' : t.shelf = s.shelf := hshelf'.trans hshelf
      have hhub' : t.hub = left.hub := hhub'.trans hhub
      refine ⟨.inSlot hk (.single ?_) hshelf' (hscene'.trans hscene), ?_, ?_, ?_⟩
      · have hleft : left.holdings = { s.holdings with live := none, closed := true } := by
          simp [holdings, record, left, hub', closed, hub]
        simp only [beginClose_holdings, hholdings', hholdings, hleft, List.append_assoc]
        exact .close hlive hstopped
      · show t.shelf.stopped = true
        rw [hshelf', hstopped]
      · show t.hub.lock.holder = some k
        rw [hhub', ← hk]
      · show t.hub.closed = true
        rw [hhub', ← hclosed]
    cases removed with
    | ok => exact hclose s' rfl rfl rfl rfl
    | error e => exact hclose (s'.say _ _ _) rfl rfl rfl rfl

/-- What a session says to its end changes nothing that is held. -/
theorem afterClose_turn (hk : s.hub.lock.holder = some k) (hclosed : s.hub.closed = true)
    (live : LiveSession) (result : Except SdkError Unit) :
    Turn k s (s.afterClose live result).1 ∧ DisconnectOk k (s.afterClose live result) := by
  have hend : ∀ t : Service W, t.hub = s.hub → Turn k s t →
      Turn k s t.endDisconnect.1 ∧ DisconnectOk k t.endDisconnect := by
    intro t hhub ht
    obtain ⟨ht', hok⟩ := endDisconnect_turn (s := t) (hhub ▸ hk) (hhub ▸ hclosed)
    exact ⟨ht.trans ht', hok⟩
  cases result with
  | ok => exact hend _ rfl (.aside .refl rfl rfl rfl)
  | error e => exact hend _ rfl (.aside .refl rfl rfl rfl)

theorem enterDisconnect_turn (hstopped : s.shelf.stopped = true) :
    Turn k s (s.enterDisconnect env k true).1 ∧ DisconnectOk k (s.enterDisconnect env k true) := by
  unfold enterDisconnect
  extract_lets requested
  split
  · rename_i hk
    obtain ⟨ht, hok⟩ := beginDisconnect_turn (W := W) (s := requested)
      (holder_of_holdsSlot hk) hstopped
    exact ⟨Turn.requestSlot.trans ht, hok⟩
  · exact ⟨.requestSlot, hstopped⟩

/-- **A disconnect of a teardown takes a turn at every step.** -/
theorem resumeDisconnect_turn {stage : DisconnectStage} {r : Service W × DisconnectProgress}
    (hs : s.TeardownSound k (.closingConnection stage))
    (hr : s.resumeDisconnect env k true stage = some r) : Turn k s r.1 ∧ DisconnectOk k r := by
  cases stage with
  | awaitingSlot =>
    obtain ⟨hk, hr⟩ := Option.ite_none_right_eq_some.mp hr
    cases hr
    exact beginDisconnect_turn (holder_of_holdsSlot hk) hs
  | closing live call =>
    obtain ⟨result, -, rfl⟩ := Option.map_eq_some_iff.mp hr
    exact afterClose_turn hs.2.1 hs.2.2 live result

/-! ## Starting plugins -/

/-- What has to be known where a start has come. -/
def StartOk (k : Nat) : Service W × PluginStartProgress → Prop
  | (s, .waits stage) => s.StartSound k stage
  | (_, .done _) => True

/-- A start that ends without a plugin makes no deal. -/
theorem endStart_turn (hk : s.shelf.lock.holder = some k) (level : LogLevel) (message : String)
    (running : Option PluginHandle) :
    Turn k s (s.endStart level message running).1 ∧ StartOk k (s.endStart level message running) :=
  ⟨Turn.leaveShelf (.inShelf hk .refl rfl rfl) hk, trivial⟩

/-- With the shelf in hand a start asks for a plugin where none runs, and then waits
alone for it. -/
theorem beginStart_turn (hk : s.shelf.lock.holder = some k) (connection : Connection)
    (configs : PluginConfigs) :
    Turn k s (s.beginStart env connection configs).1 ∧
      StartOk k (s.beginStart env connection configs) := by
  unfold beginStart
  split
  · exact endStart_turn hk _ _ _
  · rename_i hmakes
    have hmakes : s.shelf.stopped = false := Bool.eq_false_iff.mpr hmakes
    split
    · exact endStart_turn hk _ _ _
    · exact endStart_turn hk _ _ _
    · rename_i config hrunning _
      split
      · have hd : Deal s.holdings (s.note (.createPlugin connection config)).holdings := by
          rw [holdings_note]
          exact .order connection config hmakes
        exact ⟨.aside (.single hd) rfl rfl rfl, hk, hrunning, hmakes⟩
      · exact endStart_turn hk _ _ _

theorem beginStop_holdings (p : Nat) : (s.beginStop env p).1.holdings =
    { s.holdings with record := s.holdings.record ++ [.stopPlugin p] } :=
  holdings_note (s := s) (.stopPlugin p)

/-- The plugin that was made is kept with its listener. -/
theorem keepPlugin_holdings (handle : PluginHandle) (level : LogLevel) (message : String) :
    ({ s with shelf := { s.shelf with running := some handle } }.endStart level message
      (some handle)).1.holdings = { s.holdings with running := some handle } :=
  wakeHolder_holdings _

/-- The plugin that was made is kept or stopped at once, in one deal. Its session is the live one,
so its listener has somebody to remove it from. -/
theorem afterCreate_turn (hl : Ledger s.holdings) (ha : s.MakesAlone k) {connection : Connection}
    (hc : s.Attached connection) (result : Except PluginError Unit) :
    Turn k s (s.afterCreate env connection result).1 ∧
      StartOk k (s.afterCreate env connection result) := by
  obtain ⟨hk, hrunning, hmakes⟩ := ha
  -- plugins can still be made, so the session that the trigger connected to is still the live one
  have hopen : s.hub.closed = false := by
    rw [Bool.eq_false_iff]
    intro hclosed
    rw [show s.shelf.stopped = true from hl.stopped_of_closed hclosed] at hmakes
    cases hmakes
  have hsession : s.holdings.session? = some connection.session := by
    obtain ⟨live, hlive, rfl⟩ := Option.map_eq_some_iff.mp (hc hopen)
    simp [Holdings.session?, holdings, hlive]
  cases result with
  | error e => exact endStart_turn hk _ _ _
  | ok =>
    have hcreated : ({ s with shelf := { s.shelf with created := s.shelf.created + 1 } }.note
        (.pluginCreated s.shelf.created connection.session)).holdings = { s.holdings with
          created := s.shelf.created + 1
          record := s.holdings.record ++
            [.pluginCreated s.shelf.created connection.session] } := holdings_note _
    simp only [afterCreate]
    split
    · rename_i s' l he
      obtain ⟨rfl, ho⟩ := addListener_ok he
      refine ⟨.inShelf hk (.single ?_) ?_ ?_, trivial⟩
      · simp only [keepPlugin_holdings, ho.holdings, hcreated, List.append_assoc]
        exact .create connection hrunning hmakes hsession
      · exact (wakeHolder_hub _).trans ho.hub
      · exact (wakeHolder_scene _).trans ho.scene
    · rename_i s' e he
      have ho := addListener_error he
      refine ⟨.inShelf hk (.single ?_) ho.hub ho.scene, ?_⟩
      · simp only [beginStop_holdings, ho.holdings, hcreated, List.append_assoc]
        exact .discard connection hmakes hsession
      · have hshelf : (s'.beginStop env s.shelf.created).1.shelf =
            { s.shelf with created := s.shelf.created + 1 } := ho.shelf
        exact ⟨by rw [hshelf]; exact hk, by rw [hshelf]; exact hrunning,
          by rw [hshelf]; exact hmakes⟩

theorem afterUndo_turn (ha : s.MakesAlone k) (cause : SdkError) (result : Except PluginError Unit) :
    Turn k s (s.afterUndo cause result).1 ∧ StartOk k (s.afterUndo cause result) := by
  cases result with
  | ok => exact endStart_turn ha.1 _ _ _
  | error e => exact ⟨Turn.leaveShelf (.inShelf ha.1 .refl rfl rfl) ha.1, trivial⟩

theorem enterStart_turn (connection : Connection) (configs : PluginConfigs) :
    Turn k s (s.enterStart env k connection configs).1 ∧
      StartOk k (s.enterStart env k connection configs) := by
  unfold enterStart
  extract_lets requested
  split
  · rename_i hk
    obtain ⟨ht, hok⟩ := beginStart_turn (W := W) (holder_of_holdsShelf hk) connection configs
    exact ⟨Turn.requestShelf.trans ht, hok⟩
  · exact ⟨.requestShelf, trivial⟩

theorem enterStartAll_turn (connection : Connection) (configs : PluginConfigs) :
    Turn k s (s.enterStartAll env k connection configs).1 ∧
      StartOk k (s.enterStartAll env k connection configs) := by
  unfold enterStartAll
  split
  · exact enterStart_turn connection configs
  · exact ⟨.refl, trivial⟩

/-- **A start takes a turn at every step**, given what is known of its stage. -/
theorem resumeStart_turn (hl : Ledger s.holdings) {connection : Connection}
    (hc : s.Attached connection) {configs : PluginConfigs} {stage : PluginStartStage}
    {r : Service W × PluginStartProgress} (hs : s.StartSound k stage)
    (hr : s.resumeStart env k connection configs stage = some r) : Turn k s r.1 ∧ StartOk k r := by
  cases stage with
  | awaitingShelf =>
    obtain ⟨hk, hr⟩ := Option.ite_none_right_eq_some.mp hr
    cases hr
    exact beginStart_turn (holder_of_holdsShelf hk) connection configs
  | creating call =>
    obtain ⟨result, -, rfl⟩ := Option.map_eq_some_iff.mp hr
    exact afterCreate_turn hl hs hc result
  | undoing plugin cause call =>
    obtain ⟨result, -, rfl⟩ := Option.map_eq_some_iff.mp hr
    exact afterUndo_turn hs cause result

/-! ## Stopping plugins -/

/-- What has to be known where a stop has come. -/
def StopOk (k : Nat) : Service W × PluginStopProgress → Prop
  | (_, .waits .awaitingShelf) => True
  | (s, .waits (.stopping _ _)) => s.shelf.lock.holder = some k ∧ s.shelf.stopped = true
  | (s, .done ()) => s.shelf.stopped = true

theorem releaseShelf_stopped : s.releaseShelf.shelf.stopped = s.shelf.stopped := by
  simp [releaseShelf]

/-- The plugin that runs goes with its listener, in one deal, and from then on the shelf
has stopped. -/
theorem beginStopAll_turn (hk : s.shelf.lock.holder = some k) :
    Turn k s (s.beginStopAll env).1 ∧ StopOk k (s.beginStopAll env) := by
  unfold beginStopAll
  extract_lets shelf stopped shelf' left
  have hstopped : stopped.shelf.stopped = true := rfl
  split
  · rename_i hrunning
    have ht : Turn k s stopped := by
      refine .inShelf hk (.single ?_) rfl rfl
      exact .halt hrunning
    exact ⟨Turn.leaveShelf ht hk, releaseShelf_stopped⟩
  · rename_i handle hrunning
    split
    rename_i s' removed he
    obtain ⟨hholdings, hhub, hshelf, hscene⟩ := removeListener_eq he
    -- the plugin is stopped whether or not its listener could be removed
    have hstop : ∀ t : Service W, t.holdings = s'.holdings → t.hub = s'.hub → t.shelf = s'.shelf →
        t.scene = s'.scene →
        Turn k s (t.beginStop env handle.plugin).1 ∧ StopOk k
          ((t.beginStop env handle.plugin).1,
            .waits (.stopping handle (t.beginStop env handle.plugin).2)) := by
      intro t hholdings' hhub' hshelf' hscene'
      have hshelf' : t.shelf = left.shelf := hshelf'.trans hshelf
      refine ⟨.inShelf hk (.single ?_) (hhub'.trans hhub) (hscene'.trans hscene), ?_, ?_⟩
      · have hleft : left.holdings = { s.holdings with running := none, stopped := true } := rfl
        simp only [beginStop_holdings, hholdings', hholdings, hleft, List.append_assoc]
        exact .stop hrunning
      · show t.shelf.lock.holder = some k
        rw [hshelf', ← hk]
      · show t.shelf.stopped = true
        rw [hshelf']
    cases removed with
    | ok => exact hstop s' rfl rfl rfl rfl
    | error e => exact hstop (s'.say _ _ _) rfl rfl rfl rfl

theorem afterStop_turn (hk : s.shelf.lock.holder = some k) (hstopped : s.shelf.stopped = true)
    (result : Except PluginError Unit) :
    Turn k s (s.afterStop result).1 ∧ StopOk k (s.afterStop result) := by
  cases result with
  | ok =>
    exact ⟨Turn.leaveShelf (.inShelf hk .refl rfl rfl) hk, releaseShelf_stopped.trans hstopped⟩
  | error e =>
    exact ⟨Turn.leaveShelf (.inShelf hk .refl rfl rfl) hk, releaseShelf_stopped.trans hstopped⟩

theorem enterStop_turn : Turn k s (s.enterStop env k).1 ∧ StopOk k (s.enterStop env k) := by
  unfold enterStop
  extract_lets requested
  split
  · rename_i hk
    obtain ⟨ht, hok⟩ := beginStopAll_turn (W := W) (holder_of_holdsShelf hk)
    exact ⟨Turn.requestShelf.trans ht, hok⟩
  · exact ⟨.requestShelf, trivial⟩

/-- **A stop takes a turn at every step.** -/
theorem resumeStop_turn {stage : PluginStopStage} {r : Service W × PluginStopProgress}
    (hs : s.TeardownSound k (.stoppingPlugins stage)) (hr : s.resumeStop env k stage = some r) :
    Turn k s r.1 ∧ StopOk k r := by
  cases stage with
  | awaitingShelf =>
    obtain ⟨hk, hr⟩ := Option.ite_none_right_eq_some.mp hr
    cases hr
    exact beginStopAll_turn (holder_of_holdsShelf hk)
  | stopping handle call =>
    obtain ⟨result, -, rfl⟩ := Option.map_eq_some_iff.mp hr
    exact afterStop_turn hs.1 hs.2 result

end PushWake.Service
