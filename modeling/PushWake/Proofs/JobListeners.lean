import PushWake.Proofs.JobChanges
import PushWake.Proofs.TriggerProgress

/-!
# Who hears the session

As long as a service is open, the jobs listen to its live session, and what holds of the state of
the collaborators holds on if no call can end it. Only the end of a service takes listeners away, so
it is enough to follow triggers on their way and bodies at their work.
-/

namespace PushWake.Service

variable {W : Type} {env : Collaborators W} {Q : W → Prop} {s t : Service W} {k : Nat}

/-- What is known of the session while a service is open: the hub is, the jobs listen to the live
session, and something is known of the state of the collaborators. -/
structure Wired (Q : W → Prop) (s : Service W) : Prop where
  world : Q s.world
  isOpen : s.hub.closed = false
  listens : ∀ live, s.hub.live = some live →
    ⟨live.connection.session, live.listener, .jobs⟩ ∈ s.listeners

namespace Wired

/-- What changes neither the collaborators nor the session nor who listens changes nothing. -/
theorem quiet (h : Wired Q s) (hworld : t.world = s.world) (hclosed : t.hub.closed = s.hub.closed)
    (hlive : t.hub.live = s.hub.live) (hlisteners : t.listeners = s.listeners) : Wired Q t where
  world := hworld ▸ h.world
  isOpen := hclosed.trans h.isOpen
  listens live hl := hlisteners ▸ h.listens live (hlive ▸ hl)

theorem releaseSlot (h : Wired Q s) : Wired Q s.releaseSlot := by
  unfold Service.releaseSlot Service.wakeHolder
  split
  · exact h.quiet rfl rfl rfl rfl
  · exact h.quiet rfl rfl rfl rfl

theorem releaseShelf (h : Wired Q s) : Wired Q s.releaseShelf := by
  unfold Service.releaseShelf Service.wakeHolder
  split
  · exact h.quiet rfl rfl rfl rfl
  · exact h.quiet rfl rfl rfl rfl

theorem send (h : Wired Q s) (c : SchedulerCommand) : Wired Q (s.send c) := by
  obtain ⟨wakes, log, he⟩ := s.send_eq c
  rw [he]
  exact h.quiet rfl rfl rfl rfl

theorem armIfEmpty (h : Wired Q s) : Wired Q s.armIfEmpty.1 := by
  unfold Service.armIfEmpty Service.change
  extract_lets c jobs
  have hset : Wired Q jobs := h.quiet rfl rfl rfl rfl
  split
  · exact hset.send _
  · exact hset

/-! ## Connecting -/

theorem failConnect (h : Wired Q s) (e : ConnectionError) : Wired Q (s.failConnect e).1 :=
  releaseSlot (s := (s.setConnectionState .disconnected).say _ _ _) (h.quiet rfl rfl rfl rfl)

/-- A session to which the jobs listen goes live. -/
theorem endConnect (h : Wired Q s) {session listener : Nat}
    (hl : ⟨session, listener, .jobs⟩ ∈ s.listeners) :
    Wired Q (s.endConnect session listener).1 := by
  refine releaseSlot ⟨h.world, h.isOpen, fun live hlive => ?_⟩
  cases hlive
  exact hl

section
variable (hQ : ∀ {w w' : W}, env.Asked w w' → Q w → Q w')
include hQ

/-- A call leads to a state of the collaborators of which as much is known. -/
theorem call {α : Type} {reply : Answer α × W} (h : Wired Q s) (hr : env.Asked s.world reply.2) :
    Wired Q (s.ask reply).1 :=
  ⟨hQ hr h.world, h.isOpen, h.listens⟩

/-- A connect that begins finds the hub as it was, with or without a session. -/
theorem beginConnect (h : Wired Q s) (config : ConnectionConfig) :
    Wired Q (s.beginConnect env config).1 := by
  unfold Service.beginConnect
  split
  · exact releaseSlot (s := s.say _ _ _) (h.quiet rfl rfl rfl rfl)
  · split
    · exact releaseSlot (s := s.say _ _ _) (h.quiet rfl rfl rfl rfl)
    · extract_lets connecting said noted
      split
      rename_i credentials world he
      have hw : Wired Q { noted with world } := by
        obtain rfl : (env.loadCredentials noted.world).2 = world := congrArg Prod.snd he
        exact ⟨hQ .loadCredentials h.world, h.isOpen, h.listens⟩
      split
      · exact hw.failConnect _
      · exact hw.failConnect _
      · exact call hQ (s := Service.note _ _) (hw.quiet rfl rfl rfl rfl) (.openSession config _)

/-- A session that cannot be kept was never the live one. -/
theorem beginClose (h : Wired Q s) (session : Nat) : Wired Q (s.beginClose env session).1 :=
  call hQ (s := s.note _) (h.quiet rfl rfl rfl rfl) (.closeSession session)

/-- A listener is offered, and hears the session if it is accepted. -/
theorem addListener (h : Wired Q s) {session : Nat} {target : ListenerTarget}
    {r : Service W × Except SdkError Nat} (hr : s.addListener env session target = r) :
    Wired Q r.1 ∧ ∀ number, r.2 = .ok number → ⟨session, number, target⟩ ∈ r.1.listeners := by
  subst hr
  unfold Service.addListener
  extract_lets noted
  have hworld : Q (env.addListener session noted.world).2 := hQ (.addListener session) h.world
  split
  · rename_i he
    rw [he] at hworld
    exact ⟨⟨hworld, h.isOpen, h.listens⟩, nofun⟩
  · rename_i he
    rw [he] at hworld
    refine ⟨⟨hworld, h.isOpen, fun live hl => List.mem_append_left _ (h.listens live hl)⟩, ?_⟩
    rintro number ⟨⟩
    exact List.mem_append_right _ (List.mem_singleton_self _)

/-- The session becomes the live one with the jobs as its listener, or not at all. -/
theorem afterOpen (h : Wired Q s) (result : Except SdkError Unit) :
    Wired Q (s.afterOpen env .jobs result).1 := by
  cases result with
  | error e => exact h.failConnect _
  | ok =>
    have hopened : Wired Q ({ s with hub := { s.hub with opened := s.hub.opened + 1 } }.note
        (.sessionOpened s.hub.opened)) := h.quiet rfl rfl rfl rfl
    simp only [Service.afterOpen]
    split
    · rename_i he
      obtain ⟨ha, hl⟩ := hopened.addListener hQ he
      exact ha.endConnect (hl _ rfl)
    · rename_i he
      exact (hopened.addListener hQ he).1.beginClose hQ _

omit hQ in
theorem afterAbandon (h : Wired Q s) (cause : SdkError) (result : Except SdkError Unit) :
    Wired Q (s.afterAbandon cause result).1 := by
  cases result with
  | ok => exact h.failConnect _
  | error e => exact failConnect (s := s.say _ _ _) (h.quiet rfl rfl rfl rfl) _

theorem enterConnect (h : Wired Q s) (k : Nat) (config : ConnectionConfig) :
    Wired Q (s.enterConnect env k config).1 := by
  have hr : Wired Q (s.requestSlot k) := h.quiet rfl rfl rfl rfl
  unfold Service.enterConnect
  extract_lets requested
  split
  · exact hr.beginConnect hQ _
  · exact hr

/-- **A connect for the jobs leaves them listening to the live session.** -/
theorem resumeConnect (h : Wired Q s) {config : ConnectionConfig} {stage : ConnectStage}
    {r : Service W × ConnectProgress} (hr : s.resumeConnect env k config .jobs stage = some r) :
    Wired Q r.1 := by
  cases stage with
  | awaitingSlot =>
    obtain ⟨-, hr⟩ := Option.ite_none_right_eq_some.mp hr
    cases hr
    exact h.beginConnect hQ _
  | opening call =>
    obtain ⟨result, -, rfl⟩ := Option.map_eq_some_iff.mp hr
    exact h.afterOpen hQ _
  | abandoning session cause call =>
    obtain ⟨result, -, rfl⟩ := Option.map_eq_some_iff.mp hr
    exact h.afterAbandon _ _

/-! ## Plugins -/

omit hQ in
theorem endStart (h : Wired Q s) (level : LogLevel) (message : String)
    (running : Option PluginHandle) : Wired Q (s.endStart level message running).1 :=
  releaseShelf (s := s.say _ _ _) (h.quiet rfl rfl rfl rfl)

theorem beginStart (h : Wired Q s) (connection : Connection) (configs : PluginConfigs) :
    Wired Q (s.beginStart env connection configs).1 := by
  unfold Service.beginStart
  split
  · exact h.endStart _ _ _
  · split
    · exact h.endStart _ _ _
    · exact h.endStart _ _ _
    · split
      · exact call hQ (s := s.note _) (h.quiet rfl rfl rfl rfl) (.createPlugin connection _)
      · exact h.endStart _ _ _

/-- The listener of a plugin is one more; the jobs keep theirs. -/
theorem afterCreate (h : Wired Q s) (connection : Connection) (result : Except PluginError Unit) :
    Wired Q (s.afterCreate env connection result).1 := by
  cases result with
  | error e => exact h.endStart _ _ _
  | ok =>
    have hcreated :
        Wired Q ({ s with shelf := { s.shelf with created := s.shelf.created + 1 } }.note
        (.pluginCreated s.shelf.created connection.session)) := h.quiet rfl rfl rfl rfl
    simp only [Service.afterCreate]
    split
    · rename_i t _ he
      have ha := (hcreated.addListener hQ he).1
      have hkept : ∀ shelf, Wired Q { t with shelf } := fun _ => ha.quiet rfl rfl rfl rfl
      exact (hkept _).endStart _ _ _
    · rename_i t _ he
      have ha := (hcreated.addListener hQ he).1
      exact call hQ (s := t.note _) (ha.quiet rfl rfl rfl rfl) (.stopPlugin _)

omit hQ in
theorem afterUndo (h : Wired Q s) (cause : SdkError) (result : Except PluginError Unit) :
    Wired Q (s.afterUndo cause result).1 := by
  cases result with
  | ok => exact h.endStart _ _ _
  | error e => exact endStart (s := s.say _ _ _) (h.quiet rfl rfl rfl rfl) _ _ _

theorem enterStartAll (h : Wired Q s) (k : Nat) (connection : Connection)
    (configs : PluginConfigs) :
    Wired Q (s.enterStartAll env k connection configs).1 := by
  have hr : Wired Q (s.requestShelf k) := h.quiet rfl rfl rfl rfl
  unfold Service.enterStartAll Service.enterStart
  extract_lets requested
  split
  · split
    · exact hr.beginStart hQ _ _
    · exact hr
  · exact h

/-- Starts of plugins are nothing to the jobs' listener. -/
theorem resumeStart (h : Wired Q s) {connection : Connection} {configs : PluginConfigs}
    {stage : PluginStartStage} {r : Service W × PluginStartProgress}
    (hr : s.resumeStart env k connection configs stage = some r) : Wired Q r.1 := by
  cases stage with
  | awaitingShelf =>
    obtain ⟨-, hr⟩ := Option.ite_none_right_eq_some.mp hr
    cases hr
    exact h.beginStart hQ _ _
  | creating call =>
    obtain ⟨result, -, rfl⟩ := Option.map_eq_some_iff.mp hr
    exact h.afterCreate hQ _ _
  | undoing plugin cause call =>
    obtain ⟨result, -, rfl⟩ := Option.map_eq_some_iff.mp hr
    exact h.afterUndo _ _

/-! ## Triggers -/

omit hQ in
theorem say (h : Wired Q s) (tag : String) (level : LogLevel) (message : String) :
    Wired Q (s.say tag level message) :=
  h.quiet rfl rfl rfl rfl

omit hQ in
/-- A trigger gets its job in an open set. -/
theorem afterPlugins (hopen : s.jobs.closed = false) (trigger : Trigger) (connection : Connection)
    {r : Service W × PluginStartProgress} (hjobs : r.1.jobs = s.jobs) (h : Wired Q r.1) :
    Wired Q (afterPlugins trigger connection r).1 := by
  obtain ⟨t, progress⟩ := r
  cases progress with
  | waits stage => exact h
  | done running =>
    obtain ⟨wakes, log, he⟩ := t.beginJob_of_open (hjobs ▸ hopen) trigger connection
    simp only [Service.afterPlugins]
    split
    · exact h.say _ _ _
    · rw [he]
      exact h.quiet rfl rfl rfl rfl

/-- A trigger with a connection finds the jobs listening to its session. -/
theorem afterConnect (hopen : s.jobs.closed = false) (trigger : Trigger)
    {r : Service W × ConnectProgress} (hjobs : r.1.jobs = s.jobs) (h : Wired Q r.1) :
    Wired Q (afterConnect env k trigger r).1 := by
  obtain ⟨t, progress⟩ := r
  cases progress with
  | waits stage => exact h
  | done result =>
    cases result with
    | error e =>
      have harm : Wired Q (t.say "service" .error
          ("Cannot run " ++ trigger.kind.name ++ " job: " ++ e.message)).armIfEmpty.1 :=
        (h.say _ _ _).armIfEmpty
      cases e with
      | closed => exact h.say _ _ _
      | credentials | missingCredentials | sdk | listener => exact harm
    | ok connection =>
      simp only [Service.afterConnect]
      split
      · exact h.say _ _ _
      · have hstirred : Stirred 0 t (t.enterStartAll env k connection t.config.plugins).1 :=
          Stirred.session.enterStartAll k _ _ .refl
        exact afterPlugins hopen trigger connection (hstirred.jobs.trans hjobs)
          (h.enterStartAll hQ k connection t.config.plugins)

/-- **A trigger of an open service leaves it wired.** -/
theorem resumeTrigger (h : Wired Q s) (hopen : s.jobs.closed = false) {m : TriggerMessage}
    {stage : TriggerStage} {r : Service W × TriggerProgress}
    (hr : s.resumeTrigger env k m stage = some r) : Wired Q r.1 := by
  cases stage with
  | arriving =>
    cases hr
    unfold Service.enterTrigger
    split
    · exact h.say _ _ _
    · extract_lets sent
      have hsent : Wired Q sent := h.send _
      split
      · exact (hsent.say _ _ _).armIfEmpty
      · rename_i trigger _
        have hstirred : Stirred 1 s ((sent.say "service" .info ("Received " ++ trigger.summary ++
            " trigger")).enterConnect env k sent.config.connection).1 :=
          Stirred.session.enterConnect k _ (Stirred.refl.send .reset).say
        exact afterConnect hQ hopen trigger hstirred.jobs ((hsent.say _ _ _).enterConnect hQ k _)
  | connecting trigger stage =>
    obtain ⟨c, hc, rfl⟩ := Option.map_eq_some_iff.mp hr
    have hstirred : Stirred 0 s c.1 := Stirred.session.resumeConnect hc .refl
    exact afterConnect hQ hopen trigger hstirred.jobs (h.resumeConnect hQ hc)
  | startingPlugins trigger connection stage =>
    obtain ⟨p, hp, rfl⟩ := Option.map_eq_some_iff.mp hr
    have hstirred : Stirred 0 s p.1 := Stirred.session.resumeStart hp .refl
    exact afterPlugins hopen trigger connection hstirred.jobs (h.resumeStart hQ hp)

end

end Wired

/-! ## Bodies -/

/-- A job is resolved. -/
theorem Wired.settle (h : Wired Q s) (id : Identity) (job : SwapJob) (c : Nat) (r : Resolution) :
    Wired Q ((s.setWork id (.swap { job with phase := .done })).settle id c r) := by
  obtain ⟨_, _, _, he⟩ :=
    complete_eq_with (s := (s.setWork id (.swap { job with phase := .done })).note
    (.notify id r.notification)) c r.outcome
  rw [Service.settle, he]
  exact h.quiet rfl rfl rfl rfl

/-- Events change what jobs wait for, and not who hears a session. -/
theorem eventStrokes_wired : EventStrokes (Wired (W := W) Q) where
  quiet _ _ _ h := h.quiet rfl rfl rfl rfl
  note _ _ h := h.quiet rfl rfl rfl rfl
  same _ h := h.quiet rfl rfl rfl rfl
  keep _ _ _ h := h.quiet rfl rfl rfl rfl
  settle {_ id job c r} _ _ _ h := h.settle id job c r

/-- A body asks the collaborators, and adds and removes no listener. -/
theorem bodyStrokes_wired (hQ : ∀ {w w' : W}, env.Asked w w' → Q w → Q w') (id : Identity)
    (c : Nat) :
    BodyStrokes env id c (Wired Q) where
  toEventStrokes := eventStrokes_wired
  ask ha h := ⟨hQ ha h.world, h.isOpen, h.listens⟩
  sync _ h := h.quiet rfl rfl rfl rfl
  start _ _ h := h.quiet rfl rfl rfl rfl
  early {_ job r} _ _ h := h.settle id job c r
  use {s} o h := by
    obtain ⟨_, _, _, he⟩ := complete_eq_with (s := s) c o
    rw [he]
    exact h.quiet rfl rfl rfl rfl
  tell _ _ h := h.quiet rfl rfl rfl rfl

end PushWake.Service
