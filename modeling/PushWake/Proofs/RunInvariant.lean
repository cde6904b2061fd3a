import PushWake.Proofs.DealTurns

/-!
# Steps are turns

Whatever an activity does in a step is a turn, and then it waits at a stage of which enough is
known, or comes to its end. So the ledger holds at every point of every run, what is known of an
activity is true whenever it goes on, and the record of a run only grows.
-/

namespace PushWake.Service

open Relation

variable {W : Type} {env : Collaborators W} {s s' s'' : Service W} {j k : Nat}

/-! ## Jobs and commands in turns -/

/-- The work of jobs takes part in no deal. -/
theorem workBlind_turn : WorkBlind fun t => Turn k s t where
  quiet _ _ _ _ _ h := h.trans (.aside .refl rfl rfl rfl)
  use _ _ h := Turn.noted (h.trans (.aside .refl rfl rfl rfl)) rfl
  note {_ o} ho h := h.noted (by cases o <;> first | rfl | cases ho)
  settlement _ _ _ h := h.trans (.begin rfl)

theorem workStable_turn : WorkStable fun t => Turn k s t := workBlind_turn.stable

theorem wakeScheduler_turn : Turn k s s.wakeScheduler := by
  unfold wakeScheduler
  split
  · exact .aside .refl rfl rfl rfl
  · exact .refl

/-- A command is no deal. -/
theorem send_turn (c : SchedulerCommand) : Turn k s (s.send c) := by
  unfold send
  split
  · refine Turn.trans ?_ wakeScheduler_turn
    exact Turn.noted (.aside .refl rfl rfl rfl) rfl
  · exact (Turn.note rfl).trans (.aside .refl rfl rfl rfl)

theorem change_turn (c : JobSet.Change) : Turn k s (s.change c) := by
  have hset : Turn k s { s with jobs := c.set } := .aside .refl rfl rfl rfl
  unfold change
  extract_lets t
  split
  · exact hset.trans (send_turn _)
  · exact hset

theorem spawn_turn {a : Activity} (ha : isWorker a = true) : Turn k s (s.spawn a) :=
  Turn.trans (.begin ha) (.aside .refl rfl rfl rfl)

/-- A job that is registered brings its reaper with it. -/
theorem addJob_turn (id : Identity) (kind : JobKind) : Turn k s (s.addJob id kind).1 := by
  unfold addJob
  split
  rename_i t completer he
  have ht : Turn k s t := by
    obtain ⟨rfl, -⟩ := Prod.mk.inj he
    exact .aside .refl rfl rfl rfl
  extract_lets c
  split
  · refine ht.trans ?_
    refine Turn.trans ?_ (spawn_turn rfl)
    exact ((Turn.note rfl).trans (change_turn _)).trans (.aside .refl rfl rfl rfl)
  · exact workStable_turn.dropCompleter _ (workStable_turn.say _ _ _ ht)

/-- A job that is taken out may leave a command behind. -/
theorem removeJob_turn (id : Identity) (o : JobOutcome) : Turn k s (s.removeJob id o).1 := by
  unfold removeJob
  split
  · exact .aside .refl rfl rfl rfl
  · rename_i e _
    have ht : Turn k s ((s.note (.jobRemoved id o)).sayOutcome e o) := by
      cases o with
      | completed => exact Turn.trans (.note rfl) (.aside .refl rfl rfl rfl)
      | failed => exact Turn.trans (.note rfl) (.aside .refl rfl rfl rfl)
    exact ht.trans (change_turn _)

theorem armIfEmpty_turn : Turn k s s.armIfEmpty.1 := change_turn _

/-- A body that starts marks its job as running, and its work up to the first wait is no deal. -/
theorem freshBody_turn (id : Identity) (completer session : Nat) :
    Turn k s ((s.markRunning id).1.beginBody env id completer session).1 :=
  workStable_turn.beginBody _ _ _ (change_turn _)

theorem signalJobs_turn : Turn k s s.signalJobs.1 :=
  workStable_turn.signalJobs (fun id _ h => workBlind_turn.signal id h) (fun _ => .refl)
    fun _ => .aside .refl rfl rfl rfl

/-! ## Triggers in turns -/

/-- What has to be known where a trigger has come. -/
def TriggerOk (m : TriggerMessage) (k : Nat) : Service W × TriggerProgress → Prop
  | (s, .waits stage) => s.Sound k (.trigger m stage)
  | (_, .done _) => True

theorem dropTrigger_turn (m : TriggerMessage) (message : String) :
    Turn k s (s.dropTrigger message).1 ∧ TriggerOk m k (s.dropTrigger message) :=
  ⟨.aside .refl rfl rfl rfl, trivial⟩

/-- A trigger that gets its job brings the body with it and comes to its end. -/
theorem beginJob_turn (m : TriggerMessage) (trigger : Trigger) (connection : Connection) :
    Turn k s (s.beginJob trigger connection).1 ∧ TriggerOk m k (s.beginJob trigger connection) := by
  unfold beginJob
  split
  rename_i t id he
  have ht : Turn k s t := by
    obtain ⟨rfl, -⟩ := Prod.mk.inj he
    exact .aside .refl rfl rfl rfl
  extract_lets work worked
  have hw : Turn k s worked := ht.trans (.aside .refl rfl rfl rfl)
  have ha : Turn k s (worked.addJob id work.kind).1 := hw.trans (addJob_turn _ _)
  split
  · rename_i t' he'
    rw [he'] at ha
    exact ⟨ha.trans (dropTrigger_turn m _).1, trivial⟩
  · rename_i t' completer he'
    rw [he'] at ha
    exact ⟨ha.trans (spawn_turn rfl), trivial⟩

/-- Whatever became of the plugins, the connection is still the one the trigger got. -/
theorem afterPlugins_turn (m : TriggerMessage) (trigger : Trigger) {connection : Connection}
    {r : Service W × PluginStartProgress} (ht : Turn k s r.1) (hok : StartOk k r)
    (hc : r.1.Attached connection) :
    Turn k s (afterPlugins trigger connection r).1 ∧
      TriggerOk m k (afterPlugins trigger connection r) := by
  obtain ⟨t, progress⟩ := r
  cases progress with
  | waits stage => exact ⟨ht, hok, hc⟩
  | done running =>
    simp only [afterPlugins]
    split
    · exact ⟨ht.trans (dropTrigger_turn m _).1, trivial⟩
    · obtain ⟨ht', hok'⟩ := beginJob_turn (k := k) (s := t) m trigger connection
      exact ⟨ht.trans ht', hok'⟩

/-- A trigger with a connection goes on to the plugins, or comes to its end. -/
theorem afterConnect_turn (m : TriggerMessage) (trigger : Trigger) {r : Service W × ConnectProgress}
    (ht : Turn k s r.1) (hok : ConnectOk k r) :
    Turn k s (afterConnect env k trigger r).1 ∧ TriggerOk m k (afterConnect env k trigger r) := by
  obtain ⟨t, progress⟩ := r
  cases progress with
  | waits stage => exact ⟨ht, hok⟩
  | done result =>
    cases result with
    | error e =>
      have harm : Turn k s (t.say "service" .error
          ("Cannot run " ++ trigger.kind.name ++ " job: " ++ e.message)).armIfEmpty.1 :=
        ht.said.trans armIfEmpty_turn
      -- a closed service arms nothing: the trigger is dropped
      cases e with
      | closed => exact ⟨ht.trans (dropTrigger_turn m _).1, trivial⟩
      | credentials | missingCredentials | sdk | listener => exact ⟨harm, trivial⟩
    | ok connection =>
      simp only [afterConnect]
      split
      · exact ⟨ht.trans (dropTrigger_turn m _).1, trivial⟩
      · -- the session that was connected to stays the live one while the plugins are started
        obtain ⟨ht', hok'⟩ := enterStartAll_turn (k := k) (s := t) connection t.config.plugins
        exact afterPlugins_turn m trigger (ht.trans ht') hok' (ht'.attached hok)

/-- A trigger that gets past its first check goes on from where the hard limit has started over. -/
theorem acceptTrigger_turn (m : TriggerMessage) (halive : s.ending = false) :
    Turn k (s.send .reset) (s.enterTrigger env k m).1 ∧ TriggerOk m k (s.enterTrigger env k m) := by
  simp only [enterTrigger, halive, Bool.false_eq_true, if_false]
  split
  · rename_i e _
    have harm : Turn k (s.send .reset) ((s.send .reset).say "service" .warn
        ("Ignoring trigger: " ++ e.message)).armIfEmpty.1 := Turn.refl.said.trans armIfEmpty_turn
    exact ⟨harm, trivial⟩
  · rename_i trigger _
    have hr : Turn k (s.send .reset) ((s.send .reset).say "service" .info
        ("Received " ++ trigger.summary ++ " trigger")) := Turn.refl.said
    obtain ⟨ht, hok⟩ := enterConnect_turn (k := k) _
    exact afterConnect_turn m trigger (hr.trans ht) hok

theorem enterTrigger_turn (m : TriggerMessage) :
    Turn k s (s.enterTrigger env k m).1 ∧ TriggerOk m k (s.enterTrigger env k m) := by
  cases halive : s.ending with
  | true =>
    simp only [enterTrigger, halive, if_true]
    exact dropTrigger_turn m _
  | false =>
    have ht : Turn k (s.send .reset) (s.enterTrigger env k m).1 ∧
        TriggerOk m k (s.enterTrigger env k m) := acceptTrigger_turn m halive
    exact ⟨(send_turn _).trans ht.1, ht.2⟩

/-- **A trigger takes a turn at every step**, given what is known of its stage. -/
theorem resumeTrigger_turn (hl : Ledger s.holdings) {m : TriggerMessage} {stage : TriggerStage}
    {r : Service W × TriggerProgress} (hs : s.Sound k (.trigger m stage))
    (hr : s.resumeTrigger env k m stage = some r) : Turn k s r.1 ∧ TriggerOk m k r := by
  cases stage with
  | arriving =>
    cases hr
    exact enterTrigger_turn m
  | connecting trigger stage =>
    obtain ⟨c, hc, rfl⟩ := Option.map_eq_some_iff.mp hr
    obtain ⟨ht, hok⟩ := resumeConnect_turn hs hc
    exact afterConnect_turn m trigger ht hok
  | startingPlugins trigger connection stage =>
    obtain ⟨p, hp, rfl⟩ := Option.map_eq_some_iff.mp hr
    obtain ⟨ht, hok⟩ := resumeStart_turn hl hs.2 hs.1 hp
    exact afterPlugins_turn m trigger ht hok (ht.attached hs.2)

/-! ## Teardowns in turns -/

/-- What has to be known where a teardown has come. -/
def TeardownOk (k : Nat) : Service W × TeardownProgress → Prop
  | (s, .waits stage) => s.TeardownSound k stage
  | (_, .done ()) => True

/-- The host is told once the hub has closed and holds no session. -/
theorem afterClosing_turn (reason : ShutdownReason) {r : Service W × DisconnectProgress}
    (ht : Turn k s r.1) (hok : DisconnectOk k r) :
    Turn k s (afterClosing reason r).1 ∧ TeardownOk k (afterClosing reason r) := by
  obtain ⟨t, progress⟩ := r
  cases progress with
  | waits stage =>
    cases stage with
    | awaitingSlot | closing => exact ⟨ht, hok⟩
  | done =>
    have hd : Deal t.holdings (t.note (.hostShutdown reason)).holdings := by
      rw [holdings_note]
      exact .tell reason hok
    exact ⟨ht.trans (.aside (.single hd) rfl rfl rfl), trivial⟩

/-- The session is closed once the shelf has stopped. -/
theorem afterStopping_turn (reason : ShutdownReason) {r : Service W × PluginStopProgress}
    (ht : Turn k s r.1) (hok : StopOk k r) :
    Turn k s (afterStopping env k reason r).1 ∧ TeardownOk k (afterStopping env k reason r) := by
  obtain ⟨t, progress⟩ := r
  cases progress with
  | waits stage =>
    cases stage with
    | awaitingShelf | stopping => exact ⟨ht, hok⟩
  | done =>
    obtain ⟨ht', hok'⟩ := enterDisconnect_turn (s := t) (k := k) hok
    exact afterClosing_turn reason (ht.trans ht') hok'

theorem enterTeardown_turn (reason : ShutdownReason) :
    Turn k s (s.enterTeardown env k reason).1 ∧ TeardownOk k (s.enterTeardown env k reason) := by
  unfold enterTeardown
  split
  · exact ⟨.aside .refl rfl rfl rfl, trivial⟩
  · extract_lets started said
    have hs : Turn k s started := Turn.noted (.aside .refl rfl rfl rfl) rfl
    have hs' : Turn k s said := hs.trans (.aside .refl rfl rfl rfl)
    obtain ⟨ht, hok⟩ := enterStop_turn (s := said) (k := k)
    exact afterStopping_turn reason (hs'.trans ht) hok

/-- **A teardown takes a turn at every step.** -/
theorem resumeTeardown_turn {reason : ShutdownReason} {stage : TeardownStage}
    {r : Service W × TeardownProgress} (hs : s.TeardownSound k stage)
    (hr : s.resumeTeardown env k reason stage = some r) : Turn k s r.1 ∧ TeardownOk k r := by
  cases stage with
  | stoppingPlugins stage =>
    obtain ⟨p, hp, rfl⟩ := Option.map_eq_some_iff.mp hr
    obtain ⟨ht, hok⟩ := resumeStop_turn hs hp
    exact afterStopping_turn reason ht hok
  | closingConnection stage =>
    obtain ⟨p, hp, rfl⟩ := Option.map_eq_some_iff.mp hr
    obtain ⟨ht, hok⟩ := resumeDisconnect_turn hs hp
    exact afterClosing_turn reason ht hok

theorem enterShutdown_turn :
    Turn k s (s.enterShutdown env k).1 ∧ TeardownOk k (s.enterShutdown env k) := by
  unfold enterShutdown
  split
  · exact ⟨.refl, trivial⟩
  · obtain ⟨ht, hok⟩ := enterTeardown_turn (k := k) (s := s.signalJobs.1.send .cancel) .requested
    exact ⟨(signalJobs_turn.trans (send_turn _)).trans ht, hok⟩

/-! ## The scheduler in turns -/

/-- What has to be known where the scheduler has come. -/
def SchedulerOk (k : Nat) : Service W × SchedulerProgress → Prop
  | (s, .waits stage) => s.Sound k (.scheduler stage)
  | (_, .done ()) => True

theorem afterTeardown_turn (reason : ShutdownReason) {r : Service W × TeardownProgress}
    (ht : Turn k s r.1) (hok : TeardownOk k r) :
    Turn k s (afterTeardown reason r).1 ∧ SchedulerOk k (afterTeardown reason r) := by
  obtain ⟨t, progress⟩ := r
  cases progress with
  | waits stage => exact ⟨ht, hok⟩
  | done => exact ⟨ht, trivial⟩

/-- To obey a command is no deal. -/
theorem obey_turn (c : SchedulerCommand) :
    Turn k s (s.obey c).1 ∧ SchedulerOk k (s.obey c) := by
  have hn : Turn k s (s.note (.obeyed c)) := .note rfl
  have hsay : Turn k s ((s.note (.obeyed c)).sayCommand c) := by
    cases c with
    | reset =>
      simp only [sayCommand]
      split
      · exact hn.trans (.aside .refl rfl rfl rfl)
      · exact hn.trans (.aside .refl rfl rfl rfl)
    | armEmptyDelay =>
      simp only [sayCommand]
      split
      · exact hn.trans (.aside .refl rfl rfl rfl)
      · exact hn.trans (.aside .refl rfl rfl rfl)
    | cancel => exact hn.trans (.aside .refl rfl rfl rfl)
  refine ⟨hsay.trans (.aside .refl rfl rfl rfl), ?_⟩
  cases c <;> trivial

theorem serviceOver_turn : Turn k s (s.serviceOver env k).1 ∧
    SchedulerOk k (s.serviceOver env k) := by
  unfold serviceOver
  extract_lets noted said
  have hs : Turn k s said := Turn.trans (.note rfl) (.aside .refl rfl rfl rfl)
  have hj : Turn k s said.signalJobs.1 := hs.trans signalJobs_turn
  obtain ⟨ht, hok⟩ := enterTeardown_turn (k := k)
    (s := said.signalJobs.1.schedule (Scheduler.fire .serviceTimeout)) .serviceTimeout
  have hf : Turn k s (said.signalJobs.1.schedule (Scheduler.fire .serviceTimeout)) :=
    hj.trans (.aside .refl rfl rfl rfl)
  exact afterTeardown_turn .serviceTimeout (hf.trans ht) hok

/-- The delay begins the end only of a service whose set it could close. -/
theorem emptyOver_turn : Turn k s (s.emptyOver env k).1 ∧ SchedulerOk k (s.emptyOver env k) := by
  unfold emptyOver
  extract_lets expired
  have ho : Turn k s expired := Turn.trans (.note rfl) (.aside .refl rfl rfl rfl)
  have hc : Turn k s expired.closeIfEmpty.1 := ho.trans (change_turn _)
  split
  · rename_i t he
    rw [he] at hc
    exact ⟨hc.trans (.aside .refl rfl rfl rfl), trivial⟩
  · rename_i t he
    rw [he] at hc
    extract_lets said fired
    have hf : Turn k s fired := hc.trans (.aside .refl rfl rfl rfl)
    obtain ⟨ht, hok⟩ := enterTeardown_turn (k := k) (s := fired) .emptyDelay
    exact afterTeardown_turn .emptyDelay (hf.trans ht) hok

/-- **The scheduler takes a turn at every step.** -/
theorem resumeScheduler_turn {stage : SchedulerStage} {r : Service W × SchedulerProgress}
    (hs : s.Sound k (.scheduler stage)) (hr : s.resumeScheduler env k stage = some r) :
    Turn k s r.1 ∧ SchedulerOk k r := by
  cases schedulerTurn_of_resume hr with
  | @obeys command rest _ =>
    have hrest : Turn k s { s with commands := rest } := .aside .refl rfl rfl rfl
    obtain ⟨ht, hok⟩ := obey_turn (k := k) (s := { s with commands := rest }) command
    exact ⟨hrest.trans ht, hok⟩
  | limit => exact serviceOver_turn
  | delay => exact emptyOver_turn
  | @tearsDown reason _ _ hp =>
    obtain ⟨ht, hok⟩ := resumeTeardown_turn hs hp
    exact afterTeardown_turn reason ht hok

theorem cancelIfUnheld_turn : Turn k s s.cancelIfUnheld := by
  unfold cancelIfUnheld
  split
  · exact send_turn _
  · exact .refl

theorem answered_turn (a : CallAnswer) :
    Turn k (s.finish j) (s.answer j a).cancelIfUnheld :=
  (Turn.note rfl).trans cancelIfUnheld_turn

/-! ## Between turns -/

/-- What is true between any two turns. -/
structure Sane (s : Service W) : Prop where
  ledger : Ledger s.holdings
  numbered : s.scene.Numbered
  /-- Whoever waits can rely on what is known at its stage. -/
  sound : ∀ j a, (j, a) ∈ s.activities → s.Sound j a
  own : ∀ j a, (j, a) ∈ s.activities → isOwn a = true

/-- A service comes from another by deals, and is sane again. -/
structure Follows (s s' : Service W) : Prop where
  sane : Sane s'
  deals : Deals s.holdings s'.holdings

theorem Follows.trans (h : Follows s s') (h' : Follows s' s'') : Follows s s'' :=
  ⟨h'.sane, ReflTransGen.trans h.deals h'.deals⟩

namespace Sane

/-- A turn of an activity disturbs none of the others. -/
theorem others (h : Sane s) (ht : Turn k s s') {j : Nat} {a : Activity} (hj : j ≠ k)
    (ha : (j, a) ∈ s'.activities) : s'.Sound j a ∧ isOwn a = true := by
  rcases ht.joined.mem ha with ha | ha
  · exact ⟨ht.sound hj (h.sound j a ha), h.own j a ha⟩
  · exact ⟨sound_of_isWorker ha, isOwn_of_isWorker ha⟩

/-- An activity comes to wait where what has to be known is known. -/
theorem put (h : Sane s) (ht : Turn k s s') {a : Activity} (ha : s'.Sound k a)
    (hown : isOwn a = true) : Follows s (s'.put k a) := by
  have hall : ∀ j b, (j, b) ∈ (s'.put k a).activities → s'.Sound j b ∧ isOwn b = true := by
    intro j b hb
    rcases mem_put hb with ⟨rfl, rfl⟩ | ⟨hb, hj⟩
    · exact ⟨ha, hown⟩
    · exact h.others ht hj hb
  refine ⟨⟨ht.deals.ledger h.ledger, numbered_put (ht.joined.numbered h.numbered), ?_, ?_⟩,
    ht.deals⟩
  · exact fun j b hb => (hall j b hb).1.congr rfl rfl
  · exact fun j b hb => (hall j b hb).2

/-- An activity comes to its end. -/
theorem finish (h : Sane s) (ht : Turn k s s') : Follows s (s'.finish k) := by
  have hall : ∀ j b, (j, b) ∈ (s'.finish k).activities → s'.Sound j b ∧ isOwn b = true := by
    intro j b hb
    obtain ⟨hb, hj⟩ := mem_finish.mp hb
    exact h.others ht hj hb
  refine ⟨⟨ht.deals.ledger h.ledger, numbered_finish (ht.joined.numbered h.numbered), ?_, ?_⟩,
    ht.deals⟩
  · exact fun j b hb => (hall j b hb).1.congr rfl rfl
  · exact fun j b hb => (hall j b hb).2

/-- Nobody in particular moves. -/
theorem quiet (h : Sane s) (ht : ∀ j, Turn j s s') : Follows s s' where
  deals := (ht 0).deals
  sane := {
    ledger := (ht 0).deals.ledger h.ledger
    numbered := (ht 0).joined.numbered h.numbered
    -- for each activity it is the turn of another one
    sound := fun j _ ha => (h.others (ht (j + 1)) (by omega) ha).1
    own := fun j _ ha => (h.others (ht (j + 1)) (by omega) ha).2 }

/-- Nobody moves, and nothing is dealt. -/
theorem congr (h : Sane s) (hholdings : s'.holdings = s.holdings) (hhub : s'.hub = s.hub)
    (hshelf : s'.shelf = s.shelf) (ha : s'.activities = s.activities) (hb : s'.begun = s.begun) :
    Follows s s' where
  deals := hholdings ▸ .refl
  sane := {
    ledger := hholdings ▸ h.ledger
    numbered := by
      have hn := h.numbered
      unfold Scene.Numbered scene at hn ⊢
      rw [ha, hb]
      exact hn
    sound := fun j a hja => (h.sound j a (ha ▸ hja)).congr hhub hshelf
    own := ha ▸ h.own }

/-- The host calls. -/
theorem call (h : Sane s) {a : Activity} (ha : IsCall a) : Follows s (s.begin a) := by
  have hall : ∀ j b, (j, b) ∈ (s.begin a).activities → s.Sound j b ∧ isOwn b = true := by
    intro j b hb
    rcases mem_begin.mp hb with hb | ⟨_, rfl⟩
    · exact ⟨h.sound j b hb, h.own j b hb⟩
    · cases ha with
      | trigger | shutdown => exact ⟨trivial, rfl⟩
  refine ⟨⟨h.ledger, h.numbered.add a, ?_, ?_⟩, .refl⟩
  · exact fun j b hb => (hall j b hb).1.congr rfl rfl
  · exact fun j b hb => (hall j b hb).2

/-- A call of the host is answered. -/
theorem answered (h : Sane s) (ht : Turn k s s') (a : CallAnswer) :
    Follows s (s'.answer k a).cancelIfUnheld := by
  have hf := h.finish ht
  exact hf.trans (hf.sane.quiet fun _ => answered_turn a)

theorem shutdown (h : Sane s) {r : Service W × TeardownProgress} (ht : Turn k s r.1)
    (hok : TeardownOk k r) : Follows s (follow k (fun stage => .shutdown (some stage))
      (fun s _ => (s.answer k .shutDown).cancelIfUnheld) r) := by
  obtain ⟨t, progress⟩ := r
  cases progress with
  | waits stage => exact h.put ht hok rfl
  | done => exact h.answered ht _

/-- A body waits on with nothing to be known of it, or is over. -/
theorem body (h : Sane s) {id : Identity} {completer : Nat} {connection : Connection}
    {r : Service W × BodyProgress} (ht : Turn k s r.1) : Follows s
      (follow k (.body id completer connection) (fun s result => s.endBody k id result) r) := by
  obtain ⟨stage, -, he⟩ | ⟨result, log, -, he⟩ := followBody_eq k id completer connection r
  · rw [he]
    exact h.put ht trivial rfl
  · rw [he]
    exact h.finish (ht.trans (.aside .refl rfl rfl rfl))

/-- **Every step of a sane service is made of deals, and leaves it sane.** -/
theorem ownStep (h : Sane s) (hs : OwnStep env s k s') : Follows s s' := by
  cases hs with
  | @scheduler stage r hmem hr =>
    obtain ⟨ht, hok⟩ := resumeScheduler_turn (h.sound _ _ hmem) hr
    obtain ⟨t, progress⟩ := r
    cases progress with
    | waits stage => exact h.put ht hok rfl
    | done =>
      have hf := h.finish ht
      exact hf.trans (hf.sane.congr rfl rfl rfl rfl rfl)
  | @trigger m stage r hmem hr =>
    obtain ⟨ht, hok⟩ := resumeTrigger_turn h.ledger (h.sound _ _ hmem) hr
    obtain ⟨t, progress⟩ := r
    cases progress with
    | waits stage => exact h.put ht hok rfl
    | done result => exact h.answered ht _
  | enterShutdown hmem => exact h.shutdown enterShutdown_turn.1 enterShutdown_turn.2
  | shutdown hmem hr =>
    obtain ⟨ht, hok⟩ := resumeTeardown_turn (h.sound _ _ hmem) hr
    exact h.shutdown ht hok
  | freshBody hmem => exact h.body (freshBody_turn _ _ _)
  | body hmem hr => exact h.body (workStable_turn.resumeBody hr .refl)
  | reaper hmem hc => exact h.finish (removeJob_turn _ _)
  | settlement hmem hdue => exact h.finish (workStable_turn.settleLater _ _ .refl)

/-- **Every move keeps what is known**, and the record only grows. -/
theorem move (h : Sane s) (hm : Move env s s') : Follows s s' := by
  cases hm with
  | act hs => exact h.ownStep (ownStep_of_step h.own hs)
  | call ha _ => exact h.call ha
  | report session e => exact h.quiet fun _ => workStable_turn.emit session e .refl
  | wait t => exact h.congr rfl rfl rfl rfl rfl
  | release =>
    have hr : Follows s { s with released := true } := h.congr rfl rfl rfl rfl rfl
    exact hr.trans (hr.sane.quiet fun _ => cancelIfUnheld_turn)
  | rouse wakes => exact h.congr rfl rfl rfl rfl rfl

theorem later (h : Sane s) (hl : Later env s s') : Follows s s' := by
  induction hl with
  | refl => exact ⟨h, .refl⟩
  | move _ hm ih => exact ih.trans (ih.sane.move hm)

end Sane

/-- **What is known holds at every point of every run.** -/
theorem sane_reachable (h : Reachable env s) : Sane s := by
  induction h with
  | start hs =>
    obtain ⟨message, rfl⟩ := start_eq hs
    refine ⟨.nil, ⟨List.pairwise_singleton _ _, ?_⟩, ?_, ?_⟩
    · rintro j a (_ | ⟨_, ⟨⟩⟩)
      exact Nat.zero_lt_one
    · rintro j a (_ | ⟨_, ⟨⟩⟩)
      trivial
    · rintro j a (_ | ⟨_, ⟨⟩⟩)
      rfl
  | move _ hm ih => exact (ih.move hm).sane

end PushWake.Service
