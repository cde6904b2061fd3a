import PushWake.Proofs.Runs
import PushWake.Proofs.SessionStable
import PushWake.Proofs.SetOperations
import PushWake.Proofs.WorkStable

/-!
# What whole steps leave alone

The dealings with sessions and plugins, and the commands to the scheduler make up nearly all of
every step that no job takes. A property is kept by `Errand`s if these keep it: then a trigger keeps
it from one stage to the next, and only a trigger that gets its job has to be looked at. It is
`Steady` if it is kept too by what a service does when it ends, and by then teardowns and shutdowns
keep it. What the scheduler does to its own commands and deadlines is kept apart, in `DeskStable`,
and so is the work of the jobs, in `WorkStable`.
-/

namespace PushWake

/-- Whether something is what the scheduler notes of its own. -/
def Occurrence.isClockwork : Occurrence → Bool
  | .obeyed _ => true
  | .expired _ => true
  | _ => false

namespace Service

variable {W : Type} {env : Collaborators W} {s : Service W} {k : Nat}

/-- A property that is kept by what is done for triggers and jobs, but for their coming and
going. -/
structure Errand (P : Service W → Prop) : Prop where
  /-- What nobody else reads. -/
  quiet : ∀ {s : Service W} (world : W) (log : List (Nat × LogLine)) (wakes : List Nat)
    (dispatched : Nat), P s → P { s with world, log, wakes, dispatched }
  session : SessionStable P
  send : ∀ {s : Service W} (c : SchedulerCommand), P s → P (s.send c)
  /-- A member of the set moves on. -/
  set : ∀ {s : Service W} (jobs : JobSet), jobs.ids = s.jobs.ids →
    jobs.closed = s.jobs.closed → P s → P { s with jobs }
  /-- A job is prepared and then refused, and its completer goes away again. -/
  refuse : ∀ {s : Service W} (trigger : Trigger) (message : String), P s →
    P (((s.prepared (.ofTrigger trigger)).say "registry" .debug message).dropCompleter
      s.completers.length)

/-- A property that work keeps is kept where a job is refused, if it is when the job is prepared. -/
theorem WorkStable.refuse {P : Service W → Prop} (hP : WorkStable P) {trigger : Trigger}
    (message : String) (h : P (s.prepared (.ofTrigger trigger))) :
    P (((s.prepared (.ofTrigger trigger)).say "registry" .debug message).dropCompleter
      s.completers.length) :=
  hP.dropCompleter _ (hP.say _ _ _ h)

/-- A property that is kept by everything but the coming and going of jobs. -/
structure Steady (P : Service W → Prop) : Prop extends Errand P where
  hub : ∀ {s : Service W} (hub : ConnectionHub), P s → P { s with hub }
  shelf : ∀ {s : Service W} (shelf : PluginShelf), P s → P { s with shelf }
  /-- A member of the set is told that the service ends. -/
  signal : ∀ {s : Service W} (id : Identity), id ∈ s.jobs.ids → P s → P (s.signalJob id)
  close : ∀ {s : Service W}, P s → P { s with jobs := { s.jobs with closed := true } }
  /-- The service begins to end, for any reason but that there is nothing to do. -/
  start : ∀ {s : Service W} {reason : ShutdownReason}, reason ≠ .emptyDelay → P s →
    P ({ s with ending := true }.note (.teardownStarted reason))
  tell : ∀ {s : Service W} (reason : ShutdownReason), P s →
    P { s.note (.hostShutdown reason) with terminated := some reason }

/-- A property that the scheduler's own changes keep. -/
structure DeskStable (P : Service W → Prop) : Prop where
  desk : ∀ {s : Service W} (commands : List SchedulerCommand) (scheduler : Scheduler),
    P s → P { s with commands, scheduler }
  note : ∀ {s : Service W} {o : Occurrence}, o.isClockwork = true → P s → P (s.note o)
  /-- The service begins to end because there is nothing to do. -/
  start : ∀ {s : Service W}, P s →
    P ({ s with ending := true }.note (.teardownStarted .emptyDelay))

/-- A service with a member out of the set, of which the scheduler has not been told. -/
def without (s : Service W) (id : Identity) (o : JobOutcome) (left : List JobEntry)
    (log : List (Nat × LogLine)) : Service W :=
  { s.note (.jobRemoved id o) with log, jobs := { s.jobs with entries := left } }

/-- That a job has gone is one entry of the record. -/
theorem record_without (id : Identity) (o : JobOutcome) (left : List JobEntry)
    (log : List (Nat × LogLine)) :
    (s.without id o left log).record = s.record ++ [.jobRemoved id o] :=
  record_note _

/-- Where a trigger has come: nothing has entered the set, or its job has. -/
def TriggerIn (P : Service W → Prop) (Q : Identity → Service W → Prop) :
    Service W × TriggerProgress → Prop
  | (s, .waits _) => P s
  | (s, .done (.error _)) => P s
  | (s, .done (.ok id)) => Q id s

/-- What a removal comes to once the member is out is at most a command. -/
theorem removeJob_of_without {id : Identity} {e : JobEntry} (h : s.jobs.find? id = some e)
    (o : JobOutcome) : ∃ left log, left.map JobEntry.id = s.jobs.ids.erase id ∧
      ∀ {P : Service W → Prop}, Errand P → P (s.without id o left log) →
      P (s.removeJob id o).1 := by
  obtain ⟨left, log, hleft, he⟩ := s.removeJob_of_find h o
  refine ⟨left, log, hleft, fun hP hout => ?_⟩
  rw [he]
  unfold Service.change
  split
  · exact hP.send _ hout
  · exact hout

namespace Errand

variable {P : Service W → Prop} {Q : Identity → Service W → Prop} (hP : Errand P)
include hP

theorem say {tag : String} {level : LogLevel} {message : String} (h : P s) :
    P (s.say tag level message) :=
  hP.quiet _ _ _ _ h

/-- A change that leaves the members as they are may send a command. -/
theorem change {c : JobSet.Change} (hids : c.set.ids = s.jobs.ids)
    (hclosed : c.set.closed = s.jobs.closed) (h : P s) : P (s.change c) := by
  unfold Service.change
  extract_lets t
  have ht : P t := hP.set c.set hids hclosed h
  split
  · exact hP.send _ ht
  · exact ht

/-- Whoever goes without a job asks for the delay if there is no other job. -/
theorem armIfEmpty (h : P s) : P s.armIfEmpty.1 := by
  have hset : s.jobs.armIfEmpty.set = s.jobs := by
    unfold JobSet.armIfEmpty
    split <;> rfl
  exact hP.change (by rw [hset]) (by rw [hset]) h

theorem markRunning (id : Identity) (h : P s) : P (s.markRunning id).1 := by
  obtain ⟨entries, hids, hset, -⟩ := s.jobs.markRunning_eq id
  exact hP.change (by rw [hset]; exact hids) (by rw [hset]) h

/-! ## Triggers -/

/-- A trigger that is dropped leaves a line in the log. -/
theorem dropTrigger (message : String) (h : P s) : TriggerIn P Q (s.dropTrigger message) :=
  hP.say h

variable (hQ : ∀ {s : Service W} (trigger : Trigger) (connection : Connection),
  P s → s.jobs.closed = false → Q ⟨s.drawn⟩ (s.beginJob trigger connection).1)
include hQ

/-- Only an open set gives a trigger its job; a closed one has it dropped. -/
theorem beginJob (trigger : Trigger) (connection : Connection) (h : P s) :
    TriggerIn P Q (s.beginJob trigger connection) := by
  -- a closed set refuses the job, and what was prepared for it goes away again
  rcases Bool.eq_false_or_eq_true s.jobs.closed with hclosed | hopen
  · obtain ⟨refused, dropped, he⟩ := s.beginJob_of_closed hclosed trigger connection
    rw [he]
    exact hP.say (hP.refuse trigger refused h)
  · obtain ⟨wakes, log, he⟩ := s.beginJob_of_open hopen trigger connection
    have hq : Q ⟨s.drawn⟩ (s.beginJob trigger connection).1 := hQ trigger connection h hopen
    rw [he] at hq ⊢
    exact hq

/-- A trigger gets its job whether its plugins have started or not, unless the service is
ending by then. -/
theorem afterPlugins (trigger : Trigger) (connection : Connection)
    {r : Service W × PluginStartProgress} (h : P r.1) :
    TriggerIn P Q (afterPlugins trigger connection r) := by
  obtain ⟨t, progress⟩ := r
  cases progress with
  | waits stage => exact h
  | done running =>
    simp only [Service.afterPlugins]
    split
    · exact hP.dropTrigger _ h
    · exact hP.beginJob hQ trigger connection h

/-- A trigger with a connection starts the plugins; one without is turned away. -/
theorem afterConnect (trigger : Trigger) {r : Service W × ConnectProgress} (h : P r.1) :
    TriggerIn P Q (afterConnect env k trigger r) := by
  obtain ⟨t, progress⟩ := r
  cases progress with
  | waits stage => exact h
  | done result =>
    cases result with
    | error e =>
      have harm : P (t.say "service" .error
          ("Cannot run " ++ trigger.kind.name ++ " job: " ++ e.message)).armIfEmpty.1 :=
        hP.armIfEmpty (hP.say h)
      cases e with
      | closed => exact hP.dropTrigger _ h
      | credentials | missingCredentials | sdk | listener => exact harm
    | ok connection =>
      simp only [Service.afterConnect]
      split
      · exact hP.dropTrigger _ h
      · exact hP.afterPlugins hQ trigger connection
          (hP.session.enterStartAll k connection t.config.plugins h)

/-- A trigger that gets past its check begins with a command to the scheduler. -/
theorem acceptTrigger (halive : s.ending = false) (m : TriggerMessage) (h : P (s.send .reset)) :
    TriggerIn P Q (s.enterTrigger env k m) := by
  simp only [enterTrigger, halive, Bool.false_eq_true, if_false]
  split
  · exact hP.armIfEmpty (hP.say h)
  · rename_i trigger _
    exact hP.afterConnect hQ trigger (hP.session.enterConnect k _ (hP.say h))

theorem enterTrigger (m : TriggerMessage) (h : P s) : TriggerIn P Q (s.enterTrigger env k m) := by
  cases halive : s.ending with
  | true =>
    simp only [Service.enterTrigger, halive, if_true]
    exact hP.dropTrigger _ h
  | false => exact hP.acceptTrigger hQ halive m (hP.send _ h)

/-- **A trigger, step by step.** It waits on with the property, or comes to its end with it. -/
theorem resumeTrigger {m : TriggerMessage} {stage : TriggerStage} {r : Service W × TriggerProgress}
    (hr : s.resumeTrigger env k m stage = some r) (h : P s) : TriggerIn P Q r := by
  cases stage with
  | arriving =>
    cases hr
    exact hP.enterTrigger hQ m h
  | connecting trigger stage =>
    obtain ⟨c, hc, rfl⟩ := Option.map_eq_some_iff.mp hr
    exact hP.afterConnect hQ trigger (hP.session.resumeConnect hc h)
  | startingPlugins trigger connection stage =>
    obtain ⟨p, hp, rfl⟩ := Option.map_eq_some_iff.mp hr
    exact hP.afterPlugins hQ trigger connection (hP.session.resumeStart hp h)

end Errand

namespace Steady

variable {P : Service W → Prop} (hP : Steady P)
include hP

/-! ## Teardowns -/

theorem signalJobs (h : P s) : P s.signalJobs.1 :=
  signalJobs_of_signal (fun _ _ _ h => hP.say h) hP.signal (fun _ => h) fun _ => hP.close h

/-- The last thing a teardown does is to tell the host. -/
theorem endTeardown (reason : ShutdownReason) (h : P s) : P (s.endTeardown reason).1 :=
  hP.say (hP.tell reason h)

theorem afterClosing (reason : ShutdownReason) {r : Service W × DisconnectProgress} (h : P r.1) :
    P (afterClosing reason r).1 := by
  obtain ⟨t, progress⟩ := r
  cases progress with
  | waits stage => exact h
  | done => exact hP.endTeardown reason h

theorem afterStopping (reason : ShutdownReason) {r : Service W × PluginStopProgress} (h : P r.1) :
    P (afterStopping env k reason r).1 := by
  obtain ⟨t, progress⟩ := r
  cases progress with
  | waits stage => exact h
  | done => exact hP.afterClosing reason (hP.session.enterDisconnect h fun h => hP.hub _ h)

/-- Whoever ends the service does so unless that has begun already. -/
theorem enterTeardown {reason : ShutdownReason} (h : s.ending = true → P s)
    (hstart : s.ending = false → P ({ s with ending := true }.note (.teardownStarted reason))) :
    P (s.enterTeardown env k reason).1 := by
  unfold Service.enterTeardown
  split
  · rename_i hending
    exact hP.say (h hending)
  · rename_i halive
    have hs := hstart (Bool.eq_false_iff.mpr halive)
    exact hP.afterStopping reason (hP.session.enterStop k (hP.say hs) fun h => hP.shelf _ h)

/-- **A teardown, step by step.** -/
theorem resumeTeardown {reason : ShutdownReason} {stage : TeardownStage}
    {r : Service W × TeardownProgress} (hr : s.resumeTeardown env k reason stage = some r)
    (h : P s) : P r.1 := by
  cases stage with
  | stoppingPlugins stage =>
    obtain ⟨p, hp, rfl⟩ := Option.map_eq_some_iff.mp hr
    exact hP.afterStopping reason (hP.session.resumeStop hp h fun h => hP.shelf _ h)
  | closingConnection stage =>
    obtain ⟨p, hp, rfl⟩ := Option.map_eq_some_iff.mp hr
    exact hP.afterClosing reason (hP.session.resumeDisconnect hp h fun h => hP.hub _ h)

/-- A host that asks for the end has the jobs told and the scheduler cancelled first. -/
theorem enterShutdown (h : P s) : P (s.enterShutdown env k).1 := by
  unfold Service.enterShutdown
  split
  · exact h
  · have hsent : P (s.signalJobs.1.send .cancel) := hP.send _ (hP.signalJobs h)
    exact hP.enterTeardown (fun _ => hsent) fun _ => hP.start (by decide) hsent

/-! ## The scheduler -/

omit hP in
theorem afterTeardown_fst (reason : ShutdownReason) (r : Service W × TeardownProgress) :
    (afterTeardown reason r).1 = r.1 := by
  obtain ⟨t, progress⟩ := r
  cases progress <;> rfl

/-- A set that is empty closes, and one that is not stays as it is. -/
theorem closeIfEmpty (h : P s) : P s.closeIfEmpty.1 := by
  unfold Service.closeIfEmpty JobSet.closeIfEmpty
  extract_lets c
  simp only [c]
  split
  · exact h
  · exact hP.close h

variable (hD : DeskStable P)
include hD

/-- What the scheduler makes of a command stays on its desk. -/
theorem obey (c : SchedulerCommand) (h : P s) : P (s.obey c).1 := by
  obtain ⟨log, he⟩ := s.obey_eq c
  have hdesk : P { s.note (.obeyed c) with
      scheduler := s.scheduler.obey s.config.timeouts s.now c } :=
    hD.desk s.commands _ (hD.note rfl h)
  rw [he]
  exact hP.quiet s.world log s.wakes s.dispatched hdesk

/-- The hard limit has the jobs told before the service goes down. -/
theorem serviceOver (h : P s) : P (s.serviceOver env k).1 := by
  unfold Service.serviceOver
  extract_lets noted said
  have hs : P said := hP.say (hD.note rfl h)
  have hf : P (said.signalJobs.1.schedule (Scheduler.fire .serviceTimeout)) :=
    hD.desk said.signalJobs.1.commands _ (hP.signalJobs hs)
  rw [afterTeardown_fst]
  exact hP.enterTeardown (fun _ => hf) fun _ => hP.start (by decide) hf

/-- The delay closes an empty set, or has been overtaken by a job. -/
theorem emptyOver (h : P s) : P (s.emptyOver env k).1 := by
  unfold Service.emptyOver
  extract_lets expired
  have hn : P (s.note (.expired .empty)) := hD.note rfl h
  have ho : P expired := hD.desk s.commands _ hn
  have hc : P expired.closeIfEmpty.1 := hP.closeIfEmpty ho
  split
  · rename_i t he
    rw [he] at hc
    exact hD.desk t.commands _ (hP.say hc)
  · rename_i t he
    rw [he] at hc
    extract_lets said fired
    have hf : P fired := hD.desk said.commands _ (hP.say hc)
    rw [afterTeardown_fst]
    exact hP.enterTeardown (fun _ => hf) fun _ => hD.start hf

/-- **The scheduler, step by step.** -/
theorem resumeScheduler {stage : SchedulerStage} {r : Service W × SchedulerProgress}
    (hr : s.resumeScheduler env k stage = some r) (h : P s) : P r.1 := by
  cases schedulerTurn_of_resume hr with
  | @obeys command rest _ => exact hP.obey hD command (hD.desk rest s.scheduler h)
  | limit => exact hP.serviceOver hD h
  | delay => exact hP.emptyOver hD h
  | tearsDown hp =>
    rw [afterTeardown_fst]
    exact hP.resumeTeardown hp h

end Steady

end Service

end PushWake
