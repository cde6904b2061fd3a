import PushWake.Proofs.ForeseenDeadlines
import PushWake.Proofs.RunInvariant
import PushWake.Proofs.StepStable

/-!
# Every operation keeps the deadlines in step with the jobs

While the set of jobs is open, a job calls the delay off, and the hard limit runs from the first
trigger on. That the delay runs while there is no job is more delicate: a trigger under way has
called it off and starts it again only when it ends without a job. So what is owed depends on
whether a trigger is under way. `Timed` carries that as a parameter: with a trigger at work the
delay may be off, and a trigger that comes to its end has paid its debt.
-/

namespace PushWake.Service

variable {W : Type} {env : Collaborators W} {s s' : Service W} {k : Nat} {busy busy' ended : Prop}

/-- A trigger takes its first step and gets past the check that it begins with. -/
structure Passed (env : Collaborators W) (s : Service W) (k : Nat) (m : TriggerMessage)
    (s' : Service W) : Prop where
  arrived : (k, .trigger m .arriving) ∈ s.activities
  alive : s.ending = false
  step : s.step env k = some s'

/-- Whether the hard limit has ever started, as it does with every trigger that gets
past its check. -/
def Accepted (s : Service W) : Prop := .command .reset ∈ s.record

/-- Whether a trigger has got past its check and has no answer yet. -/
def isUnderWay : Activity → Bool
  | .trigger _ .arriving => false
  | .trigger _ _ => true
  | _ => false

/-- The deadlines of an open service follow its jobs; with a trigger at work the delay
may be off. -/
structure Timed (busy : Prop) (s : Service W) : Prop where
  inboxOpen : s.inboxOpen = true
  noCancel : .cancel ∉ s.commands
  withJobs : s.jobs.entries ≠ [] → s.outlook = ⟨true, false⟩
  service : s.Accepted → s.outlook.service = true
  empty : s.jobs.entries = [] → s.Accepted → ¬busy → s.outlook.empty = true

/-- What every operation keeps: a hub closes and a service ends only after the set of jobs has
closed, and until then the deadlines follow the jobs. -/
structure Fit (busy ended : Prop) (s : Service W) : Prop where
  ending_of_closed : s.hub.closed = true → s.ending = true
  closed_of_ending : s.ending = true → s.jobs.closed = true
  timed : s.jobs.closed = false → Timed busy s
  still : ended → s.ending = true

/-- The service has begun to end, and takes no more jobs. -/
structure Ended (s : Service W) : Prop where
  ending : s.ending = true
  closed : s.jobs.closed = true

/-- A service has accepted no more than it had, if what happens is not a command to reset. -/
theorem accepted_note {o : Occurrence} (ho : o ≠ .command .reset) (h : (s.note o).Accepted) :
    s.Accepted := by
  rw [Accepted, record_note, List.mem_append] at h
  rcases h with h | h
  · exact h
  · exact absurd (List.mem_singleton.mp h).symm ho

theorem Accepted.deals (h : s.Accepted) (hd : Deals s.holdings s'.holdings) : s'.Accepted :=
  hd.grows.mem h

/-- What the first step of a trigger comes to. -/
theorem passed_eq (h : Sane s) {m : TriggerMessage} (hp : Passed env s k m s') :
    s' = follow k (.trigger m)
      (fun s result => (s.answer k (.trigger result)).cancelIfUnheld) (s.enterTrigger env k m) := by
  obtain ⟨a, ha, hact⟩ := Option.bind_eq_some_iff.mp hp.step
  obtain rfl : a = .trigger m .arriving :=
    h.numbered.unique (mem_of_activity? ha) hp.arrived
  exact (Option.some.inj hact).symm

/-- A trigger that has passed was accepted on its way. -/
theorem accepted_of_passed (h : Sane s) {m : TriggerMessage} (hp : Passed env s k m s') :
    s'.Accepted := by
  have hreset : (s.send .reset).Accepted := by
    rw [Accepted, record_send]
    simp
  have ha : (s.enterTrigger env k m).1.Accepted :=
    hreset.deals (acceptTrigger_turn m hp.alive).1.deals
  rw [passed_eq h hp]
  generalize s.enterTrigger env k m = r at ha ⊢
  obtain ⟨t, progress⟩ := r
  cases progress with
  | waits stage => exact ha
  | done result =>
    have hf : (t.finish k).Accepted := ha
    exact hf.deals (answered_turn (k := k) _).deals

theorem Timed.loosen (h : Timed busy s) (hb : busy → busy') : Timed busy' s where
  inboxOpen := h.inboxOpen
  noCancel := h.noCancel
  withJobs := h.withJobs
  service := h.service
  empty he ha hnot := h.empty he ha fun hb' => hnot (hb hb')

namespace Fit

theorem loosen (h : Fit busy ended s) (hb : busy → busy') : Fit busy' ended s :=
  ⟨h.ending_of_closed, h.closed_of_ending, fun hopen => (h.timed hopen).loosen hb, h.still⟩

/-- What has been kept so far can be the start of what is kept from here on. -/
theorem renew (h : Fit busy ended s) : Fit busy (s.ending = true) s :=
  ⟨h.ending_of_closed, h.closed_of_ending, h.timed, id⟩

/-- Once the set is closed nothing is owed. -/
theorem of_closed (h : Fit busy ended s) (hc : s.jobs.closed = true) : Fit busy' ended s where
  ending_of_closed := h.ending_of_closed
  closed_of_ending := h.closed_of_ending
  timed hopen := by
    rw [hc] at hopen
    cases hopen
  still := h.still

/-- What is nothing to the jobs, the commands and the deadlines changes nothing. -/
theorem congr (h : Fit busy ended s) (hhub : s'.hub.closed = s.hub.closed)
    (hending : s'.ending = s.ending) (hjobs : s'.jobs = s.jobs)
    (hinbox : s'.inboxOpen = s.inboxOpen) (hcommands : s'.commands = s.commands)
    (hscheduler : s'.scheduler = s.scheduler) (haccepted : s'.Accepted → s.Accepted) :
    Fit busy ended s' := by
  have houtlook : s'.outlook = s.outlook := by rw [outlook, outlook, hcommands, hscheduler]
  refine ⟨?_, ?_, fun hopen => ?_, fun he => hending ▸ h.still he⟩
  · rw [hhub, hending]
    exact h.ending_of_closed
  · rw [hending, hjobs]
    exact h.closed_of_ending
  · obtain ⟨hi, hn, hw, hs, he⟩ := h.timed (hjobs ▸ hopen)
    constructor
    · rw [hinbox, hi]
    · rw [hcommands]
      exact hn
    · rw [hjobs, houtlook]
      exact hw
    · rw [houtlook]
      exact fun ha => hs (haccepted ha)
    · rw [hjobs, houtlook]
      exact fun hj ha => he hj (haccepted ha)

theorem note {o : Occurrence} (h : Fit busy ended s) (ho : o ≠ .command .reset) :
    Fit busy ended (s.note o) :=
  h.congr rfl rfl rfl rfl rfl rfl (accepted_note ho)

theorem quiet (h : Fit busy ended s) (hhub : s'.hub.closed = s.hub.closed)
    (hending : s'.ending = s.ending) (hjobs : s'.jobs = s.jobs)
    (hinbox : s'.inboxOpen = s.inboxOpen) (hcommands : s'.commands = s.commands)
    (hscheduler : s'.scheduler = s.scheduler) (hhistory : s'.history = s.history) :
    Fit busy ended s' :=
  h.congr hhub hending hjobs hinbox hcommands hscheduler
    (by rw [Accepted, record, hhistory]; exact id)

theorem say {tag : String} {level : LogLevel} {message : String} (h : Fit busy ended s) :
    Fit busy ended (s.say tag level message) :=
  h.quiet rfl rfl rfl rfl rfl rfl rfl

end Fit

theorem workBlind_fit : WorkBlind (W := W) (Fit busy ended) where
  quiet _ _ _ _ _ h := h.quiet rfl rfl rfl rfl rfl rfl rfl
  use _ _ h := Fit.note (h.quiet rfl rfl rfl rfl rfl rfl rfl) nofun
  note {_ o} ho h := h.note (by rintro rfl; cases ho)
  settlement _ _ _ h := h.quiet rfl rfl rfl rfl rfl rfl rfl

/-- The work of jobs changes neither the set nor the deadlines. -/
theorem workStable_fit : WorkStable (W := W) (Fit busy ended) := workBlind_fit.stable

/-- Nor do sessions and plugins. -/
theorem sessionStable_fit : SessionStable (W := W) (Fit busy ended) where
  quiet _ _ _ _ _ _ _ h := h.quiet rfl rfl rfl rfl rfl rfl rfl
  draw h := h.quiet rfl rfl rfl rfl rfl rfl rfl
  hub _ hc h := h.quiet hc rfl rfl rfl rfl rfl rfl
  note {_ o} ho h := h.note (by rintro rfl; cases ho)

theorem workBlind_ended : WorkBlind (W := W) Ended where
  quiet _ _ _ _ _ h := ⟨h.ending, h.closed⟩
  use _ _ h := ⟨h.ending, h.closed⟩
  note _ h := ⟨h.ending, h.closed⟩
  settlement _ _ _ h := ⟨h.ending, h.closed⟩

theorem sessionStable_ended : SessionStable (W := W) Ended where
  quiet _ _ _ _ _ _ _ h := ⟨h.ending, h.closed⟩
  draw h := ⟨h.ending, h.closed⟩
  hub _ _ h := ⟨h.ending, h.closed⟩
  note _ h := ⟨h.ending, h.closed⟩

/-- Once the end has begun it stays begun, whoever moves. -/
theorem steady_ended : Steady (W := W) Ended where
  quiet := workBlind_ended.stable.quiet
  session := sessionStable_ended
  hub _ h := ⟨h.ending, h.closed⟩
  send c h := ⟨by rw [send_ending, h.ending], by rw [send_jobs, h.closed]⟩
  shelf _ h := ⟨h.ending, h.closed⟩
  signal id _ h := workBlind_ended.signal id h
  close h := ⟨h.ending, rfl⟩
  set _ _ hclosed h := ⟨h.ending, hclosed.trans h.closed⟩
  refuse _ message h := workBlind_ended.stable.refuse message ⟨h.ending, h.closed⟩
  start _ h := ⟨rfl, h.closed⟩
  tell _ h := ⟨h.ending, h.closed⟩

/-- A service that ends has no deadlines to keep. -/
theorem Ended.fit (h : Ended s) : Fit busy ended s where
  ending_of_closed _ := h.ending
  closed_of_ending _ := h.closed
  timed hopen := by
    rw [h.closed] at hopen
    cases hopen
  still _ := h.ending

/-! ## Commands -/

namespace Fit

/-- A command that is sent. What has to be shown is about the outlook. -/
theorem send (h : Fit busy ended s) {c : SchedulerCommand}
    (hc : s.jobs.closed = false → c ≠ .cancel)
    (hwith : s.jobs.closed = false → s.jobs.entries ≠ [] → c.mark s.outlook = ⟨true, false⟩)
    (hservice : s.jobs.closed = false → (s.send c).Accepted → (c.mark s.outlook).service = true)
    (hempty : s.jobs.closed = false → s.jobs.entries = [] → (s.send c).Accepted → ¬busy' →
      (c.mark s.outlook).empty = true) : Fit busy' ended (s.send c) where
  ending_of_closed := by
    rw [send_hub, send_ending]
    exact h.ending_of_closed
  closed_of_ending := by
    rw [send_jobs, send_ending]
    exact h.closed_of_ending
  still := by
    rw [send_ending]
    exact h.still
  timed hopen := by
    rw [send_jobs] at hopen
    have ht := h.timed hopen
    constructor
    · rw [send_inboxOpen, ht.inboxOpen]
    · rw [send_commands c ht.inboxOpen, List.mem_append, List.mem_singleton]
      rintro (hn | hn)
      · exact ht.noCancel hn
      · exact hc hopen hn.symm
    · rw [send_jobs, outlook_send c ht.inboxOpen]
      exact hwith hopen
    · rw [outlook_send c ht.inboxOpen]
      exact hservice hopen
    · rw [send_jobs, outlook_send c ht.inboxOpen]
      exact hempty hopen

/-- New work calls the delay off. -/
theorem reset (h : Fit busy ended s) (hb : s.jobs.entries = [] → busy') :
    Fit busy' ended (s.send .reset) :=
  h.send (fun _ => nofun) (fun _ _ => rfl) (fun _ _ => rfl) fun _ hj _ hnot => absurd (hb hj) hnot

/-- With no job there is nothing against the delay. -/
theorem arm (h : Fit busy ended s) (hj : s.jobs.entries = []) :
    Fit busy' ended (s.send .armEmptyDelay) := by
  have haccepted : (s.send .armEmptyDelay).Accepted → s.Accepted := by
    obtain ⟨_, _, he⟩ := s.send_eq .armEmptyDelay
    rw [he]
    exact accepted_note (o := .command .armEmptyDelay) nofun
  refine h.send (fun _ => nofun) (fun _ hne => absurd hj hne) ?_ ?_
  · exact fun hopen ha => (h.timed hopen).service (haccepted ha)
  · intro hopen _ ha _
    have hs := (h.timed hopen).service (haccepted ha)
    simp [SchedulerCommand.mark, hs]

end Fit

/-! ## The set -/

/-- A change of the members that leaves the set as empty or as full as it was. -/
theorem Fit.members (h : Fit busy ended s) {entries : List JobEntry}
    (he : entries = [] ↔ s.jobs.entries = []) :
    Fit busy ended { s with jobs := { s.jobs with entries } } where
  ending_of_closed := h.ending_of_closed
  closed_of_ending := h.closed_of_ending
  still := h.still
  timed hopen := by
    obtain ⟨hi, hn, hw, hs, hm⟩ := h.timed hopen
    exact ⟨hi, hn, fun hne => hw fun hj => hne (he.mpr hj), hs, fun hj => hm (he.mp hj)⟩

/-- A job that starts to run was there before. -/
theorem markRunning_fit (h : Fit busy ended s) (id : Identity) :
    Fit busy ended (s.markRunning id).1 := by
  obtain ⟨entries, hids, hset, hcommand⟩ := s.jobs.markRunning_eq id
  simp only [markRunning, change, hcommand, hset]
  exact h.members (JobSet.eq_nil_of_ids hids)

theorem signalJobs_closed : s.signalJobs.1.jobs.closed = true := by
  have hblind : WorkBlind fun t : Service W => t.jobs.closed = true :=
    ⟨fun _ _ _ _ _ h => h, fun _ _ h => h, fun _ h => h, fun _ _ _ h => h⟩
  exact hblind.stable.signalJobs (fun id _ h => hblind.signal id h) id fun _ => rfl

/-- Whoever leaves the set empty starts the delay. -/
theorem armIfEmpty_fit (h : Fit True ended s) : Fit False ended s.armIfEmpty.1 := by
  unfold armIfEmpty JobSet.armIfEmpty JobSet.commandIfEmpty
  split
  · rename_i c hc
    obtain ⟨hempty, hc⟩ := Option.ite_none_right_eq_some.mp hc
    cases hc
    rw [Bool.and_eq_true, List.isEmpty_iff] at hempty
    exact h.arm hempty.1
  · rename_i hc
    have hnot : ¬(s.jobs.entries = [] ∧ s.jobs.closed = false) := by
      simpa using hc
    refine ⟨h.ending_of_closed, h.closed_of_ending, fun hopen => ?_, h.still⟩
    obtain ⟨hi, hn, hw, hs, _⟩ := h.timed hopen
    exact ⟨hi, hn, hw, hs, fun hj => absurd ⟨hj, hopen⟩ hnot⟩

/-- Whoever takes the last job out starts the delay. -/
theorem remove_fit (h : Fit busy ended s) {id : Identity} {e : JobEntry}
    (he : s.jobs.find? id = some e) : Fit busy ended (s.change (s.jobs.remove id)) := by
  obtain ⟨left, hids, hremove⟩ := JobSet.remove_of_find he
  simp only [change, hremove]
  by_cases hleft : left = []
  · subst hleft
    -- in between, with the last job out and the delay not started, a debt is open
    have hnone : Fit True ended { s with jobs := { s.jobs with entries := [] } } := by
      refine ⟨h.ending_of_closed, h.closed_of_ending, fun hopen => ?_, h.still⟩
      obtain ⟨hi, hn, _, hs, _⟩ := h.timed hopen
      exact ⟨hi, hn, fun hne => absurd rfl hne, hs, fun _ _ hnot => absurd trivial hnot⟩
    rcases Bool.eq_false_or_eq_true s.jobs.closed with hclosed | hopen
    · rw [if_neg (by simp [hclosed])]
      exact hnone.of_closed hclosed
    · rw [if_pos (by simp [hopen])]
      exact hnone.arm rfl
  · have hsome : s.jobs.entries ≠ [] := by
      intro hnil
      rw [JobSet.ids, hnil, List.map_nil, List.erase_nil, List.map_eq_nil_iff] at hids
      exact hleft hids
    rw [if_neg (by simp [hleft])]
    exact h.members (iff_of_false hleft hsome)

theorem sayOutcome_jobs (e : JobEntry) (o : JobOutcome) : (s.sayOutcome e o).jobs = s.jobs := by
  cases o <;> rfl

/-- The last job that leaves starts the delay. -/
theorem removeJob_fit (h : Fit busy ended s) (id : Identity) (o : JobOutcome) :
    Fit busy ended (s.removeJob id o).1 := by
  unfold removeJob
  split
  · exact h.say
  · rename_i e he
    have hn : Fit busy ended (s.note (.jobRemoved id o)) := h.note nofun
    have hsaid : Fit busy ended ((s.note (.jobRemoved id o)).sayOutcome e o) := by
      cases o with
      | completed => exact hn.say
      | failed => exact hn.say
    exact remove_fit hsaid (by rw [sayOutcome_jobs]; exact he)

/-- A job that is registered calls the delay off. -/
theorem registered_fit (h : Fit busy ended s) (hopen : s.jobs.closed = false) (id : Identity)
    (kind : JobKind) : Fit False ended ((s.registered id kind).send .reset) where
  ending_of_closed := by
    rw [send_hub, send_ending]
    exact h.ending_of_closed
  closed_of_ending := by
    rw [send_jobs, send_ending]
    exact h.closed_of_ending
  still := by
    rw [send_ending]
    exact h.still
  timed _ := by
    have ht := h.timed hopen
    have hinbox : (s.registered id kind).inboxOpen = true := ht.inboxOpen
    constructor
    · rw [send_inboxOpen, hinbox]
    · rw [send_commands _ hinbox, List.mem_append, List.mem_singleton]
      rintro (hn | hn)
      · exact ht.noCancel hn
      · cases hn
    · rw [outlook_send _ hinbox]
      exact fun _ => rfl
    · rw [outlook_send _ hinbox]
      exact fun _ => rfl
    · rw [send_jobs]
      exact fun hnil => absurd hnil (by simp [registered])

/-- A job that is refused finds the set closed. -/
theorem addJob_fit (h : Fit busy ended s) (id : Identity) (kind : JobKind) :
    Fit False ended (s.addJob id kind).1 := by
  rcases Bool.eq_false_or_eq_true s.jobs.closed with hclosed | hopen
  · obtain ⟨_, he⟩ := s.addJob_of_closed hclosed id kind
    have hfit : Fit False ended (s.newCompleter id).1 :=
      (h.of_closed hclosed).quiet rfl rfl rfl rfl rfl rfl rfl
    rw [he]
    exact workStable_fit.dropCompleter _ hfit.say
  · obtain ⟨_, he⟩ := s.addJob_of_open hopen id kind
    have hfit := registered_fit h hopen id kind
    rw [he]
    generalize (s.registered id kind).send .reset = t at hfit
    exact hfit.quiet rfl rfl rfl rfl rfl rfl rfl

/-! ## Triggers -/

/-- A trigger that waits is at work, and one that has come to its end owes nothing. -/
def TriggerFit (ended : Prop) : Service W × TriggerProgress → Prop
  | (s, .waits stage) => Fit True ended s ∧ ∀ m, isUnderWay (.trigger m stage) = true
  | (s, .done _) => Fit False ended s

theorem dropTrigger_fit (h : Fit busy ended s) (hc : s.jobs.closed = true) (message : String) :
    TriggerFit ended (s.dropTrigger message) :=
  (h.of_closed hc).say

/-- A trigger that gets its job has the delay called off. -/
theorem beginJob_fit (h : Fit busy ended s) (trigger : Trigger) (connection : Connection) :
    TriggerFit ended (s.beginJob trigger connection) := by
  unfold beginJob
  split
  rename_i t id he
  have ht : Fit busy ended t := by
    obtain ⟨rfl, -⟩ := Prod.mk.inj he
    exact h.quiet rfl rfl rfl rfl rfl rfl rfl
  extract_lets work worked
  have hw : Fit busy ended worked := ht.quiet rfl rfl rfl rfl rfl rfl rfl
  have ha := addJob_fit hw id work.kind
  split
  · rename_i t' he'
    rw [he'] at ha
    exact ha.say
  · rename_i t' completer he'
    rw [he'] at ha
    exact ha.quiet rfl rfl rfl rfl rfl rfl rfl

theorem afterPlugins_fit (trigger : Trigger) (connection : Connection)
    {r : Service W × PluginStartProgress} (h : Fit True ended r.1) :
    TriggerFit ended (afterPlugins trigger connection r) := by
  obtain ⟨t, progress⟩ := r
  cases progress with
  | waits stage => exact ⟨h, fun _ => rfl⟩
  | done running =>
    simp only [afterPlugins]
    split
    · rename_i hending
      exact dropTrigger_fit h (h.closed_of_ending hending) _
    · exact beginJob_fit h trigger connection

theorem afterConnect_fit (trigger : Trigger) {r : Service W × ConnectProgress}
    (h : Fit True ended r.1) (hok : ConnectOk k r) :
    TriggerFit ended (afterConnect env k trigger r) := by
  obtain ⟨t, progress⟩ := r
  cases progress with
  | waits stage => exact ⟨h, fun _ => rfl⟩
  | done result =>
    cases result with
    | error e =>
      have harm : Fit False ended (t.say "service" .error
          ("Cannot run " ++ trigger.kind.name ++ " job: " ++ e.message)).armIfEmpty.1 :=
        armIfEmpty_fit h.say
      cases e with
      | closed => exact dropTrigger_fit h (h.closed_of_ending (h.ending_of_closed (hok rfl))) _
      | credentials | missingCredentials | sdk | listener => exact harm
    | ok connection =>
      simp only [afterConnect]
      split
      · rename_i hending
        exact dropTrigger_fit h (h.closed_of_ending hending) _
      · exact afterPlugins_fit trigger connection
          (sessionStable_fit.enterStartAll k connection t.config.plugins h)

theorem enterTrigger_fit (h : Fit busy ended s) (m : TriggerMessage) :
    TriggerFit ended (s.enterTrigger env k m) := by
  unfold enterTrigger
  split
  · rename_i hending
    exact dropTrigger_fit h (h.closed_of_ending hending) _
  · have hreset : Fit True ended (s.send .reset) := h.reset fun _ => trivial
    extract_lets reset
    split
    · exact armIfEmpty_fit hreset.say
    · rename_i trigger _
      extract_lets received
      have hr : Fit True ended received := Fit.say hreset
      exact afterConnect_fit trigger (sessionStable_fit.enterConnect k _ hr)
        (enterConnect_turn received.config.connection).2

/-- **A trigger leaves the deadlines fit in each of its steps**, and once it is over nobody need be
busy any more. -/
theorem resumeTrigger_fit (h : Fit busy ended s) {m : TriggerMessage} {stage : TriggerStage}
    {r : Service W × TriggerProgress} (hs : s.Sound k (.trigger m stage))
    (hr : s.resumeTrigger env k m stage = some r) : TriggerFit ended r := by
  have hloose : Fit True ended s := h.loosen fun _ => trivial
  cases stage with
  | arriving =>
    cases hr
    exact enterTrigger_fit h m
  | connecting trigger stage =>
    obtain ⟨c, hc, rfl⟩ := Option.map_eq_some_iff.mp hr
    exact afterConnect_fit trigger (sessionStable_fit.resumeConnect hc hloose)
      (resumeConnect_turn hs hc).2
  | startingPlugins trigger connection stage =>
    obtain ⟨p, hp, rfl⟩ := Option.map_eq_some_iff.mp hr
    exact afterPlugins_fit trigger connection (sessionStable_fit.resumeStart hp hloose)

/-! ## Teardowns -/

/-- Whoever ends the service has closed the set before. -/
theorem enterTeardown_ended (hc : s.jobs.closed = true) (reason : ShutdownReason) :
    Ended (s.enterTeardown env k reason).1 :=
  steady_ended.enterTeardown (fun hending => ⟨hending, hc⟩) fun _ => ⟨rfl, hc⟩

theorem enterShutdown_ended (h : s.ending = true → s.jobs.closed = true) :
    Ended (s.enterShutdown env k).1 := by
  unfold enterShutdown
  split
  · rename_i hending
    exact ⟨hending, h hending⟩
  · refine enterTeardown_ended ?_ .requested
    rw [send_jobs]
    exact signalJobs_closed

/-! ## The scheduler -/

/-- A scheduler that listens has kept the deadlines as they were; one that ends the service, or
comes to its own end, finds the set closed. -/
def SchedulerFit (busy ended : Prop) : Service W × SchedulerProgress → Prop
  | (s, .waits .listening) => Fit busy ended s
  | (s, .waits (.tearingDown _ _)) => Ended s
  | (s, .done ()) => Fit busy ended s ∧ s.jobs.closed = true

theorem afterTeardown_fit {reason : ShutdownReason} {r : Service W × TeardownProgress}
    (h : Ended r.1) : SchedulerFit busy ended (afterTeardown reason r) := by
  obtain ⟨t, progress⟩ := r
  cases progress with
  | waits stage => exact h
  | done => exact ⟨h.fit, h.closed⟩

/-- A command that is obeyed does what was foreseen of it. -/
theorem obey_fit (h : Fit busy ended s) {c : SchedulerCommand} {rest : List SchedulerCommand}
    (hc : s.commands = c :: rest) :
    SchedulerFit busy ended (obey { s with commands := rest } c) := by
  obtain ⟨log, he⟩ := obey_eq (s := { s with commands := rest }) c
  have hfit : Fit busy ended (obey { s with commands := rest } c).1 := by
    -- the outlook had the command in it already while it was queued
    have houtlook : (obey { s with commands := rest } c).1.outlook = s.outlook := by
      rw [he]
      exact outlook_obey hc rfl rfl
    have haccepted : (obey { s with commands := rest } c).1.Accepted → s.Accepted := by
      rw [he]
      exact accepted_note (o := .obeyed c) nofun
    rw [he] at houtlook haccepted ⊢
    refine ⟨h.ending_of_closed, h.closed_of_ending, fun hopen => ?_, h.still⟩
    obtain ⟨hi, hn, hw, hs, hm⟩ := h.timed hopen
    constructor
    · exact hi
    · exact fun hmem => hn (hc ▸ List.mem_cons_of_mem _ hmem)
    · rw [houtlook]
      exact hw
    · rw [houtlook]
      exact fun ha => hs (haccepted ha)
    · rw [houtlook]
      exact fun hj ha => hm hj (haccepted ha)
  rw [he] at hfit ⊢
  split
  · rename_i hcancel
    refine ⟨hfit, ?_⟩
    rw [← Bool.not_eq_false]
    intro hopen
    exact (h.timed hopen).noCancel (by simp [hc, hcancel])
  · exact hfit

theorem serviceOver_fit : SchedulerFit busy ended (s.serviceOver env k) := by
  unfold serviceOver
  extract_lets noted said
  have hclosed : said.signalJobs.1.jobs.closed = true := signalJobs_closed
  generalize said.signalJobs = r at hclosed ⊢
  obtain ⟨t, _⟩ := r
  simp only
  generalize hfired : t.schedule (Scheduler.fire .serviceTimeout) = fired
  have hclosed' : fired.jobs.closed = true := hfired ▸ hclosed
  have hended : Ended (fired.enterTeardown env k .serviceTimeout).1 :=
    enterTeardown_ended hclosed' .serviceTimeout
  generalize fired.enterTeardown env k .serviceTimeout = r at hended ⊢
  exact afterTeardown_fit hended

/-- A delay that is over ends a service with no jobs, and nothing is lost if there are some. -/
theorem emptyOver_fit (h : Fit busy ended s) (hc : s.commands = []) :
    SchedulerFit busy ended (s.emptyOver env k) := by
  by_cases hidle : s.jobs.closed = false ∧ s.jobs.entries = []
  · obtain ⟨log, he⟩ := emptyOver_of_idle env k hidle.1 hidle.2
    rw [he]
    exact afterTeardown_fit (enterTeardown_ended rfl .emptyDelay)
  · -- in an open set there are jobs, and with a job the delay was not to come
    obtain ⟨log, he⟩ := emptyOver_of_busy env k hidle
    rw [he]
    refine ⟨h.ending_of_closed, h.closed_of_ending, fun hopen => ?_, h.still⟩
    obtain ⟨hi, hn, hw, _, _⟩ := h.timed hopen
    have hjobs : s.jobs.entries ≠ [] := fun hj => hidle ⟨hopen, hj⟩
    have hmarks : s.scheduler.marks = ⟨true, false⟩ := (outlook_of_nil hc).symm.trans (hw hjobs)
    have hservice : s.scheduler.service.isSome = true := congrArg Marks.service hmarks
    have hforgot : s.scheduler.forgetEmpty.publish.marks = ⟨true, false⟩ := by
      simp [Scheduler.marks, Scheduler.forgetEmpty, hservice]
    have houtlook : s.commands.foldl (fun m c => c.mark m) s.scheduler.forgetEmpty.publish.marks =
        ⟨true, false⟩ := by
      rw [hc]
      exact hforgot
    constructor
    · exact hi
    · exact hn
    · exact fun _ => houtlook
    · exact fun _ => congrArg Marks.service houtlook
    · exact fun hj => absurd hj hjobs

/-- **The scheduler keeps the deadlines fit, or the service has ended.** -/
theorem resumeScheduler_fit (h : Fit busy ended s) {stage : SchedulerStage}
    {r : Service W × SchedulerProgress} (hs : stage ≠ .listening → Ended s)
    (hr : s.resumeScheduler env k stage = some r) : SchedulerFit busy ended r := by
  cases schedulerTurn_of_resume hr with
  | obeys hc => exact obey_fit h hc
  | limit => exact serviceOver_fit
  | delay hc => exact emptyOver_fit h hc
  | tearsDown hp =>
    have hended : Ended s := hs (by simp)
    exact afterTeardown_fit (steady_ended.resumeTeardown hp hended)

end PushWake.Service
