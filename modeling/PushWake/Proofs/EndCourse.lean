import PushWake.Proofs.EndSignals
import PushWake.Proofs.ForeseenDeadlines
import PushWake.Proofs.SchedulerPresence

/-!
# The course of the end

Three can end a service: its host, the hard limit and the delay. Whoever comes first closes the
set, tells its members, and takes the service down; the others find that it is ending. `Begins`
says what the beginning of the end is in each of the three cases, and `Course` what a move may do
to the end at all: most do nothing, the scheduler deals with its commands and deadlines, the end
begins, and the host is told. Every move is one of these, so what is to be known of the end is
shown once for each.
-/

namespace PushWake.Service

variable {W : Type} {env : Collaborators W} {s s' t u v : Service W} {k : Nat}
  {reason : ShutdownReason}

/-! ## Who is ending the service -/

/-- Why an activity is ending the service, if it is. -/
def tears? : Activity → Option ShutdownReason
  | .scheduler (.tearingDown reason _) => some reason
  | .shutdown (some _) => some .requested
  | _ => none

/-- Whether an activity is the scheduler, waiting for a command or a deadline. -/
def listens? : Activity → Option Unit
  | .scheduler .listening => some ()
  | _ => none

/-- Why the service is being ended, by whoever is at it. -/
def tearing (s : Service W) : List ShutdownReason := s.gathered tears?

/-- Whether the scheduler waits for a command or a deadline. -/
def Listens (s : Service W) : Prop := () ∈ s.gathered listens?

theorem tears?_of_isWorker (a : Activity) (ha : isWorker a = true) : tears? a = none := by
  cases a with
  | body | reaper | settlement => rfl
  | _ => cases ha

theorem listens?_of_isWorker (a : Activity) (ha : isWorker a = true) : listens? a = none := by
  cases a with
  | body | reaper | settlement => rfl
  | _ => cases ha

/-- Only the scheduler listens. -/
theorem isScheduler_of_listens? {a : Activity} (h : listens? a = some ()) :
    isScheduler a = true := by
  cases a with
  | scheduler => rfl
  | _ => cases h

theorem listens_of_mem (ha : (k, .scheduler .listening) ∈ s.activities) : s.Listens :=
  mem_gathered.mpr ⟨k, _, ha, rfl⟩

/-- The same are ending the service, and the scheduler listens if it did. -/
structure SamePosts (s t : Service W) : Prop where
  tearing : t.tearing = s.tearing
  listening : t.gathered listens? = s.gathered listens?

namespace SamePosts

theorem of_joined (hj : Joined s.scene t.scene) : SamePosts s t :=
  ⟨gathered_joined tears?_of_isWorker hj, gathered_joined listens?_of_isWorker hj⟩

theorem listens (h : SamePosts s t) : t.Listens ↔ s.Listens := by
  rw [Listens, Listens, h.listening]

theorem trans (h : SamePosts s t) (h' : SamePosts t u) : SamePosts s u :=
  ⟨h'.tearing.trans h.tearing, h'.listening.trans h.listening⟩

section
variable (hn : s.scene.Numbered) (hj : Joined s.scene t.scene) {a b : Activity}
  (ha : (k, a) ∈ s.activities)
include hn hj ha

/-- Whoever stays at its post moves without changing the posts. -/
theorem put (htears : tears? a = tears? b) (hlistens : listens? a = listens? b) :
    SamePosts s (t.put k b) :=
  ⟨gathered_turn_put tears?_of_isWorker hn hj ha htears,
    gathered_turn_put listens?_of_isWorker hn hj ha hlistens⟩

theorem finish (htears : tears? a = none) (hlistens : listens? a = none) :
    SamePosts s (t.finish k) :=
  ⟨gathered_turn_finish tears?_of_isWorker hn hj ha htears,
    gathered_turn_finish listens?_of_isWorker hn hj ha hlistens⟩

theorem answer (htears : tears? a = none) (hlistens : listens? a = none) (c : CallAnswer) :
    SamePosts s (t.answer k c).cancelIfUnheld :=
  (finish hn hj ha htears hlistens).trans (of_joined (answered_turn (k := k) c).joined)

end

end SamePosts

theorem inboxOpen_of_listens (hc : Clocked s) (hl : s.Listens) : s.inboxOpen = true := by
  obtain ⟨k, a, ha, hlistens⟩ := mem_gathered.mp hl
  exact (hc k a ha (isScheduler_of_listens? hlistens)).2

section
variable (hc : Clocked s) (hj : Joined s.scene t.scene) {stage : SchedulerStage}
  (ha : (k, .scheduler stage) ∈ s.activities)
include hc hj ha

/-- Whoever listens is the scheduler that was there. -/
theorem eq_of_listens? {a : Activity} {j : Nat} (hb : (j, a) ∈ t.activities)
    (hl : listens? a = some ()) : j = k :=
  (hc.join hj j a hb (isScheduler_of_listens? hl)).1.trans (hc k _ ha rfl).1.symm

theorem not_listens_put {b : Activity} (hs : listens? b = none) : ¬(t.put k b).Listens := by
  intro hl
  obtain ⟨j, a, hb, hd⟩ := mem_gathered.mp hl
  rcases mem_put hb with ⟨rfl, rfl⟩ | ⟨hb, hjk⟩
  · cases hs.symm.trans hd
  · exact hjk (eq_of_listens? hc hj ha hb hd)

theorem not_listens_finish : ¬(t.finish k).Listens := by
  intro hl
  obtain ⟨j, a, hb, hd⟩ := mem_gathered.mp hl
  obtain ⟨hb, hjk⟩ := mem_finish.mp hb
  exact hjk (eq_of_listens? hc hj ha hb hd)

end

/-! ## The beginning of the end -/

/-- How a service begins to end, for each reason. -/
inductive Begins (s : Service W) : ShutdownReason → Service W → Prop where
  /-- The host asks for it, and the scheduler is told to stop. -/
  | host : s.ending = false → s.jobs.closed = false →
      Begins s .requested
        ({ s.signalJobs.1.send .cancel with ending := true }.note (.teardownStarted .requested))
  /-- The hard limit is over, with no command left to deal with. -/
  | limit (message : String) : s.ending = false → s.jobs.closed = false → s.Listens →
      s.commands = [] → s.scheduler.due? s.now = some .service →
      Begins s .serviceTimeout
        ({ ((s.note (.expired .service)).say "scheduler" .info message).signalJobs.1.schedule
            (Scheduler.fire .serviceTimeout) with ending := true }.note
          (.teardownStarted .serviceTimeout))
  /-- The delay is over, with nothing left to do. -/
  | idle (log : List (Nat × LogLine)) : s.ending = false → s.jobs.closed = false →
      s.jobs.entries = [] → s.Listens → s.commands = [] →
      s.scheduler.due? s.now = some .empty →
      Begins s .emptyDelay
        ({ s.idled log with ending := true }.note (.teardownStarted .emptyDelay))

/-- Whether something may happen while a service begins to end. -/
def isOnset : Occurrence → Bool
  | .command _ => true
  | .expired _ => true
  | o => o.isReaction

theorem isOnset_of_isReaction {o : Occurrence} (ho : o.isReaction = true) : isOnset o = true := by
  cases o <;> first | rfl | exact ho

/-- What the three beginnings have in common: the set is closed, its members have been told, and
then the service begins to end. -/
structure Onset (s : Service W) (reason : ShutdownReason) (u : Service W) : Prop where
  alive : s.ending = false
  isOpen : s.jobs.closed = false
  ending : u.ending = true
  terminated : u.terminated = s.terminated
  jobs : u.jobs = { s.jobs with closed := true }
  config : u.config = s.config
  now : u.now = s.now
  history : ∃ os, u.history = s.history ++ os ++ [(s.now, .teardownStarted reason)] ∧
    signalled (os.map Prod.snd) = s.jobs.ids ∧ ∀ o ∈ os, isOnset o.2 = true

/-- The signals come right before the beginning of the end. -/
theorem Onset.record (h : Onset s reason u) : ∃ os,
    u.record = s.record ++ os ++ [.teardownStarted reason] ∧ signalled os = s.jobs.ids ∧
      ∀ o ∈ os, isOnset o = true := by
  obtain ⟨os, hos, hids, hall⟩ := h.history
  refine ⟨os.map Prod.snd, by simp [Service.record, hos], hids, fun o ho => ?_⟩
  obtain ⟨x, hx, rfl⟩ := List.mem_map.mp ho
  exact hall x hx

theorem Begins.onset (h : Begins s reason u) : Onset s reason u := by
  cases h with
  | host halive hopen =>
    have hs := signals_signalJobs hopen
    obtain ⟨os, hos, hids, hall⟩ := hs.history
    have hos : s.signalJobs.1.history = s.history ++ os := hos
    have hnow : s.signalJobs.1.now = s.now := hs.now
    obtain ⟨wakes, log, he⟩ := s.signalJobs.1.send_eq .cancel
    rw [he]
    refine ⟨halive, hopen, rfl, hs.terminated, hs.jobs, hs.config, hnow,
      os ++ [(s.now, .command .cancel)], ?_, ?_, ?_⟩
    · simp [note, hos, hnow]
    · rw [List.map_append, signalled_append, hids]
      exact List.append_nil _
    · intro o ho
      rcases List.mem_append.mp ho with ho | ho
      · exact isOnset_of_isReaction (hall o ho)
      · rw [List.mem_singleton.mp ho]
        rfl
  | limit message halive hopen _ _ _ =>
    -- the deadline is noted before anybody is told, so it heads what is added
    have hs := signals_signalJobs
      (s := (s.note (.expired .service)).say "scheduler" .info message) hopen
    generalize ((s.note (.expired .service)).say "scheduler" .info message).signalJobs.1 = t at hs ⊢
    obtain ⟨os, hos, hids, hall⟩ := hs.history
    have hos : t.history = s.history ++ [(s.now, .expired .service)] ++ os := hos
    have hnow : t.now = s.now := hs.now
    refine ⟨halive, hopen, rfl, hs.terminated, hs.jobs, hs.config, hnow,
      (s.now, .expired .service) :: os, ?_, hids, ?_⟩
    · simp [note, schedule, hos, hnow]
    · intro o ho
      rcases List.mem_cons.mp ho with rfl | ho
      · rfl
      · exact isOnset_of_isReaction (hall o ho)
  | idle log halive hopen hempty _ _ _ =>
    refine ⟨halive, hopen, rfl, rfl, rfl, rfl, rfl, [(s.now, .expired .empty)], rfl, ?_, ?_⟩
    · simp [JobSet.ids, hempty, signalled]
    · intro o ho
      rw [List.mem_singleton.mp ho]
      rfl

/-- A host has the scheduler stopped; a deadline is published. -/
theorem Begins.published (h : Begins s reason u) :
    (reason = .requested ∧ u.scheduler = s.scheduler ∧ u.inboxOpen = s.inboxOpen ∧
      (s.inboxOpen = true → .cancel ∈ u.commands)) ∨
    (reason ≠ .requested ∧ s.Listens ∧ u.scheduler.state = .fired reason) := by
  cases h with
  | host halive hopen =>
    have hs := signals_signalJobs hopen
    refine .inl ⟨rfl, ?_, ?_, fun hin => ?_⟩
    · obtain ⟨wakes, log, he⟩ := s.signalJobs.1.send_eq .cancel
      rw [he]
      exact hs.scheduler
    · exact (send_inboxOpen .cancel).trans hs.inboxOpen
    · show .cancel ∈ (s.signalJobs.1.send .cancel).commands
      rw [send_commands _ (hs.inboxOpen.trans hin)]
      simp
  | limit _ _ _ hl _ _ => exact .inr ⟨by decide, hl, rfl⟩
  | idle _ _ _ _ hl _ _ => exact .inr ⟨by decide, hl, rfl⟩

/-! ## What a move does to the end -/

theorem not_isAlarm {o : Occurrence} (h : o.isSteering = false) : o.isAlarm = false := by
  cases o <;> first | rfl | cases h

/-- That the host is told alarms nobody. -/
theorem Aside.record_told (h : Aside s t) (h' : Aside (t.told reason) u) :
    ∃ os, u.record = s.record ++ os ∧ ∀ o ∈ os, o.isAlarm = false := by
  obtain ⟨os, hos, hno⟩ := h.record
  obtain ⟨os', hos', hno'⟩ := h'.record
  have htold : (t.told reason).record = t.record ++ [.hostShutdown reason] :=
    record_note (s := t) (.hostShutdown reason)
  refine ⟨os ++ .hostShutdown reason :: os', by simp [hos', htold, hos], fun o ho => ?_⟩
  rcases List.mem_append.mp ho with ho | ho
  · exact not_isAlarm (hno o ho)
  · rcases List.mem_cons.mp ho with rfl | ho
    · rfl
    · exact not_isAlarm (hno' o ho)

/-- The step in which the scheduler has come somewhere. -/
abbrev schedulerStep (k : Nat) (r : Service W × SchedulerProgress) : Service W :=
  follow k .scheduler (fun s _ => s.endScheduler k) r

/-- Of a command that is dealt with, the record says only that. -/
theorem record_obey (c : SchedulerCommand) :
    (schedulerStep k (s.obey c)).record = s.record ++ [.obeyed c] := by
  obtain ⟨log, he⟩ := s.obey_eq c
  rw [he]
  by_cases hlast : c = .cancel
  · simp [hlast, follow, endScheduler, finish, record]
  · simp [hlast, follow, put, record]

/-- Of a delay that is over for nothing, the record says only that. -/
theorem record_lapse (hbusy : ¬(s.jobs.closed = false ∧ s.jobs.entries = [])) :
    (schedulerStep k (s.emptyOver env k)).record = s.record ++ [.expired .empty] := by
  obtain ⟨log, he⟩ := emptyOver_of_busy env k hbusy
  rw [he]
  simp [follow, put, record]

/-- What a move may do to the end of a service. -/
inductive Course (env : Collaborators W) (s s' : Service W) : Prop where
  /-- Nothing. -/
  | aside : Aside s s' → SamePosts s s' → Course env s s'
  /-- The scheduler deals with a command. -/
  | obeyed {c : SchedulerCommand} {rest : List SchedulerCommand} : s.Listens →
      s.commands = c :: rest →
      s' = schedulerStep 0 (obey { s with commands := rest } c) → s'.tearing = s.tearing →
      (s'.Listens → c ≠ .cancel) → Course env s s'
  /-- The delay is over for nothing. -/
  | lapsed : s.Listens → s.commands = [] → s.scheduler.due? s.now = some .empty →
      ¬(s.jobs.closed = false ∧ s.jobs.entries = []) → s' = schedulerStep 0 (s.emptyOver env 0) →
      SamePosts s s' → Course env s s'
  /-- The end begins. -/
  | begun {reason : ShutdownReason} {u : Service W} : Begins s reason u → Dismantles u s' →
      s'.tearing.Perm (reason :: s.tearing) → (s'.Listens → reason = .requested ∧ s.Listens) →
      Course env s s'
  /-- The end begins, and the host is told at once. -/
  | atOnce {reason : ShutdownReason} {u v : Service W} : Begins s reason u → Dismantles u v →
      Dismantles (v.told reason) s' → s'.tearing = s.tearing →
      (s'.Listens → reason = .requested ∧ s.Listens) → Course env s s'
  /-- The host is told. -/
  | concluded {reason : ShutdownReason} {v : Service W} : Aside s v → Aside (v.told reason) s' →
      s.tearing.Perm (reason :: s'.tearing) → (s'.Listens → s.Listens) → Course env s s'

/-- **A move tells jobs and begins the end in one go, or does neither.** -/
theorem Course.record (hc : Course env s s') : ∃ os, (∀ o ∈ os, o.isAlarm = false) ∧
    ((s'.record = s.record ++ os ∧ s'.jobs.closed = s.jobs.closed ∧ s'.ending = s.ending ∧
      (s.ending = false → s'.shelf.stopped = s.shelf.stopped)) ∨
    ∃ reason u, Begins s reason u ∧ s'.record = u.record ++ os ∧ s'.jobs = u.jobs ∧
      s'.ending = true) := by
  cases hc with
  | aside ha =>
    obtain ⟨os, hos, hno⟩ := ha.record
    exact ⟨os, fun o ho => not_isAlarm (hno o ho), .inl ⟨hos, ha.closed, ha.ending, ha.stopped⟩⟩
  | @obeyed c rest _ _ he =>
    refine ⟨[.obeyed c], fun o ho => by rw [List.mem_singleton.mp ho]; rfl, .inl ⟨?_, ?_⟩⟩
    · exact he ▸ record_obey (s := { s with commands := rest }) c
    · obtain ⟨log, ho⟩ := obey_eq (s := { s with commands := rest }) c
      rw [he, ho]
      split <;> exact ⟨rfl, rfl, fun _ => rfl⟩
  -- an end of the delay that ends nothing is noted, like a command that was obeyed
  | lapsed _ _ _ hbusy he =>
    refine ⟨[.expired .empty], fun o ho => by rw [List.mem_singleton.mp ho]; rfl, .inl ⟨?_, ?_⟩⟩
    · exact he ▸ record_lapse hbusy
    · obtain ⟨log, ho⟩ := emptyOver_of_busy env 0 hbusy
      rw [he, ho]
      exact ⟨rfl, rfl, fun _ => rfl⟩
  | begun hb ha =>
    obtain ⟨os, hos, hno⟩ := ha.record
    exact ⟨os, fun o ho => not_isAlarm (hno o ho),
      .inr ⟨_, _, hb, hos, ha.jobs, ha.ending.trans hb.onset.ending⟩⟩
  | atOnce hb ha ha' =>
    obtain ⟨os, hos, hno⟩ := ha.record_told ha'.toAside
    exact ⟨os, hno, .inr ⟨_, _, hb, hos, ha'.jobs.trans ha.jobs,
      ha'.ending.trans (ha.ending.trans hb.onset.ending)⟩⟩
  | concluded ha ha' =>
    obtain ⟨os, hos, hno⟩ := ha.record_told ha'
    refine ⟨os, hno, .inl ⟨hos, ha'.closed.trans ha.closed, ha'.ending.trans ha.ending, ?_⟩⟩
    intro halive
    exact (ha'.stopped (ha.ending.trans halive)).trans (ha.stopped halive)

/-- What holds of the end between any two moves. -/
structure Steered (s : Service W) : Prop where
  closed : s.jobs.closed = s.ending
  /-- The host was told what the service is said to have ended for. -/
  told : reasonsTold s.record = s.terminated.toList
  /-- Whoever began to end the service is at it, or is through. -/
  begun : reasonsBegun s.record = s.tearing ++ s.terminated.toList
  once : (reasonsBegun s.record).length ≤ 1
  ending : s.ending = true ↔ reasonsBegun s.record ≠ []
  fired : ∀ reason, s.scheduler.state = .fired reason →
    reasonsBegun s.record = [reason] ∧ reason ≠ .requested
  /-- A scheduler that still listens is about to be stopped. -/
  stops : s.Listens → s.ending = true → .cancel ∈ s.commands

/-- Whoever is at it ends a service that is ending. -/
theorem Steered.ending_of_mem (h : Steered s) {a : Activity} (ha : (k, a) ∈ s.activities)
    (ht : tears? a = some reason) : s.ending = true := by
  have hmem : reason ∈ s.tearing := mem_gathered.mpr ⟨k, a, ha, ht⟩
  refine h.ending.mpr fun hnone => ?_
  rw [h.begun, List.append_eq_nil_iff] at hnone
  rw [hnone.1] at hmem
  cases hmem

/-! ## Every move takes its course -/

section
variable (hsane : Sane s) (hclocked : Clocked s) (h : Steered s)
include hsane hclocked

/-- The scheduler takes the service down. -/
theorem course_tearDown (ha : (0, .scheduler .listening) ∈ s.activities) (hb : Begins s reason u)
    {r : Service W × TeardownProgress} (hr : Unfolds u reason r)
    (hj : Joined s.scene (afterTeardown reason r).1.scene) :
    Course env s (schedulerStep 0 (afterTeardown reason r)) := by
  rw [Steady.afterTeardown_fst] at hj
  have hn := hj.numbered hsane.numbered
  cases hr with
  | @waits t stage htu =>
    refine .begun hb (htu.put _) ?_ fun hl =>
      absurd hl (not_listens_put hclocked hj ha rfl)
    rw [← SamePosts.tearing (.of_joined hj)]
    exact gathered_put_some hn (hj.stays ha) rfl rfl
  | @done v t htv htold =>
    refine .atOnce hb htv htold.endScheduler ?_ fun hl =>
      absurd hl (not_listens_finish hclocked hj ha)
    exact gathered_turn_finish tears?_of_isWorker hsane.numbered hj ha rfl

include h in
theorem course_scheduler {stage : SchedulerStage} {r : Service W × SchedulerProgress}
    (ha : (k, .scheduler stage) ∈ s.activities) (hr : s.resumeScheduler env k stage = some r) :
    Course env s (schedulerStep k r) := by
  have hj := (resumeScheduler_turn (hsane.sound _ _ ha) hr).1.joined
  obtain rfl : k = 0 := (hclocked _ _ ha rfl).1
  -- with no command left to stop it, the scheduler belongs to a service that is alive
  have halive : s.Listens → s.commands = [] → s.ending = false := by
    intro hl hc
    rw [Bool.eq_false_iff]
    intro hending
    have hstop := h.stops hl hending
    rw [hc] at hstop
    cases hstop
  cases schedulerTurn_of_resume hr with
  | @obeys command rest hc =>
    have hl : s.Listens := listens_of_mem ha
    obtain ⟨log, he⟩ := obey_eq (s := { s with commands := rest }) command
    rw [he] at hj
    by_cases hcancel : command = .cancel
    · refine .obeyed hl hc rfl ?_ fun hl' => absurd hl' ?_
      · rw [he, if_pos hcancel]
        exact gathered_turn_finish tears?_of_isWorker hsane.numbered hj ha rfl
      · rw [he, if_pos hcancel]
        exact not_listens_finish hclocked hj ha
    · refine .obeyed hl hc rfl ?_ fun _ => hcancel
      rw [he, if_neg hcancel]
      exact gathered_turn_put tears?_of_isWorker hsane.numbered hj ha rfl
  | limit hc hdue =>
    have hl : s.Listens := listens_of_mem ha
    have hopen : s.jobs.closed = false := h.closed.trans (halive hl hc)
    have hs := signals_signalJobs (s := (s.note (.expired .service)).say "scheduler" .info
      ("Service timeout reached with " ++ toString s.jobs.entries.length ++ " active job(s)"))
        hopen
    exact course_tearDown hsane hclocked ha (.limit _ (halive hl hc) hopen hl hc hdue)
      (unfolds_enterTeardown (hs.ending.trans (halive hl hc))) hj
  | delay hc hdue =>
    have hl : s.Listens := listens_of_mem ha
    have hopen : s.jobs.closed = false := h.closed.trans (halive hl hc)
    by_cases hidle : s.jobs.entries = []
    · obtain ⟨log, he⟩ := emptyOver_of_idle env 0 hopen hidle
      rw [he] at hj ⊢
      exact course_tearDown hsane hclocked ha (.idle log (halive hl hc) hopen hidle hl hc hdue)
        (unfolds_enterTeardown (halive hl hc)) hj
    · have hbusy : ¬(s.jobs.closed = false ∧ s.jobs.entries = []) := fun hb => hidle hb.2
      obtain ⟨log, he⟩ := emptyOver_of_busy env 0 hbusy
      refine .lapsed hl hc hdue hbusy rfl ?_
      rw [he] at hj ⊢
      exact .put hsane.numbered hj ha rfl rfl
  | tearsDown hp =>
    rw [Steady.afterTeardown_fst] at hj
    cases unfolds_resumeTeardown (h.ending_of_mem ha rfl) hp with
    | @waits t stage ht =>
      exact .aside (ht.put _).toAside (.put hsane.numbered hj ha rfl rfl)
    | @done v t ht htold =>
      refine .concluded ht.toAside htold.endScheduler.toAside ?_ fun hl =>
        absurd hl (not_listens_finish hclocked hj ha)
      rw [← SamePosts.tearing (.of_joined hj)]
      exact gathered_finish_some (hj.numbered hsane.numbered) (hj.stays ha) rfl

omit hclocked in
include h in
/-- A host's request has come somewhere. -/
theorem course_shutdown {stage : TeardownStage} {r : Service W × TeardownProgress}
    (ha : (k, .shutdown (some stage)) ∈ s.activities)
    (hr : s.resumeTeardown env k .requested stage = some r) :
    Course env s (follow k (fun stage => .shutdown (some stage))
      (fun s _ => (s.answer k .shutDown).cancelIfUnheld) r) := by
  have hj := (resumeTeardown_turn (hsane.sound _ _ ha) hr).1.joined
  cases unfolds_resumeTeardown (h.ending_of_mem ha rfl) hr with
  | @waits t stage ht =>
    exact .aside (ht.put _).toAside (.put hsane.numbered hj ha rfl rfl)
  | @done v t ht htold =>
    have hposts : SamePosts (t.finish k) (t.answer k .shutDown).cancelIfUnheld :=
      .of_joined (answered_turn (k := k) .shutDown).joined
    refine .concluded ht.toAside (htold.answer _).toAside ?_ fun hl => ?_
    · show s.tearing.Perm (.requested :: (t.answer k .shutDown).cancelIfUnheld.tearing)
      rw [hposts.tearing, ← SamePosts.tearing (.of_joined hj)]
      exact gathered_finish_some (hj.numbered hsane.numbered) (hj.stays ha) rfl
    · have hsame : (t.finish k).gathered listens? = s.gathered listens? :=
        gathered_turn_finish listens?_of_isWorker hsane.numbered hj ha rfl
      have hleft := hposts.listens.mp hl
      rwa [Listens, hsame] at hleft

omit hclocked in
include h in
/-- A host's request is looked at. -/
theorem course_enterShutdown (ha : (k, .shutdown none) ∈ s.activities) :
    Course env s (follow k (fun stage => .shutdown (some stage))
      (fun s _ => (s.answer k .shutDown).cancelIfUnheld) (s.enterShutdown env k)) := by
  have hj : Joined s.scene (s.enterShutdown env k).1.scene := enterShutdown_turn.1.joined
  cases halive : s.ending with
  | true =>
    have he : s.enterShutdown env k = (s, .done ()) := by
      simp only [enterShutdown, halive, if_true]
    rw [he]
    exact .aside (routine_aside.answer k _ .refl) (.answer hsane.numbered .refl ha rfl rfl _)
  | false =>
    have hopen : s.jobs.closed = false := h.closed.trans halive
    have hb : Begins s .requested _ := .host halive hopen
    have he : s.enterShutdown env k =
        (s.signalJobs.1.send .cancel).enterTeardown env k .requested := by
      simp only [enterShutdown, halive, Bool.false_eq_true, if_false]
    -- jobs and the scheduler are told first; the teardown starts from there
    have hr : Unfolds _ .requested ((s.signalJobs.1.send .cancel).enterTeardown env k .requested) :=
      unfolds_enterTeardown
        ((send_ending _).trans ((signals_signalJobs hopen).ending.trans halive))
    rw [he] at hj ⊢
    generalize (s.signalJobs.1.send .cancel).enterTeardown env k .requested = r at hj hr ⊢
    cases hr with
    | @waits t stage htu =>
      refine .begun hb (htu.put _) ?_ fun hl => ⟨rfl, ?_⟩
      · rw [← SamePosts.tearing (.of_joined hj)]
        exact gathered_put_some (hj.numbered hsane.numbered) (hj.stays ha) rfl rfl
      · have hsame : (t.put k (.shutdown (some stage))).gathered listens? = s.gathered listens? :=
          gathered_turn_put listens?_of_isWorker hsane.numbered hj ha rfl
        rwa [Listens, ← hsame]
    | @done v t htv htold =>
      have hposts : SamePosts s (t.answer k .shutDown).cancelIfUnheld :=
        .answer hsane.numbered hj ha rfl rfl _
      exact .atOnce hb htv (htold.answer _) hposts.tearing
        fun hl => ⟨rfl, hposts.listens.mp hl⟩

omit hclocked in
theorem samePosts_body {id : Identity} {completer : Nat} {connection : Connection}
    {stage : BodyStage} {r : Service W × BodyProgress}
    (ha : (k, .body id completer connection stage) ∈ s.activities) (hj : Joined s.scene r.1.scene) :
    SamePosts s (follow k (.body id completer connection)
      (fun s result => s.endBody k id result) r) := by
  obtain ⟨stage, -, he⟩ | ⟨result, log, -, he⟩ := followBody_eq k id completer connection r
  · rw [he]
    exact .put hsane.numbered hj ha rfl rfl
  · rw [he]
    exact .finish (t := { r.1 with log }) hsane.numbered hj ha rfl rfl

omit hclocked in
theorem samePosts_trigger {m : TriggerMessage} {stage : TriggerStage}
    {r : Service W × TriggerProgress} (ha : (k, .trigger m stage) ∈ s.activities)
    (hj : Joined s.scene r.1.scene) : SamePosts s (follow k (.trigger m)
      (fun s result => (s.answer k (.trigger result)).cancelIfUnheld) r) := by
  obtain ⟨t, progress⟩ := r
  cases progress with
  | waits stage => exact .put hsane.numbered hj ha rfl rfl
  | done result => exact .answer hsane.numbered hj ha rfl rfl _

include h in
theorem course_ownStep (hs : OwnStep env s k s') : Course env s s' := by
  cases hs with
  | scheduler ha hr => exact course_scheduler hsane hclocked h ha hr
  | @trigger m stage r ha hr =>
    have hj := (resumeTrigger_turn hsane.ledger (hsane.sound _ _ ha) hr).1.joined
    exact .aside (routine_aside.trigger hr .refl) (samePosts_trigger hsane ha hj)
  | enterShutdown ha => exact course_enterShutdown hsane h ha
  | shutdown ha hr => exact course_shutdown hsane h ha hr
  | freshBody ha =>
    exact .aside (routine_aside.freshBody workStable_aside .refl)
      (samePosts_body hsane ha (freshBody_turn (k := k) _ _ _).joined)
  | @body id completer connection stage r ha hr =>
    have ht : Turn k s r.1 := workStable_turn.resumeBody hr .refl
    exact .aside (routine_aside.body workStable_aside hr .refl) (samePosts_body hsane ha ht.joined)
  | @reaper id job completer outcome ha hc =>
    have ht : Turn k s (s.removeJob id outcome).1 := removeJob_turn id outcome
    exact .aside (routine_aside.finish k (routine_aside.removeJob id outcome .refl))
      (.finish hsane.numbered ht.joined ha rfl rfl)
  | @settlement session due steps ha hdue =>
    have ht : Turn k s (settleLater env session s steps) :=
      workStable_turn.settleLater _ _ .refl
    exact .aside (routine_aside.finish k (workStable_aside.settleLater _ _ .refl))
      (.finish hsane.numbered ht.joined ha rfl rfl)

include h in
/-- **Every move takes its course.** -/
theorem course_move (hm : Move env s s') : Course env s s' := by
  cases hm with
  | act hs => exact course_ownStep hsane hclocked h (ownStep_of_step hsane.own hs)
  | @call a ha _ =>
    have hnone : tears? a = none ∧ listens? a = none := by cases ha <;> exact ⟨rfl, rfl⟩
    exact .aside (routine_aside.place _ _ .refl) ⟨gathered_begin hnone.1, gathered_begin hnone.2⟩
  | report session e =>
    have ht : Turn 0 s (s.emit env session e) := workStable_turn.emit session e .refl
    exact .aside (workStable_aside.emit session e .refl) (.of_joined ht.joined)
  | wait t => exact .aside (routine_aside.wait t .refl) ⟨rfl, rfl⟩
  | release =>
    have hj : Joined { s with released := true }.scene s.release.scene :=
      (cancelIfUnheld_turn (k := 0)).joined
    exact .aside (routine_aside.cancelIfUnheld (routine_aside.release .refl))
      (SamePosts.trans (t := { s with released := true }) ⟨rfl, rfl⟩ (.of_joined hj))
  | rouse wakes =>
    exact .aside (workStable_aside.quiet s.world s.log wakes s.dispatched .refl) ⟨rfl, rfl⟩

end

end PushWake.Service
