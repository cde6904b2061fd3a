import PushWake.Proofs.Runs
import PushWake.Proofs.StepStable

/-!
# What every move leaves alone

A property of a service that does not care who waits where, who has been answered, and which jobs
are in the set is `Routine` if errands keep it: then triggers and reapers keep it in every step.
It is `Ambient` if it is steady as well and if events keep it: then every move keeps it but for
the scheduler's and those of the bodies of jobs. It is `Lasting` if the work of jobs keeps it,
too. What the scheduler does is left to each property, since the deadlines are what the
interesting ones are about.
-/

namespace PushWake.Service

variable {W : Type} {env : Collaborators W} {s s' : Service W} {k : Nat}

/-- A property that is kept by all but the scheduler and the end of the service. -/
structure Routine (P : Service W → Prop) : Prop extends Errand P where
  /-- Somebody begins, moves on or ends. -/
  place : ∀ {s : Service W} (activities : List (Nat × Activity)) (begun : Nat),
    P s → P { s with activities, begun }
  answered : ∀ {s : Service W} (k : Nat) (a : CallAnswer), P s → P (s.note (.answered k a))
  enroll : ∀ {s : Service W} (trigger : Trigger) (connection : Connection),
    s.jobs.closed = false → P s → P (s.enrolled trigger connection)
  remove : ∀ {s : Service W} (id : Identity) (o : JobOutcome) (entries : List JobEntry),
    entries.map JobEntry.id ⊆ s.jobs.ids → P s → P { s.note (.jobRemoved id o) with jobs :=
      { s.jobs with entries } }
  wait : ∀ {s : Service W} (t : Nat), P s → P (s.advanceTo t)
  release : ∀ {s : Service W}, P s → P { s with released := true }

/-- A property that is kept by everything but what the scheduler and the bodies of jobs do. -/
structure Ambient (P : Service W → Prop) : Prop extends Steady P, Routine P where
  events : EventStable P
  /-- The scheduler has gone. -/
  closeInbox : ∀ {s : Service W}, P s → P { s with inboxOpen := false, commands := [] }

/-- A property that is kept by everything but what the scheduler does. -/
structure Lasting (P : Service W → Prop) : Prop extends Ambient P where
  work : WorkStable P
  /-- A job is prepared, and may still be refused. -/
  prepare : ∀ {s : Service W} (trigger : Trigger), P s → P (s.prepared (.ofTrigger trigger))
  quiet := work.quiet
  events := work.events
  refuse trigger message h := work.refuse message (prepare trigger h)

namespace Routine

variable {P : Service W → Prop} (hP : Routine P)
include hP

theorem put (k : Nat) (a : Activity) (h : P s) : P (s.put k a) := hP.place _ s.begun h

theorem finish (k : Nat) (h : P s) : P (s.finish k) := hP.place _ s.begun h

/-- A service that nobody holds any more has its scheduler cancelled. -/
theorem cancelIfUnheld (h : P s) : P s.cancelIfUnheld := by
  unfold Service.cancelIfUnheld
  split
  · exact hP.send _ h
  · exact h

/-- An answer may be the last thing that held the service. -/
theorem answer (k : Nat) (a : CallAnswer) (h : P s) : P (s.answer k a).cancelIfUnheld :=
  hP.cancelIfUnheld (hP.answered k a (hP.finish k h))

theorem beginJob (trigger : Trigger) (connection : Connection) (h : P s)
    (hopen : s.jobs.closed = false) : P (s.beginJob trigger connection).1 := by
  obtain ⟨wakes, log, he⟩ := s.beginJob_of_open hopen trigger connection
  rw [he]
  exact hP.quiet s.world log wakes s.dispatched (hP.enroll trigger connection hopen h)

/-- A reaper takes its job out, and with the last one the delay starts. -/
theorem removeJob (id : Identity) (o : JobOutcome) (h : P s) : P (s.removeJob id o).1 := by
  cases hf : s.jobs.find? id with
  | none =>
    simp only [Service.removeJob, hf]
    exact hP.say h
  | some e =>
    obtain ⟨left, log, hleft, hout⟩ := s.removeJob_of_without hf o
    have hsub : left.map JobEntry.id ⊆ s.jobs.ids := hleft ▸ List.erase_subset
    exact hout hP.toErrand
      (hP.quiet s.world log s.wakes s.dispatched (hP.remove id o left hsub h))

/-- A trigger that has come somewhere. -/
theorem followTrigger {m : TriggerMessage} {r : Service W × TriggerProgress}
    (h : TriggerIn P (fun _ => P) r) : P (follow k (.trigger m)
      (fun s result => (s.answer k (.trigger result)).cancelIfUnheld) r) := by
  obtain ⟨t, progress⟩ := r
  cases progress with
  | waits stage => exact hP.put k _ h
  | done result =>
    cases result with
    | ok id => exact hP.answer k _ h
    | error e => exact hP.answer k _ h

theorem followShutdown {r : Service W × TeardownProgress} (h : P r.1) :
    P (follow k (fun stage => .shutdown (some stage))
      (fun s _ => (s.answer k .shutDown).cancelIfUnheld) r) := by
  obtain ⟨t, progress⟩ := r
  cases progress with
  | waits stage => exact hP.put k _ h
  | done => exact hP.answer k _ h

/-- Whether a body waits on or is over makes no difference to a property that is routine. -/
theorem followBody {id : Identity} {completer : Nat} {connection : Connection}
    {r : Service W × BodyProgress} (h : P r.1) : P (follow k (.body id completer connection)
      (fun s result => s.endBody k id result) r) := by
  obtain ⟨stage, -, he⟩ | ⟨result, log, -, he⟩ := followBody_eq k id completer connection r
  · rw [he]
    exact hP.put k _ h
  · rw [he]
    exact hP.finish k (hP.quiet r.1.world log r.1.wakes r.1.dispatched h)

/-- Triggers and their jobs are routine. -/
theorem trigger {m : TriggerMessage} {stage : TriggerStage} {r : Service W × TriggerProgress}
    (hr : s.resumeTrigger env k m stage = some r) (h : P s) : P (follow k (.trigger m)
      (fun s result => (s.answer k (.trigger result)).cancelIfUnheld) r) :=
  hP.followTrigger (hP.resumeTrigger
    (fun trigger connection h hopen => hP.beginJob trigger connection h hopen) hr h)

/-- A body that begins is marked as running first, which changes no member. -/
theorem freshBody {id : Identity} {completer : Nat} {connection : Connection} (hwork : WorkStable P)
    (h : P s) : P (follow k (.body id completer connection) (fun s result => s.endBody k id result)
      ((s.markRunning id).1.beginBody env id completer connection.session)) :=
  hP.followBody (hwork.beginBody _ _ _ (hP.markRunning id h))

theorem body {id : Identity} {completer : Nat} {connection : Connection} {stage : BodyStage}
    {r : Service W × BodyProgress} (hwork : WorkStable P)
    (hr : s.resumeBody env id completer connection.session stage = some r)
    (h : P s) : P (follow k (.body id completer connection)
      (fun s result => s.endBody k id result) r) :=
  hP.followBody (hwork.resumeBody hr h)

end Routine

namespace Ambient

variable {P : Service W → Prop} (hP : Ambient P)
include hP

/-- **Every step keeps what the scheduler and the bodies of jobs keep.** What a body does is left to
the caller, who may know more of it: whose body it is, and in which step. -/
theorem ownStep (hs : OwnStep env s k s')
    (hscheduler : ∀ {stage r}, (k, .scheduler stage) ∈ s.activities →
      s.resumeScheduler env k stage = some r → P r.1)
    (hbody : ∀ {id c connection stage} {t : Service W} {r}, (k, .body id c connection stage) ∈
      s.activities → Marked s t → t.resumeBody env id c connection.session stage = some r → P t →
      P r.1)
    (h : P s) : P s' := by
  cases hs with
  | @scheduler stage r ha hr =>
    have ht := hscheduler ha hr
    obtain ⟨t, progress⟩ := r
    cases progress with
    | waits stage => exact hP.put k _ ht
    | done => exact hP.closeInbox (hP.finish k ht)
  | trigger ha hr => exact hP.trigger hr h
  | enterShutdown ha => exact hP.followShutdown (hP.enterShutdown h)
  | shutdown ha hr => exact hP.followShutdown (hP.resumeTeardown hr h)
  | freshBody ha => exact hP.followBody (hbody ha (marked_markRunning _) rfl (hP.markRunning _ h))
  | body ha hr => exact hP.followBody (hbody ha .refl hr h)
  | reaper ha hc => exact hP.finish k (hP.removeJob _ _ h)
  | settlement ha hdue => exact hP.finish k (hP.events.settleLater _ _ h)

/-- **Every move keeps what the scheduler and the bodies of jobs keep.** -/
theorem move (hown : ∀ j a, (j, a) ∈ s.activities → isOwn a = true) (hm : Move env s s')
    (hscheduler : ∀ {k stage r}, (k, .scheduler stage) ∈ s.activities →
      s.resumeScheduler env k stage = some r → P r.1)
    (hbody : ∀ {k id c connection stage} {t : Service W} {r}, (k, .body id c connection stage) ∈
      s.activities → s.step env k = some s' → Marked s t →
      t.resumeBody env id c connection.session stage = some r → P t → P r.1)
    (h : P s) : P s' := by
  cases hm with
  | act hs =>
    exact hP.ownStep (ownStep_of_step hown hs) hscheduler (fun ha => hbody ha hs) h
  | call _ _ => exact hP.place _ _ h
  | report session e => exact hP.events.emit session e h
  | wait t => exact hP.wait t h
  | release => exact hP.cancelIfUnheld (hP.release h)
  | rouse wakes => exact hP.quiet s.world s.log wakes s.dispatched h

end Ambient

namespace Lasting

variable {P : Service W → Prop} (hP : Lasting P)
include hP

/-- **Every move keeps what the scheduler keeps.** -/
theorem move (hown : ∀ j a, (j, a) ∈ s.activities → isOwn a = true) (hm : Move env s s')
    (hscheduler : ∀ {k stage r}, (k, .scheduler stage) ∈ s.activities →
      s.resumeScheduler env k stage = some r → P r.1)
    (h : P s) : P s' :=
  hP.toAmbient.move hown hm hscheduler (fun _ _ _ hr => hP.work.resumeBody hr) h

end Lasting

end PushWake.Service
