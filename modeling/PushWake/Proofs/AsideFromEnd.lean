import PushWake.Proofs.MoveStable

/-!
# Aside from the end

Most of what a service does has nothing to do with how it ends: triggers and jobs come and go,
sessions are opened and commands are sent, and meanwhile nobody is signalled, no deadline is dealt
with, and the service neither begins to end nor tells its host so. `Aside` says that of two points
of a run. Even the end itself is made of it: a teardown stops plugins and closes the session aside
from its beginning and its conclusion, which `Unfolds` marks.
-/

namespace PushWake

/-- Whether something belongs to the way in which a service comes to its end. -/
def Occurrence.isSteering : Occurrence → Bool
  | .jobShutdown _ => true
  | .obeyed _ => true
  | .expired _ => true
  | .teardownStarted _ => true
  | .hostShutdown _ => true
  | _ => false

namespace Service

variable {W : Type} {env : Collaborators W} {s t u : Service W} {k : Nat}

/-- Nothing has happened between two points that concerns the end of the service. -/
structure Aside (s t : Service W) : Prop where
  ending : t.ending = s.ending
  terminated : t.terminated = s.terminated
  closed : t.jobs.closed = s.jobs.closed
  /-- Only a service that is ending stops its shelf. -/
  stopped : s.ending = false → t.shelf.stopped = s.shelf.stopped
  scheduler : t.scheduler = s.scheduler
  config : t.config = s.config
  now : s.now ≤ t.now
  /-- As long as somebody reads the commands, they wait in their order. -/
  inbox : t.inboxOpen = true → s.inboxOpen = true ∧ s.commands <+: t.commands
  history : ∃ os, t.history = s.history ++ os ∧ ∀ o ∈ os, o.2.isSteering = false

/-- What there is to know of a service on its way to its end. -/
def bearings (s : Service W) : Bool × Option ShutdownReason × Bool × Bool × Scheduler ×
    ServiceConfig × Nat × Bool × List SchedulerCommand × List (Nat × Occurrence) :=
  (s.ending, s.terminated, s.jobs.closed, s.shelf.stopped, s.scheduler, s.config, s.now,
    s.inboxOpen, s.commands, s.history)

namespace Aside

theorem refl : Aside s s :=
  ⟨rfl, rfl, rfl, fun _ => rfl, rfl, rfl, Nat.le_refl _, fun h => ⟨h, List.prefix_rfl⟩, [], by simp,
    nofun⟩

theorem trans (h : Aside s t) (h' : Aside t u) : Aside s u where
  ending := h'.ending.trans h.ending
  terminated := h'.terminated.trans h.terminated
  closed := h'.closed.trans h.closed
  stopped halive := (h'.stopped (h.ending.trans halive)).trans (h.stopped halive)
  scheduler := h'.scheduler.trans h.scheduler
  config := h'.config.trans h.config
  now := Nat.le_trans h.now h'.now
  inbox hopen := by
    obtain ⟨ht, hc'⟩ := h'.inbox hopen
    obtain ⟨hs, hc⟩ := h.inbox ht
    exact ⟨hs, hc.trans hc'⟩
  history := by
    obtain ⟨os, ho, hno⟩ := h.history
    obtain ⟨os', ho', hno'⟩ := h'.history
    refine ⟨os ++ os', by rw [ho', ho, List.append_assoc], fun o hmem => ?_⟩
    exact (List.mem_append.mp hmem).elim (hno o) (hno' o)

/-- What changes none of it is aside. -/
theorem quiet (h : t.bearings = s.bearings) : Aside s t := by
  simp only [bearings, Prod.mk.injEq] at h
  obtain ⟨hending, hterminated, hclosed, hstopped, hscheduler, hconfig, hnow, hinbox, hcommands,
    hhistory⟩ := h
  exact ⟨hending, hterminated, hclosed, fun _ => hstopped, hscheduler, hconfig,
    Nat.le_of_eq hnow.symm,
    fun h => ⟨hinbox ▸ h, hcommands ▸ List.prefix_rfl⟩, [], by simp [hhistory], nofun⟩

theorem note {o : Occurrence} (ho : o.isSteering = false) : Aside s (s.note o) :=
  ⟨rfl, rfl, rfl, fun _ => rfl, rfl, rfl, Nat.le_refl _, fun h => ⟨h, List.prefix_rfl⟩,
    [(s.now, o)], rfl, fun o' ho' => by rw [List.mem_singleton.mp ho']; exact ho⟩

/-- What does not steer the end may be noted on the way. -/
theorem noted {o : Occurrence} (h : Aside s t) (ho : o.isSteering = false) : Aside s (t.note o) :=
  h.trans (.note ho)

/-- A command that is sent steers nothing before it is obeyed. -/
theorem send (c : SchedulerCommand) : Aside s (s.send c) := by
  obtain ⟨wakes, log, he⟩ := s.send_eq c
  rw [he]
  refine ⟨rfl, rfl, rfl, fun _ => rfl, rfl, rfl, Nat.le_refl _, fun h => ⟨h, ?_⟩,
    [(s.now, .command c)], rfl, ?_⟩
  · show s.commands <+: if s.inboxOpen then s.commands ++ [c] else s.commands
    rw [if_pos h]
    exact List.prefix_append _ _
  · rintro o ho
    rw [List.mem_singleton.mp ho]
    rfl

theorem setWork (id : Identity) (work : JobWork) : Aside s (s.setWork id work) :=
  .quiet rfl

/-- What is added to the record has nothing to do with the end. -/
theorem record (h : Aside s t) : ∃ os, t.record = s.record ++ os ∧
    ∀ o ∈ os, o.isSteering = false := by
  obtain ⟨os, hos, hno⟩ := h.history
  refine ⟨os.map Prod.snd, by simp [Service.record, hos], fun o ho => ?_⟩
  obtain ⟨x, hx, rfl⟩ := List.mem_map.mp ho
  exact hno x hx

/-- A projection of the record that sees only what concerns the end stays as it is. -/
theorem filterMap {α : Type} {f : Occurrence → Option α} (h : Aside s t)
    (hf : ∀ o, o.isSteering = false → f o = none) :
    t.record.filterMap f = s.record.filterMap f := by
  obtain ⟨os, hos, hno⟩ := h.record
  rw [hos, List.filterMap_append, List.filterMap_eq_nil_iff.mpr fun o ho => hf o (hno o ho),
    List.append_nil]

end Aside

/-! ## What is aside -/

/-- The work of jobs has nothing to do with the end. -/
theorem workStable_aside : WorkStable fun t => Aside s t where
  quiet _ _ _ _ h := h.trans (.quiet rfl)
  use _ _ h := Aside.noted (h.trans (.quiet rfl)) rfl
  note {_ o} ho hno h := h.noted (by cases o <;> first | rfl | cases ho <;> cases hno)
  settlement _ _ _ h := h.trans (.quiet rfl)
  resolve r _ h := by
    unfold resolved
    split
    · exact h.trans (.setWork _ _)
    · exact (h.trans (.setWork _ _)).noted rfl
  start c session _ h := by
    unfold started
    split
    · exact (h.trans (.setWork _ _)).noted rfl
    · exact (h.trans (.setWork _ _)).noted rfl
    · exact h
  fail _ _ h := h.noted rfl

/-- Sessions and plugins come and go without steering the end. -/
theorem sessionStable_aside : SessionStable fun t => Aside s t where
  quiet _ _ _ _ _ _ hstopped h := h.trans (.quiet (by simp only [bearings, hstopped]))
  draw h := h.trans (.quiet rfl)
  hub _ _ h := h.trans (.quiet rfl)
  note {_ o} ho h := h.noted (by cases o <;> first | rfl | cases ho)

/-- Nor does anything else that is done between two ends. -/
theorem routine_aside : Routine fun t => Aside s t where
  quiet := workStable_aside.quiet
  session := sessionStable_aside
  send c h := h.trans (.send c)
  set jobs _ hclosed h := h.trans (.quiet (by simp only [bearings, hclosed]))
  refuse _ message h := workStable_aside.refuse message (h.trans (.quiet rfl))
  place _ _ h := h.trans (.quiet rfl)
  answered _ _ h := h.noted rfl
  enroll {t} trigger connection _ h := by
    have hadded := h.noted (o := .jobAdded ⟨t.drawn⟩ (JobWork.ofTrigger trigger).kind) rfl
    have hsent := hadded.trans (.send .reset)
    obtain ⟨wakes, log, he⟩ :=
      (t.note (.jobAdded ⟨t.drawn⟩ (JobWork.ofTrigger trigger).kind)).send_eq .reset
    rw [he] at hsent
    exact hsent.trans (.quiet rfl)
  remove _ _ _ _ h :=
    (h.noted rfl).trans (.quiet rfl)
  wait _ h := h.trans ⟨rfl, rfl, rfl, fun _ => rfl, rfl, rfl, Nat.le_max_left _ _,
    fun h => ⟨h, List.prefix_rfl⟩, [], by simp [advanceTo], nofun⟩
  release h := h.trans (.quiet rfl)

/-- A scheduler that is through leaves its commands unread. -/
theorem aside_endScheduler (h : Aside s t) : Aside s (t.endScheduler k) :=
  h.trans ⟨rfl, rfl, rfl, fun _ => rfl, rfl, rfl, Nat.le_refl _, nofun, [],
    by simp [endScheduler, finish], nofun⟩

/-! ## Teardowns -/

/-- A service whose host has just been told that it is down. -/
def told (s : Service W) (reason : ShutdownReason) : Service W :=
  { s.note (.hostShutdown reason) with terminated := some reason }

/-- What a teardown does between its beginning and its conclusion is aside, and leaves
the set alone. -/
structure Dismantles (s t : Service W) : Prop extends Aside s t where
  jobs : t.jobs = s.jobs

namespace Dismantles

theorem refl : Dismantles s s := ⟨.refl, rfl⟩

/-- A service that is ending stops its shelf. -/
theorem halt (h : Dismantles s t) (hending : s.ending = true) :
    Dismantles s { t with shelf := { t.shelf with stopped := true } } := by
  refine ⟨h.toAside.trans ⟨rfl, rfl, rfl, fun halive => ?_, rfl, rfl, Nat.le_refl _,
    fun h => ⟨h, List.prefix_rfl⟩, [], by simp, nofun⟩, h.jobs⟩
  rw [h.toAside.ending, hending] at halive
  cases halive

theorem put (h : Dismantles s t) (a : Activity) : Dismantles s (t.put k a) :=
  ⟨routine_aside.put k a h.toAside, h.jobs⟩

theorem endScheduler (h : Dismantles s t) : Dismantles s (t.endScheduler k) :=
  ⟨aside_endScheduler h.toAside, h.jobs⟩

theorem answer (h : Dismantles s t) (c : CallAnswer) :
    Dismantles s (t.answer k c).cancelIfUnheld := by
  refine ⟨routine_aside.answer k c h.toAside, Eq.trans ?_ h.jobs⟩
  unfold cancelIfUnheld
  split
  · exact send_jobs .cancel
  · rfl

end Dismantles

theorem sessionStable_dismantles : SessionStable fun t => Dismantles s t where
  quiet world listeners listenersAdded shelf log wakes hstopped h :=
    ⟨sessionStable_aside.quiet world listeners listenersAdded shelf log wakes hstopped h.toAside,
      h.jobs⟩
  draw h := ⟨sessionStable_aside.draw h.toAside, h.jobs⟩
  hub hub hclosed h := ⟨sessionStable_aside.hub hub hclosed h.toAside, h.jobs⟩
  note ho h := ⟨sessionStable_aside.note ho h.toAside, h.jobs⟩

/-- Where a teardown has come from a point: it is under way, or the host has been told. -/
inductive Unfolds (s : Service W) (reason : ShutdownReason) : Service W × TeardownProgress →
    Prop where
  | waits {t : Service W} {stage : TeardownStage} :
      Dismantles s t → Unfolds s reason (t, .waits stage)
  | done {t u : Service W} :
      Dismantles s t → Dismantles (t.told reason) u → Unfolds s reason (u, .done ())

section
variable {reason : ShutdownReason}

theorem unfolds_afterClosing {r : Service W × DisconnectProgress} (h : Dismantles s r.1) :
    Unfolds s reason (afterClosing reason r) := by
  obtain ⟨t, progress⟩ := r
  cases progress with
  | waits stage => exact .waits h
  | done => exact .done h (sessionStable_dismantles.say _ _ _ (s := t.told reason) .refl)

/-- The hub closes aside, and the shelf stops aside. -/
theorem unfolds_afterStopping {r : Service W × PluginStopProgress} (h : Dismantles s r.1) :
    Unfolds s reason (afterStopping env k reason r) := by
  obtain ⟨t, progress⟩ := r
  cases progress with
  | waits stage => exact .waits h
  | done =>
    exact unfolds_afterClosing (sessionStable_dismantles.enterDisconnect h fun h =>
      ⟨h.toAside.trans (.quiet rfl), h.jobs⟩)

/-- A teardown begins by saying so, and then takes down what there is. -/
theorem unfolds_enterTeardown (halive : s.ending = false) :
    Unfolds ({ s with ending := true }.note (.teardownStarted reason)) reason
      (s.enterTeardown env k reason) := by
  simp only [enterTeardown, halive, Bool.false_eq_true, if_false]
  exact unfolds_afterStopping (sessionStable_dismantles.enterStop k
    (sessionStable_dismantles.say _ _ _ .refl) fun h => h.halt rfl)

/-- A teardown that goes on takes down more, or tells the host. -/
theorem unfolds_resumeTeardown {stage : TeardownStage} {r : Service W × TeardownProgress}
    (hending : s.ending = true) (hr : s.resumeTeardown env k reason stage = some r) :
    Unfolds s reason r := by
  cases stage with
  | stoppingPlugins stage =>
    obtain ⟨p, hp, rfl⟩ := Option.map_eq_some_iff.mp hr
    exact unfolds_afterStopping (sessionStable_dismantles.resumeStop hp .refl fun h =>
      h.halt hending)
  | closingConnection stage =>
    obtain ⟨p, hp, rfl⟩ := Option.map_eq_some_iff.mp hr
    exact unfolds_afterClosing (sessionStable_dismantles.resumeDisconnect hp .refl fun h =>
      ⟨h.toAside.trans (.quiet rfl), h.jobs⟩)

end

end Service

end PushWake
