import PushWake.Proofs.Members
import PushWake.Proofs.RunRecord
import PushWake.Service.Step

/-!
# The operations on the set, written out

A command, and the registration of a job, in terms of the fields they change. What they log and whom
they wake is left open.
-/

namespace PushWake.Service

variable {W : Type} {env : Collaborators W} {s : Service W} {k : Nat}

/-! ## Sending -/

theorem wakeScheduler_eq : ∃ wakes, s.wakeScheduler = { s with wakes } := by
  unfold wakeScheduler
  split
  · exact ⟨_, rfl⟩
  · exact ⟨_, rfl⟩

/-- A command is noted, and waits if somebody reads the commands. -/
theorem send_eq (c : SchedulerCommand) : ∃ wakes log, s.send c =
    { s with
      commands := if s.inboxOpen then s.commands ++ [c] else s.commands
      history := s.history ++ [(s.now, .command c)]
      wakes
      log } := by
  unfold send
  split
  · obtain ⟨wakes, hw⟩ :=
      wakeScheduler_eq (s := { s with commands := s.commands ++ [c] }.note (.command c))
    exact ⟨wakes, s.log, hw⟩
  · exact ⟨s.wakes, _, rfl⟩

@[simp] theorem send_jobs (c : SchedulerCommand) : (s.send c).jobs = s.jobs := by
  obtain ⟨_, _, he⟩ := s.send_eq c
  rw [he]

@[simp] theorem send_hub (c : SchedulerCommand) : (s.send c).hub = s.hub := by
  obtain ⟨_, _, he⟩ := s.send_eq c
  rw [he]

@[simp] theorem send_ending (c : SchedulerCommand) : (s.send c).ending = s.ending := by
  obtain ⟨_, _, he⟩ := s.send_eq c
  rw [he]

@[simp] theorem send_inboxOpen (c : SchedulerCommand) : (s.send c).inboxOpen = s.inboxOpen := by
  obtain ⟨_, _, he⟩ := s.send_eq c
  rw [he]

theorem send_history (c : SchedulerCommand) :
    (s.send c).history = s.history ++ [(s.now, .command c)] := by
  obtain ⟨_, _, he⟩ := s.send_eq c
  rw [he]

@[simp] theorem record_send (c : SchedulerCommand) :
    (s.send c).record = s.record ++ [.command c] := by
  simp [record, send_history]

/-! ## Completers -/

theorem wakeReaper_eq (c : Nat) : ∃ wakes, s.wakeReaper c = { s with wakes } := by
  unfold wakeReaper
  split
  · exact ⟨_, rfl⟩
  · exact ⟨_, rfl⟩

/-- The first use of a completer. -/
theorem complete_eq {c : Nat} {owner : Identity}
    (hc : s.completers[c]? = some ⟨owner, none⟩) (o : JobOutcome) :
    ∃ wakes, s.complete c o =
      { s with completers := s.completers.set c ⟨owner, some o⟩, wakes }.note
        (.jobCompleted owner c o) := by
  have he : s.complete c o = ({ s with completers := s.completers.set c ⟨owner, some o⟩ }.note
      (.jobCompleted owner c o)).wakeReaper c := by
    rw [complete, hc]
  rw [he]
  exact wakeReaper_eq c

/-- A completer has been used before, or it is used now. -/
theorem complete_cases (s : Service W) (c : Nat) (o : JobOutcome) :
    s.complete c o = s ∨ ∃ owner wakes, s.completers[c]? = some ⟨owner, none⟩ ∧
      s.complete c o = { s with completers := s.completers.set c ⟨owner, some o⟩, wakes }.note
        (.jobCompleted owner c o) := by
  unfold complete
  split
  case h_2 => exact .inl rfl
  case h_1 owner hc =>
    obtain ⟨wakes, he⟩ := complete_eq hc o
    rw [complete, hc] at he
    exact .inr ⟨owner, wakes, hc, he⟩

/-- A completer that is used changes nothing but completers and what was recorded of them. -/
theorem complete_eq_with (c : Nat) (o : JobOutcome) : ∃ completers history wakes,
    s.complete c o = { s with completers, history, wakes } := by
  obtain he | ⟨owner, wakes, -, he⟩ := s.complete_cases c o
  · exact ⟨_, _, _, he⟩
  · exact ⟨_, _, wakes, he⟩

/-! ## Registering -/

/-- A service with a job more: it has a completer, and it is in the set. -/
def registered (s : Service W) (id : Identity) (kind : JobKind) : Service W :=
  { s.note (.jobAdded id kind) with
    completers := s.completers ++ [⟨id, none⟩]
    jobs := { s.jobs with entries := s.jobs.entries ++ [⟨id, kind, .pending⟩] } }

/-- An open set takes a job, and somebody waits for its completer. -/
theorem addJob_of_open (hopen : s.jobs.closed = false) (id : Identity) (kind : JobKind) :
    ∃ message, s.addJob id kind =
      ((((s.registered id kind).send .reset).say "registry" .debug message).spawn
        (.reaper id s.completers.length), some s.completers.length) := by
  simp only [addJob, newCompleter, JobSet.add_open hopen, if_true, change]
  exact ⟨_, rfl⟩

/-- A closed set takes no job, and the completer goes away. -/
theorem addJob_of_closed (hclosed : s.jobs.closed = true) (id : Identity) (kind : JobKind) :
    ∃ message, s.addJob id kind =
      (((s.newCompleter id).1.say "registry" .debug message).dropCompleter s.completers.length,
        none) := by
  simp only [addJob, newCompleter, JobSet.add_closed hclosed, JobSet.unchanged, Bool.false_eq_true,
    if_false]
  exact ⟨_, rfl⟩

/-- A service that has drawn an identity for a job and keeps its work. -/
def drawnFor (s : Service W) (work : JobWork) : Service W :=
  { s with drawn := s.drawn + 1, works := s.works ++ [(⟨s.drawn⟩, work)] }

/-- A service that has drawn an identity for a job, and keeps its work and its completer. -/
def prepared (s : Service W) (work : JobWork) : Service W :=
  { s with
    drawn := s.drawn + 1
    works := s.works ++ [(⟨s.drawn⟩, work)]
    completers := s.completers ++ [⟨⟨s.drawn⟩, none⟩] }

/-- A service with the job of a trigger: the scheduler has been told, somebody waits for the
completer, and the body is about to begin. -/
def enrolled (s : Service W) (trigger : Trigger) (connection : Connection) : Service W :=
  let work := JobWork.ofTrigger trigger
  { s.prepared work with
    jobs := { s.jobs with entries := s.jobs.entries ++ [⟨⟨s.drawn⟩, work.kind, .pending⟩] }
    commands := if s.inboxOpen then s.commands ++ [.reset] else s.commands
    history := s.history ++ [(s.now, .jobAdded ⟨s.drawn⟩ work.kind)] ++ [(s.now, .command .reset)]
    activities := s.activities ++ [(s.begun, .reaper ⟨s.drawn⟩ s.completers.length)] ++
      [(s.begun + 1, .body ⟨s.drawn⟩ s.completers.length connection .fresh)]
    begun := s.begun + 2 }

/-- A trigger whose session is there gets a job while the set is open. -/
theorem beginJob_of_open (hopen : s.jobs.closed = false) (trigger : Trigger)
    (connection : Connection) : ∃ wakes log, s.beginJob trigger connection =
      ({ s.enrolled trigger connection with wakes, log }, .done (.ok ⟨s.drawn⟩)) := by
  obtain ⟨message, ha⟩ := (s.drawnFor (.ofTrigger trigger)).addJob_of_open hopen ⟨s.drawn⟩
    (JobWork.ofTrigger trigger).kind
  obtain ⟨wakes, log, hs⟩ := ((s.drawnFor (.ofTrigger trigger)).registered ⟨s.drawn⟩
    (JobWork.ofTrigger trigger).kind).send_eq .reset
  rw [hs, drawnFor] at ha
  refine ⟨(s.beginJob trigger connection).1.wakes, (s.beginJob trigger connection).1.log, ?_⟩
  simp only [beginJob, draw, ha]
  rfl

/-- It gets none once the set is closed. -/
theorem beginJob_of_closed (hclosed : s.jobs.closed = true) (trigger : Trigger)
    (connection : Connection) : ∃ refused dropped, s.beginJob trigger connection =
      ((((s.prepared (.ofTrigger trigger)).say "registry" .debug refused).dropCompleter
        s.completers.length).say "service" .warn dropped, .done (.error .shutDown)) := by
  obtain ⟨message, ha⟩ := (s.drawnFor (.ofTrigger trigger)).addJob_of_closed hclosed ⟨s.drawn⟩
    (JobWork.ofTrigger trigger).kind
  rw [drawnFor] at ha
  simp only [beginJob, draw, ha]
  exact ⟨message, _, rfl⟩

/-! ## Beginning -/

/-- A service in which the body of a job may have been marked as running. -/
def Marked (s t : Service W) : Prop :=
  ∃ entries : List JobEntry, entries.map JobEntry.id = s.jobs.ids ∧
    t = { s with jobs := { s.jobs with entries } }

theorem Marked.refl : Marked s s := ⟨s.jobs.entries, rfl, rfl⟩

theorem marked_markRunning (id : Identity) : Marked s (s.markRunning id).1 := by
  obtain ⟨entries, hids, hset, hcommand⟩ := s.jobs.markRunning_eq id
  refine ⟨entries, hids, ?_⟩
  simp only [markRunning, change, hcommand, hset]

/-! ## Removing -/

theorem sayOutcome_eq (e : JobEntry) (o : JobOutcome) :
    ∃ log, s.sayOutcome e o = { s with log } := by
  cases o with
  | completed => exact ⟨_, rfl⟩
  | failed => exact ⟨_, rfl⟩

/-- A member that is removed leaves the others as they were, and whoever leaves an open set empty
tells the scheduler. -/
theorem removeJob_of_find {id : Identity} {e : JobEntry} (h : s.jobs.find? id = some e)
    (o : JobOutcome) : ∃ left log, left.map JobEntry.id = s.jobs.ids.erase id ∧
      (s.removeJob id o).1 = change { s.note (.jobRemoved id o) with log }
        ⟨{ s.jobs with entries := left }, true,
          if left.isEmpty && !s.jobs.closed then some .armEmptyDelay else none⟩ := by
  obtain ⟨left, hids, hremove⟩ := JobSet.remove_of_find h
  obtain ⟨log, hlog⟩ := (s.note (.jobRemoved id o)).sayOutcome_eq e o
  refine ⟨left, log, hids, ?_⟩
  simp only [removeJob, h, hlog, ← hremove]
  rfl

/-! ## The scheduler -/

theorem sayCommand_eq (c : SchedulerCommand) : ∃ log, s.sayCommand c = { s with log } := by
  cases c with
  | reset =>
    simp only [sayCommand]
    split <;> exact ⟨_, rfl⟩
  | armEmptyDelay =>
    simp only [sayCommand]
    split <;> exact ⟨_, rfl⟩
  | cancel => exact ⟨_, rfl⟩

/-- A command that is dealt with changes the deadlines, and only the last one ends the scheduler. -/
theorem obey_eq (c : SchedulerCommand) : ∃ log, s.obey c =
    ({ s with
        scheduler := s.scheduler.obey s.config.timeouts s.now c
        history := s.history ++ [(s.now, .obeyed c)]
        log },
      if c = .cancel then .done () else .waits .listening) := by
  obtain ⟨log, he⟩ := (s.note (.obeyed c)).sayCommand_eq c
  refine ⟨log, ?_⟩
  simp only [obey, he]
  rfl

/-- The delay is over for nothing where there are jobs or the set is closed. -/
theorem emptyOver_of_busy (env : Collaborators W) (k : Nat)
    (h : ¬(s.jobs.closed = false ∧ s.jobs.entries = [])) : ∃ log,
    s.emptyOver env k = ({ s with
        scheduler := s.scheduler.forgetEmpty.publish
        history := s.history ++ [(s.now, .expired .empty)]
        log }, .waits .listening) := by
  have hnot : s.jobs.closeIfEmpty = s.jobs.unchanged := by
    unfold JobSet.closeIfEmpty
    split
    · rfl
    · rename_i hc
      exact absurd (by simpa using hc) h
  simp only [emptyOver, closeIfEmpty, note, schedule, hnot, JobSet.unchanged, change]
  exact ⟨_, rfl⟩

/-- A service whose delay is over with nothing left to do: the set is closed, and the deadlines have
gone. -/
def idled (s : Service W) (log : List (Nat × LogLine)) : Service W :=
  { s with
    jobs := { s.jobs with closed := true }
    scheduler := s.scheduler.forgetEmpty.fire .emptyDelay
    history := s.history ++ [(s.now, .expired .empty)]
    log }

/-- Then the service ends. -/
theorem emptyOver_of_idle (env : Collaborators W) (k : Nat) (hopen : s.jobs.closed = false)
    (he : s.jobs.entries = []) : ∃ log,
    s.emptyOver env k =
      afterTeardown .emptyDelay ((s.idled log).enterTeardown env k .emptyDelay) := by
  have hclose : s.jobs.closeIfEmpty = ⟨{ s.jobs with closed := true }, true, none⟩ := by
    simp [JobSet.closeIfEmpty, hopen, he]
  simp only [emptyOver, closeIfEmpty, note, schedule, hclose, change]
  exact ⟨_, rfl⟩

end PushWake.Service
