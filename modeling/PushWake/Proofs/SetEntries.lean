import Mathlib.Data.List.Nodup
import PushWake.Proofs.JobLives
import PushWake.Proofs.RunInvariant

/-!
# What enters and leaves

A job enters the set in the very step that answers its trigger, and leaves it in the only step of
its reaper. The record tells who entered, who left and who was answered with what, and the
activities tell whose reapers still wait and whose bodies are under way. `Enters` says what a turn
adds to all of these; most turns add nothing.
-/

namespace PushWake

/-! ## What the record says -/

/-- The jobs that entered the set, in their order. -/
def entered (os : List Occurrence) : List Identity :=
  os.filterMap fun o =>
    match o with
    | .jobAdded id _ => some id
    | _ => none

/-- The jobs that left the set, in their order. -/
def departed (os : List Occurrence) : List Identity :=
  os.filterMap fun o =>
    match o with
    | .jobRemoved id _ => some id
    | _ => none

/-- The job that an answer is about. -/
def CallAnswer.job? : CallAnswer → Option Identity
  | .trigger (.ok id) => some id
  | _ => none

/-- Only a trigger that got its job is answered with one. -/
theorem CallAnswer.eq_of_job? {a : CallAnswer} {id : Identity} (h : a.job? = some id) :
    a = .trigger (.ok id) := by
  cases a with
  | trigger result =>
    cases result with
    | ok id' =>
      cases h
      rfl
    | error => cases h
  | _ => cases h

/-- The jobs that triggers were answered with, in the order of the answers. -/
def returned (os : List Occurrence) : List Identity := (answers os).filterMap fun a => a.2.job?

section
variable (os os' : List Occurrence)

@[simp] theorem entered_append : entered (os ++ os') = entered os ++ entered os' :=
  List.filterMap_append

@[simp] theorem departed_append : departed (os ++ os') = departed os ++ departed os' :=
  List.filterMap_append

@[simp] theorem returned_append : returned (os ++ os') = returned os ++ returned os' := by
  rw [returned, answers_append, List.filterMap_append]
  rfl

end

section
variable (k : Nat) (a : CallAnswer) (os : List Occurrence)

@[simp] theorem entered_answered : entered (.answered k a :: os) = entered os := rfl

@[simp] theorem returned_answered :
    returned (.answered k a :: os) = a.job?.toList ++ returned os := by
  cases h : a.job? <;> simp [returned, h]

end

section
variable (id : Identity) (o : JobOutcome) (os : List Occurrence)

@[simp] theorem entered_removed : entered (.jobRemoved id o :: os) = entered os := rfl

@[simp] theorem departed_removed : departed (.jobRemoved id o :: os) = id :: departed os := rfl

@[simp] theorem returned_removed : returned (.jobRemoved id o :: os) = returned os := rfl

end

/-- Whoever was taken in has entered. -/
theorem mem_entered {os : List Occurrence} {id : Identity} :
    id ∈ entered os ↔ ∃ kind, .jobAdded id kind ∈ os := by
  constructor
  · intro h
    obtain ⟨o, ho, he⟩ := List.mem_filterMap.mp h
    cases o with
    | jobAdded id' kind =>
      cases he
      exact ⟨kind, ho⟩
    | _ => cases he
  · rintro ⟨kind, ho⟩
    exact List.mem_filterMap.mpr ⟨_, ho, rfl⟩

/-- Whoever was taken out has departed, whatever the outcome. -/
theorem mem_departed {os : List Occurrence} {id : Identity} :
    id ∈ departed os ↔ ∃ o, .jobRemoved id o ∈ os := by
  constructor
  · intro h
    obtain ⟨o, ho, he⟩ := List.mem_filterMap.mp h
    cases o with
    | jobRemoved id' outcome =>
      cases he
      exact ⟨outcome, ho⟩
    | _ => cases he
  · rintro ⟨outcome, ho⟩
    exact List.mem_filterMap.mpr ⟨_, ho, rfl⟩

/-- No job enters twice. -/
theorem entered_nodup {os : List Occurrence} (h : Orderly Timely os) : (entered os).Nodup := by
  induction h with
  | nil => exact List.nodup_nil
  | @snoc os o _ ho ih =>
    rw [entered_append]
    cases o with
    | jobAdded id kind =>
      refine List.nodup_append.mpr ⟨ih, List.nodup_singleton _, ?_⟩
      rintro a ha b hb rfl
      cases List.mem_singleton.mp hb
      obtain ⟨kind', hmem⟩ := mem_entered.mp ha
      exact ho kind' hmem
    | _ => simpa [entered] using ih

namespace Service

variable {W : Type} {env : Collaborators W} {s s' s'' t : Service W} {k : Nat}
  {new new' : List (Identity × Nat)}

/-! ## Reapers -/

/-- The job and the completer that an activity reaps. -/
def reaped? : Activity → Option (Identity × Nat)
  | .reaper id c => some (id, c)
  | _ => none

/-- The jobs whose reapers wait, with their completers, in the order of registration. -/
def reapers (s : Service W) : List (Identity × Nat) := s.activities.filterMap fun a => reaped? a.2

/-- Reapers are found among the activities. -/
theorem mem_reapers {id : Identity} {c : Nat} :
    (id, c) ∈ s.reapers ↔ ∃ j, (j, .reaper id c) ∈ s.activities := by
  refine mem_gathered.trans ⟨?_, fun ⟨j, ha⟩ => ⟨j, _, ha, rfl⟩⟩
  rintro ⟨j, a, ha, he⟩
  cases a with
  | reaper id' c' =>
    cases he
    exact ⟨j, ha⟩
  | _ => cases he

theorem reapers_begin {a : Activity} (ha : reaped? a = none) : (s.begin a).reapers = s.reapers :=
  gathered_begin ha

/-- Whoever is no reaper before a turn is none after it. -/
theorem unreaped (hn : s.scene.Numbered) (hj : Joined s.scene t.scene) {a b : Activity}
    (ha : (k, a) ∈ s.activities) (hidle : reaped? a = none) (hb : (k, b) ∈ t.activities) :
    reaped? b = none := by
  rw [(hj.numbered hn).unique hb (hj.stays ha)]
  exact hidle

/-- Whoever is no reaper moves without changing the reapers. -/
theorem reapers_put {a : Activity} (hk : ∀ b, (k, b) ∈ s.activities → reaped? b = none)
    (ha : reaped? a = none) : (s.put k a).reapers = s.reapers :=
  gathered_put fun b hb => (hk b hb).trans ha.symm

theorem reapers_finish (hk : ∀ b, (k, b) ∈ s.activities → reaped? b = none) :
    (s.finish k).reapers = s.reapers :=
  gathered_finish hk

/-- A reaper that has finished is gone, and the others remain. -/
theorem reapers_finish_reaper (hn : s.scene.Numbered) {id : Identity} {c : Nat}
    (hk : (k, .reaper id c) ∈ s.activities) (hnodup : (s.reapers.map Prod.fst).Nodup) :
    (s.finish k).reapers.map Prod.fst = (s.reapers.map Prod.fst).erase id := by
  obtain ⟨before, after, he, -, hothers⟩ := activities_split hn hk
  have hreapers : s.reapers = before.filterMap (fun a => reaped? a.2) ++
      (id, c) :: after.filterMap (fun a => reaped? a.2) := by
    simp [reapers, he, reaped?]
  rw [hreapers, List.map_append, List.map_cons] at hnodup ⊢
  -- and nobody else waits for its job, so the job goes from the list where it stands
  have hfirst : id ∉ (before.filterMap fun a => reaped? a.2).map Prod.fst := by
    intro hid
    exact (List.nodup_append.mp hnodup).2.2 id hid id (List.mem_cons_self ..) rfl
  rw [reapers, hothers, List.filterMap_append, List.map_append, List.erase_append_right _ hfirst,
    List.erase_cons_head]

/-! ## Bodies -/

/-- The job of a body, and the completer that it was given. -/
def manned? : Activity → Option (Identity × Nat)
  | .body id c _ _ => some (id, c)
  | _ => none

/-- The jobs whose bodies are under way, with their completers, in the order of registration. -/
def bodies (s : Service W) : List (Identity × Nat) := s.gathered manned?

theorem mem_bodies {id : Identity} {c : Nat} {connection : Connection} {stage : BodyStage}
    (ha : (k, .body id c connection stage) ∈ s.activities) : (id, c) ∈ s.bodies :=
  mem_gathered.mpr ⟨k, _, ha, rfl⟩

/-- A body that comes to wait is still that of its job. -/
theorem bodies_put (hn : s.scene.Numbered) (hj : Joined s.scene t.scene) {a b : Activity}
    (ha : (k, a) ∈ s.activities) (hsame : manned? b = manned? a) :
    (t.put k b).bodies = t.bodies := by
  refine gathered_put fun c hc => ?_
  rw [(hj.numbered hn).unique hc (hj.stays ha), hsame]

/-- Whoever is over has no body under way any more. -/
theorem bodies_finish : (s.finish k).bodies.Sublist s.bodies :=
  List.filter_sublist.filterMap _

/-! ## What a turn adds -/

/-- What a turn adds to the set: to its members, to those who wait for them, to their bodies, and to
the record. -/
structure Enters (new : List (Identity × Nat)) (s s' : Service W) : Prop where
  ids : s'.jobs.ids = s.jobs.ids ++ new.map Prod.fst
  reapers : s'.reapers = s.reapers ++ new
  bodies : s'.bodies = s.bodies ++ new
  /-- A completer stays the one of its job. -/
  completers : ∀ (c : Nat) m, s.completers[c]? = some m →
    ∃ m', s'.completers[c]? = some m' ∧ m'.job = m.job
  known : ∀ r ∈ new, ∃ m, s'.completers[r.2]? = some m ∧ m.job = r.1
  record : ∃ os, s'.record = s.record ++ os ∧ entered os = new.map Prod.fst ∧ departed os = [] ∧
    answers os = []

namespace Enters

theorem refl : Enters [] s s where
  ids := by simp
  reapers := by simp
  bodies := by simp
  completers c m hm := ⟨m, hm, rfl⟩
  known := nofun
  record := ⟨[], by simp, rfl, rfl, rfl⟩

/-- What two turns add, they add one after the other. -/
theorem trans (h : Enters new s s') (h' : Enters new' s' s'') : Enters (new ++ new') s s'' where
  ids := by rw [h'.ids, h.ids, List.map_append, List.append_assoc]
  reapers := by rw [h'.reapers, h.reapers, List.append_assoc]
  bodies := by rw [h'.bodies, h.bodies, List.append_assoc]
  completers c m hm := by
    obtain ⟨m', hm', he⟩ := h.completers c m hm
    obtain ⟨m'', hm'', he'⟩ := h'.completers c m' hm'
    exact ⟨m'', hm'', he'.trans he⟩
  known r hr := by
    rcases List.mem_append.mp hr with hr | hr
    · obtain ⟨m, hm, he⟩ := h.known r hr
      obtain ⟨m', hm', he'⟩ := h'.completers r.2 m hm
      exact ⟨m', hm', he'.trans he⟩
    · exact h'.known r hr
  record := by
    obtain ⟨os, hr, he, hd, ha⟩ := h.record
    obtain ⟨os', hr', he', hd', ha'⟩ := h'.record
    exact ⟨os ++ os', by rw [hr', hr, List.append_assoc], by simp [he, he'], by simp [hd, hd'],
      by simp [ha, ha']⟩

/-- What is nothing to the members, the activities and the completers adds nothing. -/
theorem quiet (hids : s'.jobs.ids = s.jobs.ids) (ha : s'.activities = s.activities)
    (hc : s'.completers = s.completers) (hhistory : s'.history = s.history) : Enters [] s s' where
  ids := by simp [hids]
  reapers := by simp [Service.reapers, ha]
  bodies := by simp [Service.bodies, gathered, ha]
  completers c m hm := ⟨m, hc ▸ hm, rfl⟩
  known := nofun
  record := ⟨[], by simp [Service.record, hhistory], rfl, rfl, rfl⟩

theorem note {o : Occurrence} (ho : o.isTurningPoint = false) : Enters [] s (s.note o) where
  ids := by simp [Service.note]
  reapers := by simp [Service.reapers, Service.note]
  bodies := by simp [Service.bodies, gathered, Service.note]
  completers c m hm := ⟨m, hm, rfl⟩
  known := nofun
  record := by
    refine ⟨[o], record_note o, ?_⟩
    cases o with
    | jobAdded | jobCompleted | jobRemoved | answered => cases ho
    | _ => exact ⟨rfl, rfl, rfl⟩

/-- A completer that is used stays that of its job. -/
theorem use {c : Nat} {job : Identity} (o : JobOutcome) (hc : s.completers[c]? = some ⟨job, none⟩) :
    Enters [] s ({ s with completers := s.completers.set c ⟨job, some o⟩ }.note
      (.jobCompleted job c o)) where
  ids := by simp [Service.note]
  reapers := by simp [Service.reapers, Service.note]
  bodies := by simp [Service.bodies, gathered, Service.note]
  completers c' m hm := by
    show ∃ m', (s.completers.set c ⟨job, some o⟩)[c']? = some m' ∧ m'.job = m.job
    by_cases hcc : c = c'
    · subst hcc
      rw [List.getElem?_set_self (List.getElem?_eq_some_iff.mp hc).1]
      rw [hc] at hm
      cases hm
      exact ⟨_, rfl, rfl⟩
    · rw [List.getElem?_set_ne hcc]
      exact ⟨m, hm, rfl⟩
  known := nofun
  record := ⟨[.jobCompleted job c o], record_note _, rfl, rfl, rfl⟩

theorem begin {a : Activity} (ha : reaped? a = none) (hb : manned? a = none) :
    Enters [] s (s.begin a) where
  ids := by simp [Service.begin]
  reapers := by simp [reapers_begin ha]
  bodies := by simp [Service.bodies, gathered_begin hb]
  completers c m hm := ⟨m, hm, rfl⟩
  known := nofun
  record := ⟨[], by simp [Service.record, Service.begin], rfl, rfl, rfl⟩

theorem send (c : SchedulerCommand) : Enters [] s (s.send c) := by
  obtain ⟨_, _, he⟩ := s.send_eq c
  have hn : Enters [] s (s.note (.command c)) := .note rfl
  rw [he]
  exact hn.trans (.quiet rfl rfl rfl rfl)

/-- A job that is prepared has not entered yet. -/
theorem prepare (work : JobWork) : Enters [] s (s.prepared work) where
  ids := by simp [prepared]
  reapers := by simp [Service.reapers, prepared]
  bodies := by simp [Service.bodies, gathered, prepared]
  completers c m hm := by
    refine ⟨m, ?_, rfl⟩
    show (s.completers ++ [⟨⟨s.drawn⟩, none⟩])[c]? = some m
    rw [List.getElem?_append_left (List.getElem?_eq_some_iff.mp hm).1]
    exact hm
  known := nofun
  record := ⟨[], by simp [Service.record, prepared], rfl, rfl, rfl⟩

/-- The job of a trigger enters. -/
theorem enrolled (trigger : Trigger) (connection : Connection) :
    Enters [(⟨s.drawn⟩, s.completers.length)] s (s.enrolled trigger connection) where
  ids := by simp [Service.enrolled, JobSet.ids]
  reapers := by simp [Service.reapers, Service.enrolled, reaped?]
  bodies := by simp [Service.bodies, gathered, Service.enrolled, manned?]
  completers := (prepare (.ofTrigger trigger)).completers
  known r hr := by
    cases List.mem_singleton.mp hr
    exact ⟨⟨⟨s.drawn⟩, none⟩, by simp [Service.enrolled, prepared], rfl⟩
  record := ⟨[.jobAdded ⟨s.drawn⟩ (JobWork.ofTrigger trigger).kind, .command .reset],
    by simp [Service.record, Service.enrolled], rfl, rfl, rfl⟩

/-- No call is answered before a turn ends. -/
theorem unanswered (h : Enters new s s') {a : CallAnswer} :
    .answered k a ∈ s'.record ↔ .answered k a ∈ s.record := by
  obtain ⟨os, hr, -, -, hanswers⟩ := h.record
  rw [hr, List.mem_append]
  refine or_iff_left fun hos => ?_
  have hmem := mem_answers.mpr hos
  rw [hanswers] at hmem
  cases hmem

end Enters

/-- Work adds nobody: jobs enter by triggers and leave by reapers. -/
theorem workBlind_enters : WorkBlind fun t => Enters [] s t where
  quiet _ _ _ _ _ h := h.trans (.quiet rfl rfl rfl rfl)
  use o hc h := h.trans (.use o hc)
  note ho h := h.trans (.note (not_isTurningPoint_of_isWork ho))
  settlement _ _ _ h := h.trans (.begin rfl rfl)

theorem workStable_enters : WorkStable fun t => Enters [] s t := workBlind_enters.stable

theorem sessionStable_enters : SessionStable fun t => Enters [] s t where
  quiet _ _ _ _ _ _ _ h := h.trans (.quiet rfl rfl rfl rfl)
  draw h := h.trans (.quiet rfl rfl rfl rfl)
  hub _ _ h := h.trans (.quiet rfl rfl rfl rfl)
  note ho h := h.trans (.note (not_isTurningPoint_of_isDealing ho))

/-- Errands and teardowns add nobody. -/
theorem steady_enters : Steady fun t => Enters [] s t where
  quiet := workStable_enters.quiet
  session := sessionStable_enters
  hub _ h := h.trans (.quiet rfl rfl rfl rfl)
  shelf _ h := h.trans (.quiet rfl rfl rfl rfl)
  signal id _ h := workBlind_enters.signal id h
  close h := h.trans (.quiet rfl rfl rfl rfl)
  send c h := h.trans (.send c)
  set _ hids _ h := h.trans (.quiet hids rfl rfl rfl)
  refuse _ message h := workStable_enters.refuse message (h.trans (.prepare _))
  start {_ reason} _ h :=
    (h.trans (.note (o := .teardownStarted reason) rfl)).trans (.quiet rfl rfl rfl rfl)
  tell _ h := (h.trans (.note rfl)).trans (.quiet rfl rfl rfl rfl)

theorem deskStable_enters : DeskStable fun t => Enters [] s t where
  desk _ _ h := h.trans (.quiet rfl rfl rfl rfl)
  note ho h := h.trans (.note (not_isTurningPoint_of_isClockwork ho))
  start h :=
    (h.trans (.note (o := .teardownStarted .emptyDelay) rfl)).trans (.quiet rfl rfl rfl rfl)

end Service

end PushWake
