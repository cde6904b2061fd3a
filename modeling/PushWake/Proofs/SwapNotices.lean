import PushWake.Collaborators.Plan
import PushWake.Proofs.JobsToldFirst

/-!
# What a swap job shows

A swap job shows one notification, when it is resolved and its body has begun: whichever comes
later. `Heard` says how its phase goes with the record: a job that waits has shown nothing and has
not been told that the service ends, and one that is done has shown one thing. A job that has been
told is resolved, so it waits no more. If its body had begun by then, the user has been told before
the host is; if not, the resolution is kept until the body begins, and that may be after the host
has been told.
-/

namespace PushWake

/-! ## What the record says of a job -/

/-- What a job has shown. -/
def notices (id : Identity) (os : List Occurrence) : List Notification :=
  os.filterMap fun o =>
    match o with
    | .notify job n => if job = id then some n else none
    | _ => none

/-- Whether the body of a swap job has begun to wait. -/
def Awaited (id : Identity) (os : List Occurrence) : Prop := ∃ session, .sync session id ∈ os

/-- Whether something shows how far a certain job has come. -/
def Occurrence.isMilestoneOf (id : Identity) : Occurrence → Bool
  | .sync _ job => job == id
  | .notify job _ => job == id
  | .jobShutdown job => job == id
  | _ => false

/-- What the record says of a swap job in each of its phases. -/
def SwapPhase.Accords (id : Identity) (os : List Occurrence) : SwapPhase → Prop
  | .pending early => notices id os = [] ∧ ¬Awaited id os ∧ (early = none → .jobShutdown id ∉ os)
  | .waiting _ => notices id os = [] ∧ .jobShutdown id ∉ os
  | .done => ∃ n, notices id os = [n]

/-- What the record says of a job, if there is such a job. -/
def Accords (id : Identity) (os : List Occurrence) : Option JobWork → Prop
  | none => notices id os = [] ∧ ¬Awaited id os ∧ .jobShutdown id ∉ os
  | some (.swap job) => job.phase.Accords id os
  | some (.payInfo _) => ¬Awaited id os
  | some (.payInvoice _) => ¬Awaited id os

/-- What a swap job that waited has shown once it was told, and before the host was. -/
def Heeded (os : List Occurrence) : Occurrence → Prop
  | .notify id n => Awaited id os → .jobShutdown id ∈ os → n = Resolution.cancelled.notification
  | .hostShutdown _ => ∀ id, Awaited id os → .jobShutdown id ∈ os → ∃ n, notices id os = [n]
  | _ => True

section
variable {id : Identity} {os os' : List Occurrence} {o : Occurrence} {work : Option JobWork}

@[simp] theorem notices_append : notices id (os ++ os') = notices id os ++ notices id os' :=
  List.filterMap_append

theorem mem_notices {n : Notification} : n ∈ notices id os ↔ .notify id n ∈ os :=
  mem_view fun o _ => by cases o <;> simp

@[simp] theorem notices_notify (n : Notification) : notices id [.notify id n] = [n] := by
  simp [notices]

@[simp] theorem notices_sync (session : Nat) (job : Identity) :
    notices id [.sync session job] = [] :=
  rfl

@[simp] theorem notices_jobShutdown (job : Identity) : notices id [.jobShutdown job] = [] := rfl

theorem notices_eq_nil (ho : o.isMilestoneOf id = false) : notices id [o] = [] := by
  cases o with
  | notify job n =>
    have hne : job ≠ id := by simpa [Occurrence.isMilestoneOf] using ho
    simp [notices, hne]
  | _ => rfl

theorem Awaited.append (h : Awaited id os) (os' : List Occurrence) : Awaited id (os ++ os') := by
  obtain ⟨session, hmem⟩ := h
  exact ⟨session, List.mem_append_left _ hmem⟩

theorem awaited_of_snoc (ho : ∀ session, o ≠ .sync session id) (h : Awaited id (os ++ [o])) :
    Awaited id os := by
  obtain ⟨session, hmem⟩ := h
  exact ⟨session, (List.mem_append.mp hmem).resolve_right fun hlast =>
    ho session (List.mem_singleton.mp hlast).symm⟩

theorem told_of_snoc (ho : o ≠ .jobShutdown id) (h : .jobShutdown id ∈ os ++ [o]) :
    .jobShutdown id ∈ os :=
  (List.mem_append.mp h).resolve_right fun hlast => ho (List.mem_singleton.mp hlast).symm

/-- Only what a job has shown, whether it has begun to wait and whether it has been told matter. -/
theorem Accords.congr (h : Accords id os work) (hnotices : notices id os' = notices id os)
    (hawaited : Awaited id os' → Awaited id os)
    (htold : .jobShutdown id ∈ os' → .jobShutdown id ∈ os) : Accords id os' work := by
  cases work with
  | none => exact ⟨hnotices.trans h.1, fun ha => h.2.1 (hawaited ha), fun ht => h.2.2 (htold ht)⟩
  | some work =>
    cases work with
    | swap job =>
      obtain ⟨digest, status, phase⟩ := job
      cases phase with
      | pending early =>
        exact ⟨hnotices.trans h.1, fun ha => h.2.1 (hawaited ha), fun he ht => h.2.2 he (htold ht)⟩
      | waiting => exact ⟨hnotices.trans h.1, fun ht => h.2 (htold ht)⟩
      | done =>
        obtain ⟨n, hn⟩ := h
        exact ⟨n, hnotices.trans hn⟩
    | payInfo | payInvoice => exact fun ha => h (hawaited ha)

/-- What says nothing of a job changes nothing about it. -/
theorem Accords.snoc (h : Accords id os work) (ho : o.isMilestoneOf id = false) :
    Accords id (os ++ [o]) work := by
  refine h.congr (by rw [notices_append, notices_eq_nil ho, List.append_nil])
    (awaited_of_snoc ?_) (told_of_snoc ?_)
  · rintro session rfl
    simp [Occurrence.isMilestoneOf] at ho
  · rintro rfl
    simp [Occurrence.isMilestoneOf] at ho

theorem Accords.append (h : Accords id os work) (hno : ∀ o ∈ os', o.isMilestoneOf id = false) :
    Accords id (os ++ os') work := by
  induction os' generalizing os with
  | nil => rwa [List.append_nil]
  | cons o os' ih =>
    have hlater := ih (h.snoc (hno o List.mem_cons_self)) fun o' ho' =>
      hno o' (List.mem_cons_of_mem _ ho')
    simpa using hlater

theorem isMilestoneOf_sync {id' : Identity} (session : Nat) (h : id' ≠ id) :
    (Occurrence.sync session id).isMilestoneOf id' = false := by
  simpa [Occurrence.isMilestoneOf] using h.symm

theorem isMilestoneOf_jobShutdown {id' : Identity} (h : id' ≠ id) :
    (Occurrence.jobShutdown id).isMilestoneOf id' = false := by
  simpa [Occurrence.isMilestoneOf] using h.symm

theorem isMilestoneOf_notify {id' : Identity} (n : Notification) (h : id' ≠ id) :
    (Occurrence.notify id n).isMilestoneOf id' = false := by
  simpa [Occurrence.isMilestoneOf] using h.symm

theorem not_isMilestoneOf (ho : o.isMilestone = false) (id : Identity) :
    o.isMilestoneOf id = false := by
  cases o <;> first | rfl | cases ho

end

namespace Service

variable {W : Type} {env : Collaborators W} {s s' t : Service W} {k : Nat} {id : Identity}
  {job : SwapJob}

/-! ## Works -/

/-- Work that is set is found where it was. -/
theorem work?_setWork_eq (id' : Identity) (work : JobWork) : (s.setWork id work).work? id' =
    (s.work? id').map fun w => if id' = id then work else w := by
  have hkey : ((fun w : Identity × JobWork => w.1 == id') ∘ fun w =>
      if w.1 == id then (id, work) else w) = fun w => w.1 == id' := by
    funext w
    by_cases hw : w.1 = id
    · simp [hw]
    · simp [hw]
  simp only [work?, setWork, List.find?_map, hkey, Option.map_map]
  cases hf : s.works.find? fun w => w.1 == id' with
  | none => rfl
  | some w =>
    have hw : w.1 = id' := by simpa using List.find?_some hf
    by_cases hid : id' = id
    · simp [hw, hid]
    · simp [hw, hid]

theorem work?_setWork (work : JobWork) (h : s.work? id ≠ none) :
    (s.setWork id work).work? id = some work := by
  obtain ⟨w, hw⟩ := Option.ne_none_iff_exists'.mp h
  simp [work?_setWork_eq, hw]

theorem work?_setWork_of_ne {id' : Identity} (work : JobWork) (h : id' ≠ id) :
    (s.setWork id work).work? id' = s.work? id' := by
  simp [work?_setWork_eq, h]

theorem work?_prepared {work work' : JobWork} (h : s.work? id = some work') :
    (s.prepared work).work? id = some work' := by
  obtain ⟨w, hw, hwork⟩ := Option.map_eq_some_iff.mp h
  simp [work?, prepared, List.find?_append, hw, hwork]

theorem work?_prepared_of_none {work : JobWork} (h : s.work? id = none) :
    (s.prepared work).work? id = if id = ⟨s.drawn⟩ then some work else none := by
  have hnone : (s.works.find? fun w => w.1 == id) = none := Option.map_eq_none_iff.mp h
  by_cases hid : id = ⟨s.drawn⟩
  · subst hid
    simp [work?, prepared, List.find?_append, hnone]
  · simp [work?, prepared, List.find?_append, hnone, hid, Ne.symm hid]

/-! ## Between any two changes -/

/-- How jobs go with the record, and the record with itself. -/
structure Heard (s : Service W) : Prop where
  accords : ∀ id, Accords id s.record (s.work? id)
  members : ∀ id ∈ s.jobs.ids, s.work? id ≠ none
  heeded : Orderly Heeded s.record

namespace Heard

/-- What is nothing to jobs and to the record changes nothing. -/
theorem quiet (h : Heard s) (hworks : t.works = s.works) (hids : t.jobs.ids = s.jobs.ids)
    (hhistory : t.history = s.history) : Heard t := by
  have hwork : ∀ id, t.work? id = s.work? id := fun id => by rw [work?, work?, hworks]
  have hrecord : t.record = s.record := by rw [record, record, hhistory]
  refine ⟨fun id => ?_, fun id hid => ?_, ?_⟩
  · rw [hrecord, hwork]
    exact h.accords id
  · rw [hwork]
    exact h.members id (hids ▸ hid)
  · rw [hrecord]
    exact h.heeded

/-- What is no milestone of a job, and does not tell the host that the service is down,
is no news. -/
theorem note (h : Heard s) {o : Occurrence} (ho : o.isMilestone = false)
    (hhost : ∀ reason, o ≠ .hostShutdown reason) : Heard (s.note o) := by
  refine ⟨fun id => ?_, h.members, ?_⟩
  · rw [record_note]
    exact (h.accords id).snoc (not_isMilestoneOf ho id)
  · rw [record_note]
    refine h.heeded.snoc ?_
    cases o with
    | notify => cases ho
    | hostShutdown reason => exact absurd rfl (hhost reason)
    | _ => trivial

/-- A job comes further, and what it does is noted. -/
theorem progress (h : Heard s) (id : Identity) {os : List Occurrence}
    (hrecord : t.record = s.record ++ os) (hids : t.jobs.ids = s.jobs.ids)
    (hothers : ∀ id', id' ≠ id → t.work? id' = s.work? id')
    (hno : ∀ id', id' ≠ id → ∀ o ∈ os, o.isMilestoneOf id' = false) (hknown : t.work? id ≠ none)
    (hown : Accords id t.record (t.work? id)) (hheeded : Orderly Heeded t.record) : Heard t := by
  refine ⟨fun id' => ?_, fun id' hid => ?_, hheeded⟩
  · by_cases hid : id' = id
    · rw [hid]
      exact hown
    · rw [hothers id' hid, hrecord]
      exact (h.accords id').append (hno id' hid)
  · by_cases he : id' = id
    · rw [he]
      exact hknown
    · rw [hothers id' he]
      exact h.members id' (hids ▸ hid)

/-- A swap job comes to another phase, and what it does is noted. -/
theorem swapTo (h : Heard s) (hw : s.work? id ≠ none) (job : SwapJob) (os : List Occurrence)
    (hrecord : t.record = s.record ++ os) (hworks : t.works = (s.setWork id (.swap job)).works)
    (hids : t.jobs.ids = s.jobs.ids)
    (hno : ∀ id', id' ≠ id → ∀ o ∈ os, o.isMilestoneOf id' = false)
    (hown : job.phase.Accords id (s.record ++ os)) (hheeded : Orderly Heeded (s.record ++ os)) :
    Heard t := by
  have hwork : ∀ id', t.work? id' = (s.setWork id (.swap job)).work? id' := fun id' => by
    rw [work?, work?, hworks]
  have hset : t.work? id = some (.swap job) := (hwork id).trans (work?_setWork _ hw)
  refine h.progress id hrecord hids (fun id' hid => ?_) hno ?_ ?_ ?_
  · rw [hwork]
    exact work?_setWork_of_ne _ hid
  · exact hset.trans_ne (Option.some_ne_none _)
  · rw [hset, hrecord]
    exact hown
  · rw [hrecord]
    exact hheeded

/-- It does one thing. -/
theorem phase (h : Heard s) (hw : s.work? id ≠ none) (job : SwapJob) (o : Occurrence)
    (ho : ∀ id', id' ≠ id → o.isMilestoneOf id' = false)
    (hown : job.phase.Accords id (s.record ++ [o])) (hheeded : Heeded s.record o) :
    Heard ((s.setWork id (.swap job)).note o) := by
  refine h.swapTo hw job [o] (record_note o) rfl rfl (fun id' hid o' ho' => ?_) hown
    (h.heeded.snoc hheeded)
  rw [List.mem_singleton.mp ho']
  exact ho id' hid

/-- It does nothing. -/
theorem rework (h : Heard s) (hw : s.work? id ≠ none) (job : SwapJob)
    (hown : job.phase.Accords id s.record) : Heard (s.setWork id (.swap job)) := by
  refine h.swapTo hw job [] (List.append_nil _).symm rfl rfl (fun _ _ => nofun) ?_ ?_
  · rwa [List.append_nil]
  · rw [List.append_nil]
    exact h.heeded

/-- What is known of a swap job. -/
theorem swap (h : Heard s) (hw : s.work? id = some (.swap job)) :
    job.phase.Accords id s.record := by
  have ha := h.accords id
  rwa [hw] at ha

/-- A job that waits shows its resolution, and has not been told before. -/
theorem resolved (h : Heard s) (r : Resolution) (hw : s.work? id = some (.swap job)) :
    Heard (s.resolved id job r) := by
  have hknown : s.work? id ≠ none := hw.trans_ne (Option.some_ne_none _)
  have hown := h.swap hw
  cases hphase : job.phase with
  | pending early =>
    rw [hphase] at hown
    cases early with
    | none =>
      -- nothing can be shown yet: the resolution is kept
      simp only [Service.resolved, SwapJob.resolve, hphase]
      exact h.rework hknown _ ⟨hown.1, hown.2.1, nofun⟩
    | some early =>
      simp only [Service.resolved, SwapJob.resolve, hphase]
      exact h.rework hknown _ (hphase ▸ hown)
  | waiting c =>
    rw [hphase] at hown
    simp only [Service.resolved, SwapJob.resolve, hphase]
    exact h.phase hknown _ _ (fun _ => isMilestoneOf_notify r.notification)
      ⟨r.notification, by simp [hown.1]⟩ fun _ ht => absurd ht hown.2
  | done =>
    simp only [Service.resolved, SwapJob.resolve, hphase]
    exact h.rework hknown _ (hphase ▸ hphase ▸ hown)

/-- A body that begins shows a resolution that came early, or begins to wait. -/
theorem started (h : Heard s) (c session : Nat) (hw : s.work? id = some (.swap job)) :
    Heard (s.started id job c session) := by
  have hknown : s.work? id ≠ none := hw.trans_ne (Option.some_ne_none _)
  have hown := h.swap hw
  cases hphase : job.phase with
  | pending early =>
    rw [hphase] at hown
    cases early with
    | none =>
      simp only [Service.started, SwapJob.start, hphase]
      refine h.phase hknown _ _ (fun _ => isMilestoneOf_sync session)
        ⟨by simp [hown.1], fun ht => ?_⟩ trivial
      exact hown.2.2 rfl (told_of_snoc (o := .sync session id) nofun ht)
    | some r =>
      simp only [Service.started, SwapJob.start, hphase]
      exact h.phase hknown _ _ (fun _ => isMilestoneOf_notify r.notification)
        ⟨r.notification, by simp [hown.1]⟩ fun ha => absurd ha hown.2.1
  | waiting | done =>
    simp only [Service.started, SwapJob.start, hphase]
    exact h

/-- A job that owes a reply waits for no swap, and nothing is expected of what it shows. -/
theorem owed (h : Heard s) (hw : s.OwesReply id) (o : Occurrence)
    (ho : ∀ id', id' ≠ id → o.isMilestoneOf id' = false) (hsync : ∀ session, o ≠ .sync session id)
    (hheeded : ¬Awaited id s.record → Heeded s.record o) : Heard (s.note o) := by
  obtain ⟨work, hwork, hnot⟩ := hw
  have hunwaited : ¬Awaited id s.record := by
    have ha := h.accords id
    rw [hwork] at ha
    cases work with
    | swap job => exact absurd rfl (hnot job)
    | payInfo | payInvoice => exact ha
  have hwork' : (s.note o).work? id = some work := hwork
  refine h.progress id (record_note o) rfl (fun _ _ => rfl) (fun id' hid o' ho' => ?_) ?_ ?_ ?_
  · rw [List.mem_singleton.mp ho']
    exact ho id' hid
  · exact hwork'.trans_ne (Option.some_ne_none _)
  · rw [hwork', record_note]
    have hafter : ¬Awaited id (s.record ++ [o]) := fun ha => hunwaited (awaited_of_snoc hsync ha)
    cases work with
    | swap job => exact absurd rfl (hnot job)
    | payInfo | payInvoice => exact hafter
  · rw [record_note]
    exact h.heeded.snoc (hheeded hunwaited)

end Heard

theorem workStable_heard : WorkStable (W := W) Heard where
  quiet _ _ _ _ h := h.quiet rfl rfl rfl
  use {_ c job} o _ h := Heard.quiet (h.note (o := .jobCompleted job c o) rfl nofun) rfl rfl rfl
  note ho hno h := h.note hno (by rintro reason rfl; cases ho)
  settlement _ _ _ h := h.quiet rfl rfl rfl
  resolve r hw h := h.resolved r hw
  start c session hw h := h.started c session hw
  fail n hw h := h.owed hw _ (fun _ => isMilestoneOf_notify n) nofun fun hno ha => absurd ha hno

namespace Heard

/-- A swap job that is told is resolved, and shows so at once if its body waits. -/
theorem recalled (h : Heard s) (hw : s.work? id = some (.swap job)) :
    Heard ((s.note (.jobShutdown id)).resolved id job .cancelled) := by
  have hknown : s.work? id ≠ none := hw.trans_ne (Option.some_ne_none _)
  have hown := h.swap hw
  cases hphase : job.phase with
  | pending early =>
    rw [hphase] at hown
    have hunwaited : ¬Awaited id (s.record ++ [.jobShutdown id]) := fun ha =>
      hown.2.1 (awaited_of_snoc (o := .jobShutdown id) nofun ha)
    cases early with
    | none =>
      simp only [Service.resolved, SwapJob.resolve, hphase]
      exact h.phase hknown _ (.jobShutdown id) (fun _ => isMilestoneOf_jobShutdown)
        ⟨by simp [hown.1], hunwaited, nofun⟩ trivial
    | some early =>
      simp only [Service.resolved, SwapJob.resolve, hphase]
      refine h.phase hknown job (.jobShutdown id) (fun _ => isMilestoneOf_jobShutdown) ?_ trivial
      rw [hphase]
      exact ⟨by simp [hown.1], hunwaited, nofun⟩
  | waiting c =>
    rw [hphase] at hown
    -- it is told and shows its notification in one go
    have hboth : s.record ++ [.jobShutdown id, .notify id Resolution.cancelled.notification] =
        s.record ++ [.jobShutdown id] ++ [.notify id Resolution.cancelled.notification] := by simp
    simp only [Service.resolved, SwapJob.resolve, hphase]
    refine h.swapTo hknown { job with phase := .done }
      [.jobShutdown id, .notify id Resolution.cancelled.notification] ?_ rfl rfl
      (fun id' hid o ho => ?_) ⟨Resolution.cancelled.notification, ?_⟩ ?_
    · rw [record_note, hboth]
      exact congrArg (· ++ _) (record_note (s := s) (.jobShutdown id))
    · simp only [List.mem_cons, List.not_mem_nil, or_false] at ho
      rcases ho with rfl | rfl
      · exact isMilestoneOf_jobShutdown hid
      · exact isMilestoneOf_notify _ hid
    · rw [hboth, notices_append, notices_append, hown.1, notices_jobShutdown, notices_notify]
      rfl
    · exact h.heeded.snoc₂ trivial fun _ _ => rfl
  | done =>
    rw [hphase] at hown
    obtain ⟨n, hn⟩ := hown
    simp only [Service.resolved, SwapJob.resolve, hphase]
    refine h.phase hknown job (.jobShutdown id) (fun _ => isMilestoneOf_jobShutdown) ?_ trivial
    rw [hphase]
    exact ⟨n, by simp [hn]⟩

/-- A member that is told makes of it what it can. -/
theorem signalJob (h : Heard s) (hid : id ∈ s.jobs.ids) : Heard (s.signalJob id) := by
  obtain ⟨work, hw⟩ := Option.ne_none_iff_exists'.mp (h.members id hid)
  cases work with
  | swap job => exact workStable_heard.signalJob_of_swap hw (h.recalled hw)
  | payInfo | payInvoice =>
    refine workStable_heard.signalJob_of_not_swap ?_ (h.owed ⟨_, hw, nofun⟩ _
      (fun _ => isMilestoneOf_jobShutdown) nofun fun _ => trivial)
    rintro ⟨job, hj⟩
    cases hw.symm.trans hj

end Heard

namespace Heard

theorem send (h : Heard s) (c : SchedulerCommand) : Heard (s.send c) := by
  obtain ⟨wakes, log, he⟩ := s.send_eq c
  rw [he]
  exact Heard.quiet (h.note (o := .command c) rfl nofun) rfl rfl rfl

theorem remove (h : Heard s) (id : Identity) (o : JobOutcome) {entries : List JobEntry}
    (hsub : entries.map JobEntry.id ⊆ s.jobs.ids) :
    Heard { s.note (.jobRemoved id o) with jobs := { s.jobs with entries } } := by
  have hn := h.note (o := .jobRemoved id o) rfl nofun
  exact ⟨hn.accords, fun id' hid => hn.members id' (hsub hid), hn.heeded⟩

/-- A job that is prepared waits to begin. -/
theorem prepare (h : Heard s) (trigger : Trigger) : Heard (s.prepared (.ofTrigger trigger)) := by
  refine ⟨fun id => ?_, fun id hid => ?_, h.heeded⟩
  · show Accords id s.record _
    have ha := h.accords id
    cases hw : s.work? id with
    | some work =>
      rw [hw] at ha
      rw [work?_prepared hw]
      exact ha
    | none =>
      rw [hw] at ha
      rw [work?_prepared_of_none hw]
      split
      · cases trigger with
        | swapUpdated => exact ⟨ha.1, ha.2.1, fun _ => ha.2.2⟩
        | lnurlPayInfo | lnurlPayInvoice => exact ha.2.1
      · exact ha
  · obtain ⟨work, hw⟩ := Option.ne_none_iff_exists'.mp (h.members id hid)
    exact (work?_prepared hw).trans_ne (Option.some_ne_none _)

/-- A job that enters the set has been prepared. -/
theorem enroll (h : Heard s) (trigger : Trigger) (connection : Connection) :
    Heard (s.enrolled trigger connection) := by
  have hprepared := h.prepare trigger
  have hadded := hprepared.note (o := .jobAdded ⟨s.drawn⟩ (JobWork.ofTrigger trigger).kind)
    rfl nofun
  have hsent := hadded.note (o := .command .reset) rfl nofun
  refine ⟨hsent.accords, fun id hid => ?_, hsent.heeded⟩
  show (s.prepared (.ofTrigger trigger)).work? id ≠ none
  simp only [enrolled, JobSet.ids, List.map_append, List.map_cons, List.map_nil, List.mem_append,
    List.mem_singleton] at hid
  rcases hid with hid | rfl
  · exact hprepared.members id hid
  · cases hw : s.work? ⟨s.drawn⟩ with
    | some work =>
      exact (work?_prepared hw).trans_ne (Option.some_ne_none _)
    | none =>
      rw [work?_prepared_of_none hw, if_pos rfl]
      exact Option.some_ne_none _

/-- A swap job that has begun to wait and has been told is done. -/
theorem shown (h : Heard s) (ha : Awaited id s.record) (ht : .jobShutdown id ∈ s.record) :
    ∃ n, notices id s.record = [n] := by
  have hown := h.accords id
  cases hw : s.work? id with
  | none =>
    rw [hw] at hown
    exact absurd ha hown.2.1
  | some work =>
    rw [hw] at hown
    cases work with
    | swap job =>
      obtain ⟨digest, status, phase⟩ := job
      cases phase with
      | pending early => exact absurd ha hown.2.1
      | waiting c => exact absurd ht hown.2
      | done => exact hown
    | payInfo | payInvoice => exact absurd ha hown

/-- The host is told when those who waited and have been told have shown what they had to. -/
theorem tell (h : Heard s) (reason : ShutdownReason) :
    Heard { s.note (.hostShutdown reason) with terminated := some reason } := by
  have hrecord : (s.note (.hostShutdown reason)).record = s.record ++ [.hostShutdown reason] :=
    record_note _
  refine ⟨fun id => ?_, h.members, ?_⟩
  · show Accords id (s.note (.hostShutdown reason)).record (s.work? id)
    rw [hrecord]
    exact (h.accords id).snoc rfl
  · show Orderly Heeded (s.note (.hostShutdown reason)).record
    rw [hrecord]
    exact h.heeded.snoc fun id ha ht => h.shown ha ht

end Heard

theorem sessionStable_heard : SessionStable (W := W) Heard where
  quiet _ _ _ _ _ _ _ h := h.quiet rfl rfl rfl
  draw h := h.quiet rfl rfl rfl
  hub _ _ h := h.quiet rfl rfl rfl
  note {_ o} ho h := h.note (by cases o <;> first | rfl | cases ho) (by rintro reason rfl; cases ho)

theorem lasting_heard : Lasting (W := W) Heard where
  work := workStable_heard
  session := sessionStable_heard
  hub _ h := h.quiet rfl rfl rfl
  shelf _ h := h.quiet rfl rfl rfl
  signal _ hid h := h.signalJob hid
  close h := h.quiet rfl rfl rfl
  send c h := h.send c
  set _ hids _ h := h.quiet rfl hids rfl
  prepare trigger h := h.prepare trigger
  start {_ reason} _ h := Heard.quiet (h.note (o := .teardownStarted reason) rfl nofun) rfl rfl rfl
  tell reason h := h.tell reason
  place _ _ h := h.quiet rfl rfl rfl
  answered k a h := h.note (o := .answered k a) rfl nofun
  enroll trigger connection _ h := h.enroll trigger connection
  remove id o _ hsub h := h.remove id o hsub
  wait _ h := h.quiet rfl rfl rfl
  release h := h.quiet rfl rfl rfl
  closeInbox h := h.quiet rfl rfl rfl

theorem deskStable_heard : DeskStable (W := W) Heard where
  desk _ _ h := h.quiet rfl rfl rfl
  note {_ o} ho h := h.note (by cases o <;> first | rfl | cases ho) (by rintro reason rfl; cases ho)
  start h := Heard.quiet (h.note (o := .teardownStarted .emptyDelay) rfl nofun) rfl rfl rfl

theorem heard_reachable (h : Reachable env s) : Heard s := by
  induction h with
  | start hs =>
    obtain ⟨message, rfl⟩ := start_eq hs
    exact ⟨fun _ => ⟨rfl, nofun, nofun⟩, nofun, .nil⟩
  | move hr hm ih =>
    exact lasting_heard.move (sane_reachable hr).own hm
      (fun _ hr' => lasting_heard.resumeScheduler deskStable_heard hr' ih) ih

/-! ## Before the host is told -/

/-- Whoever is told is told before the host is. -/
theorem told_before_host (h : Reachable env s) {before after : List Occurrence}
    {reason : ShutdownReason} (he : s.record = before ++ .hostShutdown reason :: after)
    (ht : .jobShutdown id ∈ s.record) : .jobShutdown id ∈ before := by
  rw [he, List.mem_append, List.mem_cons] at ht
  rcases ht with ht | ht | ht
  · exact ht
  · cases ht
  · obtain ⟨mid, rest, rfl⟩ := List.append_of_mem ht
    have hsplit : s.record = (before ++ .hostShutdown reason :: mid) ++ .jobShutdown id ::
        rest := by
      simp [he]
    exact ((early_before_signal h hsplit).was_allowed rfl).elim

/-- **A swap job that waits is heard before the host is told.** If a job is told that the service
ends, and its body has begun to wait before the host is told, then by that time it has shown its
notification, the only one it ever shows; and if it had shown none when it was told, that is the
notification of a swap that is still pending. A job whose body has not begun keeps its resolution
instead, and has shown nothing. -/
theorem waiting_swaps_are_heard_first (h : Reachable env s) :
    (∀ before reason after id, s.record = before ++ .hostShutdown reason :: after →
      .jobShutdown id ∈ s.record → Awaited id before →
      ∃ n, notices id before = [n] ∧ notices id s.record = [n] ∧
        ∀ pre post, s.record = pre ++ .jobShutdown id :: post → Awaited id pre →
          notices id pre = [] → n = Resolution.cancelled.notification) ∧
    ∀ id job, .jobShutdown id ∈ s.record → s.work? id = some (.swap job) →
      (job.phase = .done ∧ ∃ n, notices id s.record = [n]) ∨
        ∃ r, job.phase = .pending (some r) ∧ notices id s.record = [] := by
  have hheard := heard_reachable h
  refine ⟨fun before reason after id he ht ha => ?_, fun id job ht hw => ?_⟩
  · obtain ⟨n, hn⟩ := hheard.heeded.was_allowed he id ha (told_before_host h he ht)
    have hall : notices id s.record = [n] := by
      obtain ⟨n', hn'⟩ := hheard.shown (he ▸ ha.append _) ht
      have hsplit : notices id s.record = [n] ++ notices id (.hostShutdown reason :: after) := by
        rw [he, notices_append, hn]
      rw [hsplit] at hn' ⊢
      have hrest : notices id (.hostShutdown reason :: after) = [] := (List.cons.inj hn').2
      rw [hrest]
      rfl
    refine ⟨n, hn, hall, fun pre post hpre hapre hnone => ?_⟩
    -- what it shows after it was told is shown for that reason
    have hpost : n ∈ notices id (.jobShutdown id :: post) := by
      have hsplit := hall
      rw [hpre, notices_append, hnone, List.nil_append] at hsplit
      rw [hsplit]
      exact List.mem_singleton.mpr rfl
    obtain ⟨mid, rest, hmid⟩ := List.append_of_mem (mem_notices.mp hpost)
    have hsplit : s.record = (pre ++ mid) ++ .notify id n :: rest := by
      rw [hpre, hmid, List.append_assoc]
    refine hheard.heeded.was_allowed hsplit (hapre.append _) (List.mem_append_right _ ?_)
    cases mid with
    | nil => cases hmid
    | cons o mid =>
      cases hmid
      exact List.mem_cons_self
  · have hown := hheard.swap hw
    cases hphase : job.phase with
    | pending early =>
      rw [hphase] at hown
      cases early with
      | none => exact absurd ht (hown.2.2 rfl)
      | some r => exact .inr ⟨r, rfl, hown.1⟩
    | waiting c =>
      rw [hphase] at hown
      exact absurd ht hown.2
    | done =>
      rw [hphase] at hown
      exact .inl ⟨rfl, hown⟩

/-- A service that its host ends while its job waits for a swap. -/
def awaitingRun : Option (Service Plan) :=
  playFrom Plan.collaborators {} false {}
    [.trigger swapMessage, .turn 1, .turn 1, .turn 3, .shutdown, .turn 4, .turn 4]

/-- The user is told before the host, that the swap is still pending. -/
theorem awaiting_swap_is_heard : ∃ (s : Service Plan) (before : List Occurrence),
    awaitingRun = some s ∧ s.record = before ++ .hostShutdown .requested ::
      [.answered 4 .shutDown] ∧
    .jobShutdown ⟨1⟩ ∈ s.record ∧ Awaited ⟨1⟩ before ∧
    ∃ n, notices ⟨1⟩ before = [n] ∧ n = Resolution.cancelled.notification := by
  have hrun : awaitingRun.isSome = true := rfl
  have htold : .jobShutdown ⟨1⟩ ∈ (awaitingRun.get hrun).record :=
    List.mem_of_getElem? (i := 10) rfl
  have hawaited : Awaited ⟨1⟩ ((awaitingRun.get hrun).record.take 17) :=
    ⟨0, List.mem_of_getElem? (i := 9) rfl⟩
  obtain ⟨n, hn, -, hpending⟩ :=
    (waiting_swaps_are_heard_first (reachable_of_playFrom (Option.some_get hrun).symm)).1
      _ _ [.answered 4 .shutDown] ⟨1⟩ rfl htold hawaited
  refine ⟨_, _, (Option.some_get hrun).symm, rfl, htold, hawaited, n, hn, ?_⟩
  exact hpending ((awaitingRun.get hrun).record.take 10) _ rfl
    ⟨0, List.mem_of_getElem? (i := 9) rfl⟩ rfl

/-- A service that its host ends before the body of its job has begun. -/
def hastyRun : Option (Service Plan) :=
  playFrom Plan.collaborators {} false {}
    [.trigger swapMessage, .turn 1, .turn 1, .shutdown, .turn 4, .turn 4]

/-- Its user has been told nothing when the host is. -/
theorem fresh_swap_is_unheard : ¬∀ (s : Service Plan), Reachable Plan.collaborators s →
    ∀ before after id job, s.record = before ++ .hostShutdown .requested :: after →
      .jobShutdown id ∈ before → s.work? id = some (.swap job) → ∃ n, notices id before = [n] := by
  intro hclaim
  have hrun : hastyRun.isSome = true := rfl
  obtain ⟨n, hn⟩ := hclaim _ (reachable_of_playFrom (Option.some_get hrun).symm)
    ((hastyRun.get hrun).record.take 14) [.answered 4 .shutDown] ⟨1⟩ _ rfl
    (List.mem_of_getElem? (i := 9) rfl) rfl
  cases hn

end Service

end PushWake
