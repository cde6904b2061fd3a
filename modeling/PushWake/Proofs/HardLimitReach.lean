import PushWake.Proofs.OneEnd

/-!
# How long the hard limit is out of reach

What a move may do to a service that stays open: nothing that concerns the end, or the scheduler
deals with a command, or a delay is over for nothing. So the hard limit of an open service has never
been over, and from the moment a job is registered it is out of reach for a full limit, whether the
scheduler has dealt with the command or not.
-/

namespace PushWake

theorem Scheduler.service_arm (s : Scheduler) (t : Timeouts) (now : Nat) :
    (s.arm t now).service = s.service := by
  unfold arm
  split
  · exact publish_service _
  · rfl

namespace Service

variable {W : Type} {env : Collaborators W} {s s' : Service W} {since : Nat}

/-- What a move may do to a service that stays open. -/
inductive OpenCourse (env : Collaborators W) (s s' : Service W) : Prop where
  | aside : Aside s s' → SamePosts s s' → OpenCourse env s s'
  | obeyed {c : SchedulerCommand} {rest : List SchedulerCommand} : s.Listens →
      s.commands = c :: rest →
      s' = schedulerStep 0 (obey { s with commands := rest } c) → (s'.Listens → c ≠ .cancel) →
      OpenCourse env s s'
  | lapsed : s.Listens → s.commands = [] → ¬(s.jobs.closed = false ∧ s.jobs.entries = []) →
      s' = schedulerStep 0 (s.emptyOver env 0) → OpenCourse env s s'

theorem Course.of_open (h : Steered s) (hc : Course env s s') (halive : s'.ending = false) :
    OpenCourse env s s' := by
  have hdead : ∀ {P : Prop}, s'.ending = true → P := fun hending => by
    rw [halive] at hending
    cases hending
  cases hc with
  | aside ha hp => exact .aside ha hp
  | obeyed hl hcommands he _ hcancel => exact .obeyed hl hcommands he hcancel
  | lapsed hl hcommands _ hbusy he _ => exact .lapsed hl hcommands hbusy he
  | begun hb ha => exact hdead (ha.ending.trans hb.onset.ending)
  | atOnce hb ha ha' => exact hdead (ha'.ending.trans (ha.ending.trans hb.onset.ending))
  | concluded ha ha' ht =>
    -- somebody was at the end already
    obtain ⟨k, a, hmem, htears⟩ := mem_gathered.mp (ht.symm.subset List.mem_cons_self)
    exact hdead (ha'.ending.trans (ha.ending.trans (h.ending_of_mem hmem htears)))

theorem Reachable.openCourse (hr : Reachable env s) (hm : Move env s s')
    (halive : s'.ending = false) :
    OpenCourse env s s' :=
  (hr.course hm).of_open (steered_reachable hr) halive

/-- A service that is open was open before. -/
theorem open_of_later (hr : Reachable env s) (hl : Later env s s') (halive : s'.ending = false) :
    s.ending = false := by
  rw [Bool.eq_false_iff]
  intro hending
  rw [(over_later hr hending hl).ending] at halive
  cases halive

/-- What happens in the course of an open service: the hard limit is not over. -/
theorem OpenCourse.history (hc : OpenCourse env s s') :
    ∃ os, s'.history = s.history ++ os ∧ ∀ o ∈ os, o.2 ≠ .expired .service := by
  cases hc with
  | aside ha _ =>
    obtain ⟨os, hos, hno⟩ := ha.history
    refine ⟨os, hos, fun o ho hexpired => ?_⟩
    have hsteering := hno o ho
    rw [hexpired] at hsteering
    cases hsteering
  | @obeyed c rest _ _ he =>
    obtain ⟨log, ho⟩ := obey_eq (s := { s with commands := rest }) c
    refine ⟨[(s.now, .obeyed c)], ?_, fun o ho => ?_⟩
    · rw [he, ho]
      split <;> rfl
    · rw [List.mem_singleton.mp ho]
      nofun
  | lapsed _ _ hbusy he =>
    obtain ⟨log, ho⟩ := emptyOver_of_busy env 0 hbusy
    refine ⟨[(s.now, .expired .empty)], ?_, fun o ho => ?_⟩
    · rw [he, ho]
      rfl
    · rw [List.mem_singleton.mp ho]
      nofun

/-- The hard limit of an open service has never been over. -/
theorem unexpired_of_open (hr : Reachable env s) (halive : s.ending = false) (time : Nat) :
    (time, .expired .service) ∉ s.history := by
  induction hr with
  | start hs =>
    obtain ⟨message, rfl⟩ := start_eq hs
    nofun
  | @move s s' hr hm ih =>
    have hbefore := open_of_later hr (.move .refl hm) halive
    obtain ⟨os, hos, hno⟩ := (hr.openCourse hm halive).history
    intro hmem
    rw [hos] at hmem
    rcases List.mem_append.mp hmem with hmem | hmem
    · exact ih hbefore hmem
    · exact hno _ hmem rfl

/-- As long as the scheduler listens, the hard limit is about to start over, or is not over before a
full limit from a point in time. -/
def Reprieved (since : Nat) (s : Service W) : Prop := s.Listens →
  .reset ∈ s.commands ∨
    ∃ d, s.scheduler.service = some d ∧ since + s.config.timeouts.serviceMs.toNat ≤ d

theorem Reprieved.course (h : Reprieved since s) (hnow : since ≤ s.now) (hclocked : Clocked s')
    (hc : OpenCourse env s s') : Reprieved since s' := by
  cases hc with
  | aside ha hp =>
    intro hl
    rw [ha.scheduler, ha.config]
    exact (h (hp.listens.mp hl)).imp_left (ha.inbox (inboxOpen_of_listens hclocked hl)).2.mem
  | @obeyed c rest hl hcommands he hcancel =>
    intro hl'
    have hne := hcancel hl'
    obtain ⟨log, ho⟩ := obey_eq (s := { s with commands := rest }) c
    rw [he, ho, if_neg hne]
    show .reset ∈ rest ∨ ∃ d, (s.scheduler.obey s.config.timeouts s.now c).service = some d ∧
      since + s.config.timeouts.serviceMs.toNat ≤ d
    have hbefore := h hl
    rw [hcommands] at hbefore
    cases c with
    | reset =>
      exact .inr ⟨_, Scheduler.publish_service _, Nat.add_le_add_right hnow _⟩
    | armEmptyDelay =>
      -- the hard limit is as it was, and a reset that was to come is still to come
      rw [Scheduler.obey, Scheduler.service_arm]
      rcases hbefore with hmem | hd
      · exact .inl ((List.mem_cons.mp hmem).resolve_left (by decide))
      · exact .inr hd
    | cancel => exact absurd rfl hne
  | lapsed hl hcommands hbusy he =>
    intro _
    obtain ⟨log, ho⟩ := emptyOver_of_busy env 0 hbusy
    have hbefore := h hl
    rw [hcommands] at hbefore
    rw [he, ho]
    refine .inr ?_
    obtain ⟨d, hd, hle⟩ := hbefore.resolve_left List.not_mem_nil
    exact ⟨d, (Scheduler.publish_service _).trans hd, hle⟩

/-- **The hard limit stays out of reach.** -/
theorem Reprieved.move (h : Reprieved since s) (hr : Reachable env s) (hnow : since ≤ s.now)
    (hm : Move env s s') (halive : s'.ending = false) : Reprieved since s' :=
  h.course hnow (clocked_reachable (.move hr hm)) (hr.openCourse hm halive)

/-- Until then it is not over. -/
theorem Reprieved.not_due (h : Reprieved since s) (hl : s.Listens) (hidle : s.commands = [])
    (hnow : s.now < since + s.config.timeouts.serviceMs.toNat) :
    s.scheduler.due? s.now ≠ some .service := by
  intro hdue
  have hd := h hl
  rw [hidle] at hd
  obtain ⟨d, hd, hle⟩ := hd.resolve_left nofun
  unfold Scheduler.due? at hdue
  split at hdue
  · rename_i hreached
    rw [hd, Scheduler.isReached, decide_eq_true_eq] at hreached
    omega
  · split at hdue <;> cases hdue

end Service

end PushWake
