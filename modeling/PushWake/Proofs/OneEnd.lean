import PushWake.Collaborators.Plan
import PushWake.Proofs.EndCourse
import PushWake.Proofs.Membership

/-!
# One end, for one reason

The host, the hard limit and the delay may all come to end a service, and each of them closes the
set, moves the scheduler and starts a teardown that takes its time. Between two moves these always
agree: `Steered` holds of every reachable service, because a service that begins to end has closed
its set in the same move, and because the scheduler that a host stops obeys before it looks at a
deadline. A service that has begun to end is `Doomed` to end for its first reason.
-/

namespace PushWake

/-- A command that is dealt with publishes no end. -/
theorem Scheduler.fired_of_obey {s : Scheduler} {t : Timeouts} {now : Nat} {c : SchedulerCommand}
    {reason : ShutdownReason} (h : (s.obey t now c).state = .fired reason) :
    s.state = .fired reason := by
  cases c with
  | reset => cases h
  | cancel => cases h
  | armEmptyDelay =>
    cases hs : s.service with
    | none => simpa [obey, arm, hs] using h
    | some d => simp [obey, arm, publish, hs] at h

theorem Scheduler.fired_of_publish {s : Scheduler} {reason : ShutdownReason}
    (h : s.publish.state = .fired reason) : s.state = .fired reason := by
  unfold publish at h
  split at h
  · cases h
  · exact h

namespace Service

variable {W : Type} {env : Collaborators W} {s s' t u v : Service W} {k : Nat}
  {reason : ShutdownReason}

/-! ## What the record says of the end -/

namespace Aside

variable (h : Aside s t)
include h

theorem reasonsBegun : reasonsBegun t.record = PushWake.reasonsBegun s.record :=
  h.filterMap fun o ho => by cases o <;> first | rfl | cases ho

theorem reasonsTold : reasonsTold t.record = PushWake.reasonsTold s.record :=
  h.filterMap fun o ho => by cases o <;> first | rfl | cases ho

end Aside

/-- Nothing but the last of what a beginning adds to the record is about the end. -/
theorem Onset.reasons (h : Onset s reason u) :
    reasonsBegun u.record = reasonsBegun s.record ++ [reason] ∧
      reasonsTold u.record = reasonsTold s.record := by
  obtain ⟨os, hos, -, hall⟩ := h.record
  have hbegun : reasonsBegun os = [] := by
    refine List.filterMap_eq_nil_iff.mpr fun o ho => ?_
    have hx := hall o ho
    cases o <;> first | rfl | cases hx
  have htold : reasonsTold os = [] := by
    refine List.filterMap_eq_nil_iff.mpr fun o ho => ?_
    have hx := hall o ho
    cases o <;> first | rfl | cases hx
  rw [hos]
  simp only [reasonsBegun_append, reasonsTold_append, hbegun, htold, List.append_nil]
  exact ⟨rfl, List.append_nil _⟩

/-- That the host is told is no beginning. -/
theorem reasonsBegun_told (s : Service W) (reason : ShutdownReason) :
    reasonsBegun (s.told reason).record = reasonsBegun s.record := by
  show reasonsBegun (s.note (.hostShutdown reason)).record = _
  rw [record_note, reasonsBegun_append]
  exact List.append_nil _

theorem reasonsTold_told (s : Service W) (reason : ShutdownReason) :
    reasonsTold (s.told reason).record = reasonsTold s.record ++ [reason] := by
  show reasonsTold (s.note (.hostShutdown reason)).record = _
  rw [record_note, reasonsTold_append]
  rfl

/-! ## A service that is to end -/

/-- A service that ends for a reason, and for no other. -/
structure Doomed (reason : ShutdownReason) (s : Service W) : Prop where
  closed : s.jobs.closed = true
  ending : s.ending = true
  begun : reasonsBegun s.record = [reason]
  fired : ∀ reason', s.scheduler.state = .fired reason' → reason = reason' ∧ reason' ≠ .requested

namespace Doomed

theorem aside (h : Doomed reason s) (ha : Aside s t) : Doomed reason t where
  closed := ha.closed.trans h.closed
  ending := ha.ending.trans h.ending
  begun := ha.reasonsBegun.trans h.begun
  fired reason' hf := h.fired reason' (ha.scheduler ▸ hf)

theorem told (h : Doomed reason s) {reason' : ShutdownReason} : Doomed reason (s.told reason') where
  closed := h.closed
  ending := h.ending
  begun := (reasonsBegun_told s reason').trans h.begun
  fired := h.fired

/-- What is left to say of it is who is at it, and what the host has been told. -/
theorem steered (h : Doomed reason s) (htold : reasonsTold s.record = s.terminated.toList)
    (hplaces : [reason] = s.tearing ++ s.terminated.toList)
    (hstops : s.Listens → .cancel ∈ s.commands) : Steered s where
  closed := h.closed.trans h.ending.symm
  told := htold
  begun := h.begun.trans hplaces
  once := by simp [h.begun]
  ending := by simp [h.begun, h.ending]
  fired reason' hf := by
    obtain ⟨rfl, hne⟩ := h.fired reason' hf
    exact ⟨h.begun, hne⟩
  stops hl _ := hstops hl

end Doomed

/-- The commands stay where they are while the host is told. -/
theorem Aside.inbox_told (h : Aside s t) (h' : Aside (t.told reason) u) (ho : u.inboxOpen = true) :
    s.inboxOpen = true ∧ s.commands <+: u.commands := by
  obtain ⟨ht, hc'⟩ := h'.inbox ho
  obtain ⟨hs, hc⟩ := h.inbox ht
  exact ⟨hs, hc.trans hc'⟩

namespace Steered

variable (h : Steered s)
include h

theorem doomed (hr : reasonsBegun s.record = [reason]) : Doomed reason s := by
  have hending : s.ending = true := h.ending.mpr (by simp [hr])
  refine ⟨h.closed.trans hending, hending, hr, fun reason' hf => ?_⟩
  obtain ⟨hr', hne⟩ := h.fired reason' hf
  rw [hr] at hr'
  cases hr'
  exact ⟨rfl, hne⟩

/-- Nobody ends a service that is alive, and its host has been told nothing. -/
theorem unbegun (halive : s.ending = false) :
    reasonsBegun s.record = [] ∧ s.tearing = [] ∧ s.terminated = none := by
  have hnone : reasonsBegun s.record = [] := by
    rw [← Decidable.not_not (p := reasonsBegun s.record = []), ← ne_eq, ← h.ending, halive]
    exact Bool.false_ne_true
  have hbegun := h.begun
  rw [hnone, eq_comm, List.append_eq_nil_iff] at hbegun
  refine ⟨hnone, hbegun.1, ?_⟩
  cases ht : s.terminated with
  | none => rfl
  | some => simp [ht] at hbegun

/-- Whoever is at it is alone, and the host has not been told. -/
theorem alone {rest : List ShutdownReason} (ht : s.tearing.Perm (reason :: rest)) :
    reasonsBegun s.record = [reason] ∧ rest = [] ∧ s.terminated = none := by
  have hlength := h.once
  rw [h.begun, List.length_append, ht.length_eq, List.length_cons] at hlength
  have hrest : rest = [] := List.eq_nil_of_length_eq_zero (by omega)
  have hnone : s.terminated = none := by
    cases hterm : s.terminated with
    | none => rfl
    | some =>
      simp [hterm] at hlength
  subst hrest
  refine ⟨?_, rfl, hnone⟩
  rw [h.begun, hnone, List.perm_singleton.mp ht]
  rfl

/-- The beginning of the end dooms a service. -/
theorem onset (hb : Begins s reason u) : Doomed reason u := by
  have hu := hb.onset
  obtain ⟨hnone, -, -⟩ := h.unbegun hu.alive
  refine ⟨by rw [hu.jobs], hu.ending, ?_, fun reason' hf => ?_⟩
  · rw [hu.reasons.1, hnone]
    rfl
  · rcases hb.published with ⟨-, hsame, -⟩ | ⟨hne, -, hfired⟩
    · rw [hsame] at hf
      rw [(h.fired reason' hf).1] at hnone
      cases hnone
    · rw [hfired] at hf
      cases hf
      exact ⟨rfl, hne⟩

omit h in
/-- The host's request has the scheduler stopped. -/
theorem stops_of_begins (hb : Begins s reason u) (hclocked : Clocked s')
    (hinbox : s'.inboxOpen = true → u.inboxOpen = true ∧ u.commands <+: s'.commands)
    (hreason : s'.Listens → reason = .requested) (hl : s'.Listens) : .cancel ∈ s'.commands := by
  obtain ⟨hu, hgrown⟩ := hinbox (inboxOpen_of_listens hclocked hl)
  rcases hb.published with ⟨-, -, hsame, hcancel⟩ | ⟨hne, -⟩
  · exact hgrown.mem (hcancel (hsame ▸ hu))
  · exact absurd (hreason hl) hne

/-- What neither begins nor concludes the end leaves it as it is. -/
theorem kept (hclosed : t.jobs.closed = s.jobs.closed) (hending : t.ending = s.ending)
    (hterminated : t.terminated = s.terminated) (htearing : t.tearing = s.tearing)
    (hbegun : reasonsBegun t.record = reasonsBegun s.record)
    (htold : reasonsTold t.record = reasonsTold s.record)
    (hfired : ∀ reason, t.scheduler.state = .fired reason → s.scheduler.state = .fired reason)
    (hstops : t.Listens → s.ending = true → .cancel ∈ t.commands) : Steered t where
  closed := by rw [hclosed, h.closed, hending]
  told := by rw [htold, h.told, hterminated]
  begun := by rw [hbegun, h.begun, htearing, hterminated]
  once := by
    rw [hbegun]
    exact h.once
  ending := by
    rw [hending, hbegun]
    exact h.ending
  fired reason hf := by
    rw [hbegun]
    exact h.fired reason (hfired reason hf)
  stops hl he := hstops hl (hending ▸ he)

/-- A command that is dealt with changes nothing of the end, but for the stop of the scheduler. -/
theorem obeyed {c : SchedulerCommand} {rest : List SchedulerCommand} (hl : s.Listens)
    (hc : s.commands = c :: rest) (he : s' = schedulerStep 0 (obey { s with commands := rest } c))
    (htearing : s'.tearing = s.tearing) (hcancel : s'.Listens → c ≠ .cancel) : Steered s' := by
  have hrecord : s'.record = s.record ++ [.obeyed c] :=
    he ▸ record_obey (s := { s with commands := rest }) c
  obtain ⟨log, ho⟩ := obey_eq (s := { s with commands := rest }) c
  have hkept : s'.jobs.closed = s.jobs.closed ∧ s'.ending = s.ending ∧
      s'.terminated = s.terminated ∧
      s'.scheduler = s.scheduler.obey s.config.timeouts s.now c := by
    rw [he, ho]
    split <;> exact ⟨rfl, rfl, rfl, rfl⟩
  obtain ⟨hclosed, hending, hterminated, hscheduler⟩ := hkept
  refine h.kept hclosed hending hterminated htearing ?_ ?_ ?_ fun hl' halive => ?_
  · rw [hrecord, reasonsBegun_append]
    exact List.append_nil _
  · rw [hrecord, reasonsTold_append]
    exact List.append_nil _
  · rw [hscheduler]
    exact fun reason => Scheduler.fired_of_obey
  · -- a scheduler that listens on has not come to the command that stops it
    have hne := hcancel hl'
    have hrest : s'.commands = rest := by
      rw [he, ho, if_neg hne]
      rfl
    have hstop := h.stops hl halive
    rw [hc] at hstop
    exact hrest ▸ (List.mem_cons.mp hstop).resolve_left hne.symm

/-- **Whatever a move does, the end stays one.** -/
theorem course (hclocked : Clocked s') (hc : Course env s s') : Steered s' := by
  cases hc with
  | aside ha hp =>
    refine h.kept ha.closed ha.ending ha.terminated hp.tearing ha.reasonsBegun ha.reasonsTold
      (fun reason hf => ha.scheduler ▸ hf) fun hl hending => ?_
    exact (ha.inbox (inboxOpen_of_listens hclocked hl)).2.mem (h.stops (hp.listens.mp hl) hending)
  | obeyed hl hcommands he ht hcancel => exact h.obeyed hl hcommands he ht hcancel
  | lapsed hl hcommands _ hbusy he hp =>
    -- the scheduler of a service that is ending has a command left, and looks at no deadline
    have hrecord : s'.record = s.record ++ [.expired .empty] := he ▸ record_lapse hbusy
    obtain ⟨log, ho⟩ := emptyOver_of_busy env 0 hbusy
    rw [ho] at he
    refine h.kept (by rw [he]; rfl) (by rw [he]; rfl) (by rw [he]; rfl) hp.tearing ?_ ?_ ?_
      fun _ hending => ?_
    · rw [hrecord, reasonsBegun_append]
      exact List.append_nil _
    · rw [hrecord, reasonsTold_append]
      exact List.append_nil _
    · rw [he]
      exact fun reason hf => Scheduler.fired_of_publish (s := s.scheduler.forgetEmpty) hf
    · have hstop := h.stops hl hending
      rw [hcommands] at hstop
      cases hstop
  | @begun reason u hb hbelow ht hreason =>
    have hu := hb.onset
    obtain ⟨-, htearing, hterminated⟩ := h.unbegun hu.alive
    -- nobody was at it before, so whoever begins is alone
    rw [htearing, List.perm_singleton] at ht
    have hnone : s'.terminated = none := (hbelow.terminated.trans hu.terminated).trans hterminated
    refine ((h.onset hb).aside hbelow.toAside).steered ?_ ?_
      (stops_of_begins hb hclocked hbelow.inbox fun hl => (hreason hl).1)
    · rw [hbelow.reasonsTold, hu.reasons.2, h.told, hnone, hterminated]
    · rw [ht, hnone]
      rfl
  | @atOnce reason u v hb hbelow hafter ht hreason =>
    have hu := hb.onset
    obtain ⟨-, htearing, hterminated⟩ := h.unbegun hu.alive
    have hsome : s'.terminated = some reason := hafter.terminated
    have hstops := stops_of_begins hb hclocked (hbelow.inbox_told hafter.toAside) fun hl =>
      (hreason hl).1
    refine (((h.onset hb).aside hbelow.toAside).told.aside hafter.toAside).steered ?_ ?_ hstops
    · rw [hafter.reasonsTold, reasonsTold_told, hbelow.reasonsTold, hu.reasons.2, h.told, hsome,
        hterminated]
      rfl
    · rw [ht, htearing, hsome]
      rfl
  | @concluded reason v hbelow hafter ht hl =>
    obtain ⟨hbegun, hrest, hterminated⟩ := h.alone ht
    have hsome : s'.terminated = some reason := hafter.terminated
    have hd := (h.doomed hbegun).aside hbelow
    refine (hd.told.aside hafter).steered ?_ ?_ fun hl' => ?_
    · rw [hafter.reasonsTold, reasonsTold_told, hbelow.reasonsTold, h.told, hsome, hterminated]
      rfl
    · rw [hrest, hsome]
      rfl
    · have hstop := h.stops (hl hl') (h.doomed hbegun).ending
      exact (hbelow.inbox_told hafter (inboxOpen_of_listens hclocked hl')).2.mem hstop

end Steered

theorem steered_reachable (h : Reachable env s) : Steered s := by
  induction h with
  | start hs =>
    obtain ⟨message, rfl⟩ := start_eq hs
    exact ⟨rfl, rfl, rfl, Nat.zero_le _, ⟨nofun, fun hne => absurd rfl hne⟩, nofun, fun _ => nofun⟩
  | move hr hm ih =>
    exact ih.course (clocked_reachable (.move hr hm))
      (course_move (sane_reachable hr) (clocked_reachable hr) ih hm)

theorem Reachable.course (h : Reachable env s) (hm : Move env s s') : Course env s s' :=
  course_move (sane_reachable h) (clocked_reachable h) (steered_reachable h) hm

/-! ## No way back -/

/-- A service that has begun to end goes on ending, and takes no more jobs. -/
structure Over (base s : Service W) : Prop where
  ending : s.ending = true
  closed : s.jobs.closed = true
  entered : entered s.record = entered base.record

namespace Over

variable {base : Service W}

theorem quiet (h : Over base s) (hending : t.ending = s.ending)
    (hclosed : t.jobs.closed = s.jobs.closed) (hhistory : t.history = s.history) : Over base t :=
  ⟨hending.trans h.ending, hclosed.trans h.closed, by rw [record, hhistory]; exact h.entered⟩

theorem note {o : Occurrence} (h : Over base s) (ho : ∀ id kind, o ≠ .jobAdded id kind) :
    Over base (s.note o) := by
  refine ⟨h.ending, h.closed, ?_⟩
  have hnone : PushWake.entered [o] = [] := by
    rw [List.eq_nil_iff_forall_not_mem]
    intro id hid
    obtain ⟨kind, hmem⟩ := mem_entered.mp hid
    exact ho id kind (List.mem_singleton.mp hmem).symm
  rw [record_note, entered_append, hnone, List.append_nil, h.entered]

theorem send (h : Over base s) (c : SchedulerCommand) : Over base (s.send c) := by
  obtain ⟨wakes, log, he⟩ := s.send_eq c
  rw [he]
  exact Over.quiet (h.note (o := .command c) nofun) rfl rfl rfl

end Over

theorem workBlind_over {base : Service W} : WorkBlind (Over base) where
  quiet _ _ _ _ _ h := h.quiet rfl rfl rfl
  use {_ c job} o _ h := Over.quiet (h.note (o := .jobCompleted job c o) nofun) rfl rfl rfl
  note ho h := h.note (by rintro id kind rfl; cases ho)
  settlement _ _ _ h := h.quiet rfl rfl rfl

theorem lasting_over {base : Service W} : Lasting (Over base) where
  work := workBlind_over.stable
  session := {
    quiet := fun _ _ _ _ _ _ _ h => h.quiet rfl rfl rfl
    draw := fun h => h.quiet rfl rfl rfl
    hub := fun _ _ h => h.quiet rfl rfl rfl
    note := fun ho h => h.note (by rintro id kind rfl; cases ho) }
  hub _ h := h.quiet rfl rfl rfl
  shelf _ h := h.quiet rfl rfl rfl
  signal id _ h := workBlind_over.signal id h
  close h := ⟨h.ending, rfl, h.entered⟩
  send c h := h.send c
  set _ _ hclosed h := h.quiet rfl hclosed rfl
  prepare _ h := h.quiet rfl rfl rfl
  start {_ reason} _ h := by
    have hn := Over.note h (o := .teardownStarted reason) nofun
    exact ⟨rfl, hn.closed, hn.entered⟩
  tell reason h := Over.quiet (h.note (o := .hostShutdown reason) nofun) rfl rfl rfl
  place _ _ h := h.quiet rfl rfl rfl
  answered k a h := h.note nofun
  enroll {s} _ _ hopen h := by
    rw [h.closed] at hopen
    cases hopen
  remove id o _ _ h := Over.quiet (h.note (o := .jobRemoved id o) nofun) rfl rfl rfl
  wait _ h := h.quiet rfl rfl rfl
  release h := h.quiet rfl rfl rfl
  closeInbox h := h.quiet rfl rfl rfl

theorem deskStable_over {base : Service W} : DeskStable (Over base) where
  desk _ _ h := h.quiet rfl rfl rfl
  note ho h := h.note (by rintro id kind rfl; cases ho)
  start h := by
    have hn := Over.note h (o := .teardownStarted .emptyDelay) nofun
    exact ⟨rfl, hn.closed, hn.entered⟩

/-- Once a service has begun to end there is no way back. -/
theorem over_later (h : Reachable env s) (hending : s.ending = true) (hl : Later env s s') :
    Over s s' := by
  induction hl with
  | refl => exact ⟨hending, (steered_reachable h).closed.trans hending, rfl⟩
  | move hl hm ih =>
    exact lasting_over.move (sane_reachable (h.later hl)).own hm
      (fun _ hr => lasting_over.resumeScheduler deskStable_over hr ih) ih

/-- A trigger that finds the service ending is turned away in its first step. -/
theorem refused_of_ending (hn : s.scene.Numbered) (hending : s.ending = true) {m : TriggerMessage}
    (ha : (k, .trigger m .arriving) ∈ s.activities) : ∃ s', s.step env k = some s' ∧
      answers s'.record = answers s.record ++ [(k, .trigger (.error .shutDown))] := by
  have hactivity : s.activity? k = some (.trigger m .arriving) := activity?_of_mem hn ha
  generalize hsaid : s.say "service" .warn
    ("Ignoring " ++ m.kind ++ " trigger, service is shut down") = said
  have hrecord : said.record = s.record := by rw [← hsaid]; rfl
  have henter : s.enterTrigger env k m = (said, .done (.error .shutDown)) := by
    simp only [enterTrigger, hending, if_true, dropTrigger, hsaid]
  obtain ⟨os, hos, -, -, hnone⟩ :=
    (enters_cancelIfUnheld (s := said.answer k (.trigger (.error .shutDown)))).record
  refine ⟨(said.answer k (.trigger (.error .shutDown))).cancelIfUnheld, ?_, ?_⟩
  · rw [step, hactivity, Option.bind_some, act, resumeTrigger, henter]
    rfl
  · have hnoted : (said.answer k (.trigger (.error .shutDown))).record =
        s.record ++ [.answered k (.trigger (.error .shutDown))] := by
      rw [answer, record_note, ← hrecord]
      rfl
    rw [hos, hnoted, answers_append, hnone, List.append_nil, answers_append]
    rfl

/-- **A service ends once, and for one reason.** Its host is told at most once, and what is
published as the reason is what it was told, from then on. A deadline that is published as the cause
of the end is its cause, and once a host's request has begun the end no deadline is published as its
cause. A service that has begun to end goes on ending: every later trigger is turned away in its
first step, and no job is registered. -/
theorem one_end_one_reason (h : Reachable env s) :
    (reasonsTold s.record).length ≤ 1 ∧ reasonsTold s.record = s.terminated.toList ∧
    (∀ s' reason, Later env s s' → s.terminated = some reason → s'.terminated = some reason) ∧
    (∀ s' reason reason', Later env s s' → s.scheduler.state = .fired reason →
      (.teardownStarted reason' ∈ s'.record ∨ .hostShutdown reason' ∈ s'.record ∨
        s'.terminated = some reason') → reason' = reason) ∧
    (.teardownStarted .requested ∈ s.record → ∀ reason, s.scheduler.state ≠ .fired reason) ∧
    (s.ending = true → ∀ s', Later env s s' → s'.ending = true ∧
      entered s'.record = entered s.record ∧
      ∀ k m, (k, .trigger m .arriving) ∈ s'.activities → ∃ s'', s'.step env k = some s'' ∧
        answers s''.record = answers s'.record ++ [(k, .trigger (.error .shutDown))]) := by
  have hsteered := steered_reachable h
  have hgrows : ∀ {s'}, Later env s s' → s.record <+: s'.record :=
    fun hl => ((sane_reachable h).later hl).deals.grows
  refine ⟨?_, hsteered.told, fun s' reason hl hr => ?_, fun s' reason reason' hl hf hr => ?_,
    fun hr reason hf => ?_, fun hending s' hl => ?_⟩
  · rw [hsteered.told]
    cases s.terminated <;> simp
  · -- what the host was told is in the record for good, and the host is told once
    have htold : reasonsTold s.record <+: reasonsTold s'.record := (hgrows hl).filterMap _
    rw [hsteered.told, (steered_reachable (h.later hl)).told, hr] at htold
    cases ht : s'.terminated with
    | none => simp [ht] at htold
    | some => simpa [ht, eq_comm] using htold
  · -- the end that the deadline began is in the record for good, and no other begins
    have hlater := steered_reachable (h.later hl)
    have hbegun : reasonsBegun s'.record = [reason] := by
      have hgrown : reasonsBegun s.record <+: reasonsBegun s'.record := (hgrows hl).filterMap _
      rw [(hsteered.fired reason hf).1] at hgrown
      exact (hgrown.eq_of_length_le hlater.once).symm
    have hmem : reason' ∈ reasonsBegun s'.record := by
      rcases hr with hr | hr | hr
      · exact mem_reasonsBegun.mpr hr
      · have hmem := mem_reasonsTold.mpr hr
        rw [hlater.told] at hmem
        rw [hlater.begun]
        exact List.mem_append_right _ hmem
      · rw [hlater.begun, hr]
        exact List.mem_append_right _ (List.mem_singleton.mpr rfl)
    rw [hbegun] at hmem
    exact List.mem_singleton.mp hmem
  · obtain ⟨hbegun, hne⟩ := hsteered.fired reason hf
    have hmem := mem_reasonsBegun.mpr hr
    rw [hbegun] at hmem
    exact hne (List.mem_singleton.mp hmem).symm
  · have hover := over_later h hending hl
    have hsane := sane_reachable (h.later hl)
    exact ⟨hover.ending, hover.entered, fun k m ha =>
      refused_of_ending hsane.numbered hover.ending ha⟩

/-- A service that its host ends when the hard limit is over too, and that is sent
another trigger. -/
def contestedRun : Option (Service Plan) :=
  playFrom Plan.collaborators {} false {}
    [.trigger swapMessage, .turn 1, .turn 1, .turn 0, .turn 0, .wait 180000, .shutdown, .turn 4,
      .turn 0, .turn 4, .trigger swapMessage]

/-- The host's request has it, and the trigger is turned away. -/
theorem host_ends_before_limit : ∃ s, contestedRun = some s ∧
    s.scheduler.due? s.now = some .service ∧ reasonsTold s.record = [.requested] ∧
    s.terminated = some .requested ∧ (∀ reason, s.scheduler.state ≠ .fired reason) ∧
    ∃ s'', s.step Plan.collaborators 5 = some s'' ∧
      answers s''.record = answers s.record ++ [(5, .trigger (.error .shutDown))] := by
  have hrun : contestedRun.isSome = true := rfl
  obtain ⟨-, htold, -, -, hfired, hlater⟩ :=
    one_end_one_reason (reachable_of_playFrom (Option.some_get hrun).symm)
  refine ⟨contestedRun.get hrun, (Option.some_get hrun).symm, rfl, htold, rfl, ?_, ?_⟩
  · exact hfired (List.mem_of_getElem? (i := 13) rfl)
  · exact (hlater rfl _ .refl).2.2 5 swapMessage (List.mem_of_getElem? (i := 2) rfl)

end Service

end PushWake
