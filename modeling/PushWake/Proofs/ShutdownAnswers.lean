import PushWake.Collaborators.Plan
import PushWake.Proofs.NothingLeaks
import PushWake.Proofs.OneEnd
import PushWake.Proofs.SessionSlot

/-!
# Down when the host is told

A teardown tells the host as the last thing it does, with the session closed behind it. From then
on nobody can connect any more, so the connection stays gone, and the service is down for good.
Who asks for the end is answered when the service is down, with one exception: a request that
finds somebody else in the middle of it (`FindsEnding`) is answered at once, and the teardown goes
on without it.
-/

namespace PushWake.Service

variable {W : Type} {env : Collaborators W} {s s' t : Service W} {j k : Nat}

/-- A service that is down: the host has been told, whoever waits for the end has its reason, and
there is no connection. -/
structure IsDown (s : Service W) : Prop where
  told : ∃ reason, .hostShutdown reason ∈ s.record ∧ s.terminated = some reason
  disconnected : s.hub.state = .disconnected

/-- A request to end the service finds somebody else in the middle of it. -/
structure FindsEnding (s : Service W) (k : Nat) : Prop where
  asks : (k, .shutdown none) ∈ s.activities
  ending : s.ending = true
  untold : s.terminated = none

/-! ## How a teardown ends -/

/-- The host has been told nothing, or there is no connection. -/
def Lands (s t : Service W) : Prop := t.terminated = s.terminated ∨ t.hub.state = .disconnected

/-- A teardown lands wherever it began, if nothing was published on the way. -/
theorem Lands.trans {u : Service W} (h : Lands t u) (ht : t.terminated = s.terminated) :
    Lands s u :=
  h.imp_left fun he => he.trans ht

theorem sessionStable_terminated {told : Option ShutdownReason} :
    SessionStable fun t : Service W => t.terminated = told where
  quiet _ _ _ _ _ _ _ h := h
  draw h := h
  hub _ _ h := h
  note _ h := h

/-- Whoever ends a disconnect leaves the slot disconnected. -/
theorem slotTurn_gone {v v' : Slate} {close : Bool} {stage : Option DisconnectStage}
    (h : SlotTurn k (.disconnect close stage) v none v') : v'.state = .disconnected := by
  cases h with
  | leave | taken => rfl

/-- A disconnect that is through leaves no connection. -/
theorem disconnect_gone {close : Bool} {stage : Option DisconnectStage}
    {r : Service W × DisconnectProgress}
    (h : InSlot k (.disconnect close stage) s (fun st => .disconnect close (some st))
      (fun _ => .disconnected) r) (hdone : r.2 = .done ()) : r.1.hub.state = .disconnected := by
  obtain ⟨t, progress⟩ := r
  cases hdone
  exact slotTurn_gone h.2.2

theorem enterDisconnect_gone {close : Bool} (hdone : (s.enterDisconnect env k close).2 = .done ()) :
    (s.enterDisconnect env k close).1.hub.state = .disconnected := by
  revert hdone
  unfold enterDisconnect
  extract_lets requested
  split
  · have hin : InSlot k (.disconnect close none) requested _ _
        (requested.beginDisconnect env close) := beginDisconnect_inSlot nofun
    exact disconnect_gone hin
  · exact nofun

theorem resumeDisconnect_gone {close : Bool} {stage : DisconnectStage}
    {r : Service W × DisconnectProgress} (hr : s.resumeDisconnect env k close stage = some r)
    (hdone : r.2 = .done ()) : r.1.hub.state = .disconnected := by
  obtain ⟨-, hin⟩ := resumeDisconnect_inSlot hr
  exact disconnect_gone hin hdone

/-- The host is told at the end of the disconnect, and not before. -/
theorem afterClosing_lands {reason : ShutdownReason} {r : Service W × DisconnectProgress}
    (hr : r.1.terminated = s.terminated) (hgone : r.2 = .done () → r.1.hub.state = .disconnected) :
    Lands s (afterClosing reason r).1 := by
  obtain ⟨t, progress⟩ := r
  cases progress with
  | waits stage => exact .inl hr
  | done => exact .inr (hgone rfl)

theorem afterStopping_lands {reason : ShutdownReason} {r : Service W × PluginStopProgress}
    (hr : r.1.terminated = s.terminated) : Lands s (afterStopping env k reason r).1 := by
  obtain ⟨t, progress⟩ := r
  cases progress with
  | waits stage => exact .inl hr
  | done =>
    exact afterClosing_lands (sessionStable_terminated.enterDisconnect hr fun h => h)
      enterDisconnect_gone

/-- A teardown that begins lands at once, or nothing is published yet. -/
theorem enterTeardown_lands (reason : ShutdownReason) :
    Lands s (s.enterTeardown env k reason).1 := by
  unfold enterTeardown
  split
  · exact .inl rfl
  · exact afterStopping_lands (sessionStable_terminated.enterStop k rfl fun h => h)

/-- So does one that goes on. -/
theorem resumeTeardown_lands {reason : ShutdownReason} {stage : TeardownStage}
    {r : Service W × TeardownProgress} (hr : s.resumeTeardown env k reason stage = some r) :
    Lands s r.1 := by
  cases stage with
  | stoppingPlugins stage =>
    obtain ⟨p, hp, rfl⟩ := Option.map_eq_some_iff.mp hr
    exact afterStopping_lands (sessionStable_terminated.resumeStop hp rfl fun h => h)
  | closingConnection stage =>
    obtain ⟨p, hp, rfl⟩ := Option.map_eq_some_iff.mp hr
    exact afterClosing_lands (sessionStable_terminated.resumeDisconnect hp rfl fun h => h)
      (resumeDisconnect_gone hp)

theorem workBlind_terminated {told : Option ShutdownReason} :
    WorkBlind fun t : Service W => t.terminated = told where
  quiet _ _ _ _ _ h := h
  use _ _ h := h
  note _ h := h
  settlement _ _ _ h := h

theorem signalJobs_terminated : s.signalJobs.1.terminated = s.terminated :=
  workBlind_terminated.stable.signalJobs (fun id _ h => workBlind_terminated.signal id h)
    (fun _ => rfl) fun _ => rfl

theorem enterShutdown_lands : Lands s (s.enterShutdown env k).1 := by
  unfold enterShutdown
  split
  · exact .inl rfl
  · exact (enterTeardown_lands .requested).trans
      ((Aside.send (s := s.signalJobs.1) .cancel).terminated.trans signalJobs_terminated)

/-- The scheduler publishes a reason when its own teardown lands, and at no other time. -/
theorem resumeScheduler_lands {stage : SchedulerStage} {r : Service W × SchedulerProgress}
    (hr : s.resumeScheduler env k stage = some r) : Lands s r.1 := by
  cases schedulerTurn_of_resume hr with
  | @obeys command rest _ =>
    obtain ⟨log, he⟩ := obey_eq (s := { s with commands := rest }) command
    rw [he]
    exact .inl rfl
  | limit =>
    rw [serviceOver, Steady.afterTeardown_fst]
    exact (enterTeardown_lands .serviceTimeout).trans
      (signalJobs_terminated (s := (s.note (.expired .service)).say _ _ _))
  | delay =>
    by_cases hidle : s.jobs.closed = false ∧ s.jobs.entries = []
    · obtain ⟨log, he⟩ := emptyOver_of_idle env k hidle.1 hidle.2
      rw [he, Steady.afterTeardown_fst]
      exact (enterTeardown_lands .emptyDelay).trans rfl
    · obtain ⟨log, he⟩ := emptyOver_of_busy env k hidle
      rw [he]
      exact .inl rfl
  | tearsDown hp =>
    rw [Steady.afterTeardown_fst]
    exact resumeTeardown_lands hp

theorem answer_hub (c : CallAnswer) : (s.answer k c).cancelIfUnheld.hub = s.hub := by
  unfold cancelIfUnheld
  split
  · exact send_hub .cancel
  · rfl

theorem followShutdown_lands {r : Service W × TeardownProgress} (h : Lands s r.1) :
    Lands s (follow k (fun stage => .shutdown (some stage))
      (fun s _ => (s.answer k .shutDown).cancelIfUnheld) r) := by
  obtain ⟨t, progress⟩ := r
  cases progress with
  | waits stage => exact h
  | done =>
    have hsame : (t.answer k .shutDown).cancelIfUnheld.terminated = t.terminated :=
      (routine_aside.answer k .shutDown .refl).terminated
    exact h.imp (fun he => hsame.trans he) fun hgone => by
      rw [follow, answer_hub]
      exact hgone

/-- **The host is told nothing as long as there may be a connection.** -/
theorem lands_move (hown : ∀ j a, (j, a) ∈ s.activities → isOwn a = true) (hm : Move env s s') :
    Lands s s' := by
  cases hm with
  | @act _ k hs =>
    cases ownStep_of_step hown hs with
    | @scheduler stage r ha hr =>
      have hl := resumeScheduler_lands hr
      obtain ⟨t, progress⟩ := r
      cases progress with
      | waits | done => exact hl
    | trigger ha hr => exact .inl (routine_aside.trigger hr .refl).terminated
    | enterShutdown ha => exact followShutdown_lands enterShutdown_lands
    | shutdown ha hr => exact followShutdown_lands (resumeTeardown_lands hr)
    | freshBody ha => exact .inl (routine_aside.freshBody workStable_aside .refl).terminated
    | body ha hr => exact .inl (routine_aside.body workStable_aside hr .refl).terminated
    | @reaper id job completer outcome ha hc =>
      exact .inl (routine_aside.removeJob id outcome .refl).terminated
    | @settlement session due steps ha hdue =>
      exact .inl (workStable_aside.settleLater session steps .refl).terminated
  | call _ _ => exact .inl rfl
  | report session e => exact .inl (workStable_aside.emit session e .refl).terminated
  | wait t => exact .inl rfl
  | release =>
    exact .inl (routine_aside.cancelIfUnheld (s := { s with released := true })
      (routine_aside.release .refl)).terminated
  | rouse wakes => exact .inl rfl

/-! ## A service that is down -/

/-- Nobody is in the midst of a teardown once the reason has been published. -/
theorem Steered.not_tears (h : Steered s) (htold : s.terminated.isSome = true) {a : Activity}
    (ha : (k, a) ∈ s.activities) : tears? a = none := by
  cases ht : tears? a with
  | none => rfl
  | some reason =>
    -- whoever is at it and the one who is through would make two
    have hmem : reason ∈ s.tearing := mem_gathered.mpr ⟨k, a, ha, ht⟩
    have hlength := h.once
    have hpos := List.length_pos_of_mem hmem
    obtain ⟨reason', hsome⟩ := Option.isSome_iff_exists.mp htold
    rw [h.begun, hsome, List.length_append, Option.toList_some, List.length_singleton] at hlength
    omega

theorem workBlind_hub {hub : ConnectionHub} : WorkBlind fun t : Service W => t.hub = hub where
  quiet _ _ _ _ _ h := h
  use _ _ h := h
  note _ h := h
  settlement _ _ _ h := h

theorem change_hub (c : JobSet.Change) : (s.change c).hub = s.hub := by
  unfold change
  extract_lets t
  split
  · exact send_hub _
  · rfl

theorem removeJob_hub (id : Identity) (o : JobOutcome) : (s.removeJob id o).1.hub = s.hub := by
  unfold removeJob
  split
  · rfl
  · cases o with
    | completed | failed => exact change_hub _

theorem followBody_hub {id : Identity} {completer : Nat} {connection : Connection}
    {r : Service W × BodyProgress} (h : r.1.hub = s.hub) : (follow k (.body id completer connection)
      (fun s result => s.endBody k id result) r).hub = s.hub := by
  obtain ⟨stage, -, he⟩ | ⟨result, log, -, he⟩ := followBody_eq k id completer connection r
  · rw [he]
    exact h
  · rw [he]
    exact h

theorem releaseSlot_state : s.releaseSlot.hub.state = s.hub.state := by
  rw [releaseSlot, wakeHolder_hub]

theorem releaseShelf_hub : s.releaseShelf.hub = s.hub := by
  rw [releaseShelf, wakeHolder_hub]

theorem releaseShelf_ending : s.releaseShelf.ending = s.ending := by
  unfold releaseShelf wakeHolder
  split <;> rfl

/-- A trigger that comes out of a start when the service is ending is turned away. -/
theorem afterPlugins_hub {trigger : Trigger} {connection : Connection}
    {r : Service W × PluginStartProgress} (hending : r.1.ending = true) :
    (afterPlugins trigger connection r).1.hub = r.1.hub := by
  obtain ⟨t, progress⟩ := r
  cases progress with
  | waits stage => rfl
  | done running =>
    have hending : t.ending = true := hending
    simp only [afterPlugins, hending, if_true, dropTrigger]
    rfl

section
variable (hsane : Sane s) (hsteered : Steered s) (htold : s.terminated.isSome = true)
include hsteered htold

theorem ending_of_told : s.ending = true := by
  obtain ⟨reason, hsome⟩ := Option.isSome_iff_exists.mp htold
  refine hsteered.ending.mpr ?_
  rw [hsteered.begun, hsome]
  exact List.append_ne_nil_of_right_ne_nil _ (List.cons_ne_nil _ _)

include hsane

/-- The hub has been closed by then. -/
theorem closed_of_told : s.hub.closed = true := by
  obtain ⟨reason, hsome⟩ := Option.isSome_iff_exists.mp htold
  refine hsane.ledger.closed_of_told ⟨reason, mem_reasonsTold.mp ?_⟩
  rw [show s.holdings.record = s.record from rfl, hsteered.told, hsome]
  exact List.mem_singleton.mpr rfl

/-- Nobody gets a connection any more: a trigger is turned away wherever it waits. -/
theorem resumeTrigger_hub {m : TriggerMessage} {stage : TriggerStage}
    {r : Service W × TriggerProgress} (ha : (k, .trigger m stage) ∈ s.activities)
    (hr : s.resumeTrigger env k m stage = some r) : r.1.hub.state = s.hub.state := by
  have hending := ending_of_told hsteered htold
  have hclosed := closed_of_told hsane hsteered htold
  have hstopped : s.shelf.stopped = true := hsane.ledger.stopped_of_closed hclosed
  have hhalfway := not_isHalfway hsane hclosed ha
  -- with the hub closed and the plugins stopped a trigger gets no further than the next lock
  cases stage with
  | arriving =>
    cases hr
    simp only [enterTrigger, hending, if_true, dropTrigger]
    rfl
  | connecting trigger stage =>
    obtain ⟨c, hc, rfl⟩ := Option.map_eq_some_iff.mp hr
    cases stage with
    | awaitingSlot =>
      obtain ⟨-, hc⟩ := Option.ite_none_right_eq_some.mp hc
      cases hc
      simp only [beginConnect, hclosed, if_true, afterConnect, dropTrigger]
      exact releaseSlot_state (s := s.say _ _ _)
    | opening | abandoning => cases hhalfway
  | startingPlugins trigger connection stage =>
    obtain ⟨p, hp, rfl⟩ := Option.map_eq_some_iff.mp hr
    cases stage with
    | awaitingShelf =>
      obtain ⟨-, hp⟩ := Option.ite_none_right_eq_some.mp hp
      cases hp
      have hout : (s.say "plugin" .debug "Plugins stopped, not starting nwc").releaseShelf.ending =
          true := releaseShelf_ending.trans hending
      simp only [beginStart, hstopped, if_true, endStart]
      exact congrArg ConnectionHub.state ((afterPlugins_hub hout).trans releaseShelf_hub)
    | creating | undoing => cases hhalfway

omit hsane in
/-- The scheduler of a service that is down only obeys. -/
theorem resumeScheduler_hub {stage : SchedulerStage} {r : Service W × SchedulerProgress}
    (ha : (k, .scheduler stage) ∈ s.activities) (hr : s.resumeScheduler env k stage = some r) :
    r.1.hub = s.hub := by
  cases schedulerTurn_of_resume hr with
  | @obeys command rest _ =>
    obtain ⟨log, he⟩ := obey_eq (s := { s with commands := rest }) command
    rw [he]
  | limit hc | delay hc =>
    have hstop := hsteered.stops (listens_of_mem ha) (ending_of_told hsteered htold)
    rw [hc] at hstop
    cases hstop
  | tearsDown => cases hsteered.not_tears htold ha

/-- Nothing that is still under way connects again. -/
theorem state_ownStep (hs : OwnStep env s k s') : s'.hub.state = s.hub.state := by
  cases hs with
  | @scheduler stage r ha hr =>
    have hhub := resumeScheduler_hub hsteered htold ha hr
    obtain ⟨t, progress⟩ := r
    cases progress with
    | waits | done => exact congrArg ConnectionHub.state hhub
  | @trigger m stage r ha hr =>
    have hstate := resumeTrigger_hub hsane hsteered htold ha hr
    obtain ⟨t, progress⟩ := r
    cases progress with
    | waits stage => exact hstate
    | done result => exact (congrArg ConnectionHub.state (answer_hub _)).trans hstate
  | enterShutdown ha =>
    simp only [enterShutdown, ending_of_told hsteered htold, if_true, follow]
    exact congrArg ConnectionHub.state (answer_hub _)
  | shutdown ha hr => cases hsteered.not_tears htold ha
  | @freshBody id completer connection ha =>
    have hrunning : (s.markRunning id).1.hub = s.hub := change_hub _
    exact congrArg ConnectionHub.state
      (followBody_hub (workBlind_hub.stable.beginBody id completer connection.session hrunning))
  | body ha hr =>
    exact congrArg ConnectionHub.state (followBody_hub (workBlind_hub.stable.resumeBody hr rfl))
  | reaper ha hc => exact congrArg ConnectionHub.state (removeJob_hub _ _)
  | settlement ha hdue =>
    exact congrArg ConnectionHub.state (workBlind_hub.stable.settleLater _ _ rfl)

/-- **The connection of a service that is down stays as it is.** -/
theorem state_move (hm : Move env s s') : s'.hub.state = s.hub.state := by
  cases hm with
  | act hs => exact state_ownStep hsane hsteered htold (ownStep_of_step hsane.own hs)
  | call _ _ => rfl
  | report session e =>
    exact congrArg ConnectionHub.state (workBlind_hub.stable.emit session e rfl)
  | wait t => rfl
  | release =>
    unfold release cancelIfUnheld
    split
    · exact congrArg ConnectionHub.state (send_hub .cancel)
    · rfl
  | rouse wakes => rfl

end

/-- A service is down when its reason has been published and the hub says it is disconnected. -/
theorem isDown_iff (h : Steered s) :
    s.IsDown ↔ s.terminated.isSome = true ∧ s.hub.state = .disconnected := by
  constructor
  · rintro ⟨⟨reason, -, hsome⟩, hgone⟩
    exact ⟨Option.isSome_iff_exists.mpr ⟨reason, hsome⟩, hgone⟩
  · rintro ⟨htold, hgone⟩
    obtain ⟨reason, hsome⟩ := Option.isSome_iff_exists.mp htold
    refine ⟨⟨reason, mem_reasonsTold.mp ?_, hsome⟩, hgone⟩
    rw [h.told, hsome]
    exact List.mem_singleton.mpr rfl

/-- **A service whose end can be had is down.** -/
theorem isDown_of_told (h : Reachable env s) (htold : s.terminated.isSome = true) : s.IsDown := by
  refine (isDown_iff (steered_reachable h)).mpr ⟨htold, ?_⟩
  induction h with
  | start hs =>
    obtain ⟨message, rfl⟩ := start_eq hs
    cases htold
  | @move s s' hr hm ih =>
    cases hbefore : s.terminated.isSome with
    | true =>
      exact (state_move (sane_reachable hr) (steered_reachable hr) hbefore hm).trans (ih hbefore)
    | false =>
      refine (lands_move (sane_reachable hr).own hm).resolve_left fun hsame => ?_
      rw [hsame, hbefore] at htold
      cases htold

/-- The end can be had from then on. -/
theorem told_later (h : Reachable env s) (htold : s.terminated.isSome = true)
    (hl : Later env s s') : s'.terminated.isSome = true := by
  have hgrown : reasonsTold s.record <+: reasonsTold s'.record :=
    ((sane_reachable h).later hl).deals.grows.filterMap _
  obtain ⟨reason, hsome⟩ := Option.isSome_iff_exists.mp htold
  rw [(steered_reachable h).told, (steered_reachable (h.later hl)).told, hsome] at hgrown
  cases hterminated : s'.terminated with
  | none => simp [hterminated] at hgrown
  | some => rfl

/-! ## Whose requests are answered -/

/-- No request to end the service has been answered between two points. -/
def Unheard (s t : Service W) : Prop :=
  ∀ j, .answered j .shutDown ∈ t.record → .answered j .shutDown ∈ s.record

theorem Enters.unheard {new : List (Identity × Nat)} (h : Enters new s t) : Unheard s t :=
  fun _ => h.unanswered.mp

/-- A call that is answered is the only one. -/
theorem mem_of_answer {c : CallAnswer} (h : Unheard s t)
    (hj : .answered j .shutDown ∈ (t.answer k c).cancelIfUnheld.record) :
    .answered j .shutDown ∈ s.record ∨ (j = k ∧ c = .shutDown) := by
  have hj := enters_cancelIfUnheld.unanswered.mp hj
  rw [answer, record_note, List.mem_append, List.mem_singleton] at hj
  rcases hj with hj | hj
  · exact .inl (h j hj)
  · cases hj
    exact .inr ⟨rfl, rfl⟩

theorem removeJob_unheard (id : Identity) (o : JobOutcome) : Unheard s (s.removeJob id o).1 := by
  intro j hj
  cases hfind : s.jobs.find? id with
  | none =>
    simp only [removeJob, hfind] at hj
    exact hj
  | some e =>
    obtain ⟨left, log, -, hout⟩ := s.removeJob_of_without hfind o
    have henters : Enters [] (s.without id o left log) (s.removeJob id o).1 :=
      hout steady_enters.toErrand .refl
    have hj := henters.unanswered.mp hj
    rw [record_without, List.mem_append, List.mem_singleton] at hj
    exact hj.resolve_right fun h => by cases h

/-- How a request to end the service comes to be answered: the service is down, or somebody else is
in the middle of it. -/
def Informed (s s' : Service W) (j : Nat) : Prop :=
  (s'.terminated.isSome = true ∧ ¬s.FindsEnding j) ∨ (s.FindsEnding j ∧ s'.terminated = none)

/-- A call to shut down that comes back at once has ended the service, or found the end begun. -/
theorem enterShutdown_informed (h : Steered s) (ha : (k, .shutdown none) ∈ s.activities)
    (hdone : (s.enterShutdown env k).2 = .done ()) : Informed s (s.enterShutdown env k).1 k := by
  cases halive : s.ending with
  | true =>
    simp only [enterShutdown, halive, if_true]
    cases hterminated : s.terminated with
    | none => exact .inr ⟨⟨ha, halive, hterminated⟩, hterminated⟩
    | some reason =>
      refine .inl ⟨by rw [hterminated]; rfl, fun hf => ?_⟩
      cases hterminated.symm.trans hf.untold
  | false =>
    have hopen : s.jobs.closed = false := h.closed.trans halive
    have hr : Unfolds _ .requested ((s.signalJobs.1.send .cancel).enterTeardown env k .requested) :=
      unfolds_enterTeardown
        ((send_ending _).trans ((signals_signalJobs hopen).ending.trans halive))
    simp only [enterShutdown, halive, Bool.false_eq_true, if_false] at hdone ⊢
    generalize (s.signalJobs.1.send .cancel).enterTeardown env k .requested = r at hdone hr ⊢
    cases hr with
    | waits => cases hdone
    | done _ htold =>
      refine .inl ⟨by rw [htold.terminated]; rfl, fun hf => ?_⟩
      cases halive.symm.trans hf.ending

theorem shutdown_informed (hsane : Sane s) (h : Steered s) {stage : TeardownStage}
    {r : Service W × TeardownProgress} (ha : (k, .shutdown (some stage)) ∈ s.activities)
    (hr : s.resumeTeardown env k .requested stage = some r) (hdone : r.2 = .done ()) :
    Informed s r.1 k := by
  cases unfolds_resumeTeardown (h.ending_of_mem ha rfl) hr with
  | waits => cases hdone
  | done _ htold =>
    refine .inl ⟨by rw [htold.terminated]; rfl, fun hf => ?_⟩
    cases hsane.numbered.unique ha hf.asks

theorem followShutdown_informed {r : Service W × TeardownProgress} (hr : Unheard s r.1)
    (hheard : r.2 = .done () → Informed s r.1 k)
    (hj : .answered j .shutDown ∈ (follow k (fun stage => .shutdown (some stage))
      (fun s _ => (s.answer k .shutDown).cancelIfUnheld) r).record) :
    .answered j .shutDown ∈ s.record ∨ Informed s (follow k (fun stage => .shutdown (some stage))
      (fun s _ => (s.answer k .shutDown).cancelIfUnheld) r) j := by
  obtain ⟨t, progress⟩ := r
  cases progress with
  | waits stage => exact .inl (hr j hj)
  | done =>
    rcases mem_of_answer hr hj with hj | ⟨rfl, -⟩
    · exact .inl hj
    · have hsame : (t.answer j .shutDown).cancelIfUnheld.terminated = t.terminated :=
        (routine_aside.answer j .shutDown .refl).terminated
      refine .inr ?_
      rw [Informed, follow, hsame]
      exact hheard rfl

theorem followBody_unheard {id : Identity} {completer : Nat} {connection : Connection}
    {r : Service W × BodyProgress} (h : Unheard s r.1) :
    Unheard s
      (follow k (.body id completer connection) (fun s result => s.endBody k id result) r) := by
  obtain ⟨stage, -, he⟩ | ⟨result, log, -, he⟩ := followBody_eq k id completer connection r
  · rw [he]
    exact h
  · rw [he]
    exact h

section
variable (hsane : Sane s) (hsteered : Steered s)
include hsane hsteered

/-- **Whoever is answered in a step finds the service down, or somebody else in the middle of ending
it.** -/
theorem heard_ownStep (hs : OwnStep env s k s') (hj : .answered j .shutDown ∈ s'.record) :
    .answered j .shutDown ∈ s.record ∨ Informed s s' j := by
  cases hs with
  | @scheduler stage r ha hr =>
    have he : Enters [] s r.1 := steady_enters.resumeScheduler deskStable_enters hr .refl
    obtain ⟨t, progress⟩ := r
    cases progress with
    | waits | done => exact .inl (he.unheard j hj)
  | @trigger m stage r ha hr =>
    have he : TriggerIn (fun t => Enters [] s t) (fun id t => ∃ c, Enters [(id, c)] s t) r :=
      steady_enters.resumeTrigger
        (fun trigger connection he hopen => enters_beginJob he hopen trigger connection) hr .refl
    have hunheard : Unheard s r.1 := by
      obtain ⟨t, _ | (_ | _)⟩ := r
      · exact Enters.unheard he
      · exact Enters.unheard he
      · exact he.choose_spec.unheard
    obtain ⟨t, progress⟩ := r
    cases progress with
    | waits stage => exact .inl (hunheard j hj)
    | done result => exact .inl ((mem_of_answer hunheard hj).resolve_right fun h => by cases h.2)
  | enterShutdown ha =>
    exact followShutdown_informed (steady_enters.enterShutdown .refl).unheard
      (enterShutdown_informed hsteered ha) hj
  | shutdown ha hr =>
    exact followShutdown_informed (steady_enters.resumeTeardown hr .refl).unheard
      (shutdown_informed hsane hsteered ha hr) hj
  | @freshBody id completer connection ha =>
    have he : Enters [] s ((s.markRunning id).1.beginBody env id completer connection.session).1 :=
      workStable_enters.beginBody _ _ _ (steady_enters.markRunning id .refl)
    exact .inl (followBody_unheard he.unheard j hj)
  | @body id completer connection stage r ha hr =>
    have he : Enters [] s r.1 := workStable_enters.resumeBody hr .refl
    exact .inl (followBody_unheard he.unheard j hj)
  | reaper ha hc => exact .inl (removeJob_unheard _ _ j hj)
  | @settlement session due steps ha hdue =>
    have he : Enters [] s (settleLater env session s steps) :=
      workStable_enters.settleLater _ _ .refl
    exact .inl (he.unheard j hj)

/-- **A request is answered when the service is down, or while somebody else is at it.** -/
theorem heard_move (hm : Move env s s') (hj : .answered j .shutDown ∈ s'.record) :
    .answered j .shutDown ∈ s.record ∨ Informed s s' j := by
  cases hm with
  | act hs => exact heard_ownStep hsane hsteered (ownStep_of_step hsane.own hs) hj
  | call _ _ => exact .inl hj
  | report session e =>
    have he : Enters [] s (s.emit env session e) := workStable_enters.emit session e .refl
    exact .inl (he.unheard j hj)
  | wait t => exact .inl hj
  | release =>
    have he : Enters [] { s with released := true } s.release := enters_cancelIfUnheld
    exact .inl (he.unheard j hj)
  | rouse wakes => exact .inl hj

end

/-- A request that finds the service ending is answered in its first step. -/
theorem answered_of_ending (hn : s.scene.Numbered) (hending : s.ending = true)
    (ha : (k, .shutdown none) ∈ s.activities) :
    ∃ s', s.step env k = some s' ∧ .answered k .shutDown ∈ s'.record := by
  have hactivity : s.activity? k = some (.shutdown none) := activity?_of_mem hn ha
  refine ⟨(s.answer k .shutDown).cancelIfUnheld, ?_, ?_⟩
  · rw [step, hactivity, Option.bind_some, act, enterShutdown, if_pos hending]
    rfl
  · refine enters_cancelIfUnheld.unanswered.mpr ?_
    rw [answer, record_note]
    exact List.mem_append_right _ (List.mem_singleton.mpr rfl)

/-- **Whoever asks for the end is answered when the service is down**, unless the request finds
somebody else in the middle of it: then it is answered at once, and the service is ending but not
down. A service whose end can be had is down, and stays so. -/
theorem shutdown_answered_when_down (h : Reachable env s) :
    (∀ s' k, Move env s s' → .answered k .shutDown ∉ s.record → .answered k .shutDown ∈ s'.record →
      s'.ending = true ∧ (s'.IsDown ↔ ¬s.FindsEnding k)) ∧
    (∀ k, s.FindsEnding k → ∃ s', s.step env k = some s' ∧ .answered k .shutDown ∈ s'.record) ∧
    (s.terminated.isSome = true → ∀ s', Later env s s' → s'.IsDown) := by
  have hsane := sane_reachable h
  refine ⟨fun s' k hm hnew hj => ?_, fun k hf => answered_of_ending hsane.numbered hf.ending
    hf.asks, fun htold s' hl => isDown_of_told (h.later hl) (told_later h htold hl)⟩
  have h' : Reachable env s' := h.move hm
  rcases (heard_move hsane (steered_reachable h) hm hj).resolve_left hnew with
    ⟨htold, hnot⟩ | ⟨hf, hnone⟩
  · exact ⟨ending_of_told (steered_reachable h') htold,
      iff_of_true (isDown_of_told h' htold) hnot⟩
  · refine ⟨(over_later h hf.ending (.move .refl hm)).ending, iff_of_false ?_ fun hnot => hnot hf⟩
    rintro ⟨⟨reason, -, hsome⟩, -⟩
    cases hsome.symm.trans hnone

/-- A service with a session that takes its time to disconnect, and two requests to end it. -/
def doubledEnd : Option (Service Plan) :=
  playFrom Plan.collaborators {} false { delays := { disconnect := 500 } }
    [.trigger swapMessage, .turn 1, .turn 1, .shutdown, .turn 4, .shutdown, .wait 500]

theorem unheard_doubledEnd (hrun : doubledEnd.isSome = true) (hk : 1 < k) :
    .answered k .shutDown ∉ (doubledEnd.get hrun).record := by
  intro hin
  have hcalls : (answers (doubledEnd.get hrun).record).map Prod.fst = [1] := rfl
  have hone := List.mem_map_of_mem (f := Prod.fst) (mem_answers.mpr hin)
  rw [hcalls] at hone
  cases List.mem_singleton.mp hone
  exact Nat.lt_irrefl 1 hk

/-- The second request is answered while the session is still being disconnected for the first. -/
theorem second_shutdown_answered_early : ¬∀ (s s' : Service Plan) (k : Nat),
    Reachable Plan.collaborators s → Move Plan.collaborators s s' →
    .answered k .shutDown ∉ s.record → .answered k .shutDown ∈ s'.record → s'.IsDown := by
  intro hclaim
  have hrun : doubledEnd.isSome = true := rfl
  have hstep : ((doubledEnd.get hrun).step Plan.collaborators 5).isSome = true := rfl
  obtain ⟨⟨reason, -, hsome⟩, -⟩ := hclaim _ _ 5
    (reachable_of_playFrom (Option.some_get hrun).symm) (.act (Option.some_get hstep).symm)
    (unheard_doubledEnd hrun (by decide)) (List.mem_of_getElem? (i := 14) rfl)
  have hnone : (((doubledEnd.get hrun).step Plan.collaborators 5).get hstep).terminated = none :=
    rfl
  cases hnone.symm.trans hsome

/-- The first request of that run is answered when the service is down, and the second before. -/
theorem first_shutdown_answered_last : ∃ s s' t : Service Plan, doubledEnd = some s ∧
    s.step Plan.collaborators 4 = some s' ∧ .answered 4 .shutDown ∈ s'.record ∧ s'.IsDown ∧
    s.step Plan.collaborators 5 = some t ∧ .answered 5 .shutDown ∈ t.record ∧ ¬t.IsDown := by
  have hrun : doubledEnd.isSome = true := rfl
  have hr := reachable_of_playFrom (Option.some_get hrun).symm
  have hstep : ((doubledEnd.get hrun).step Plan.collaborators 4).isSome = true := rfl
  have hfirst : ¬(doubledEnd.get hrun).FindsEnding 4 := by
    intro hf
    have hunder : (4, _) ∈ (doubledEnd.get hrun).activities := List.mem_of_getElem? (i := 3) rfl
    cases (sane_reachable hr).numbered.unique hunder hf.asks
  have hsecond : (doubledEnd.get hrun).FindsEnding 5 :=
    ⟨List.mem_of_getElem? (i := 4) rfl, rfl, rfl⟩
  obtain ⟨hdown, hearly, -⟩ := shutdown_answered_when_down hr
  obtain ⟨t, ht, hanswered⟩ := hearly 5 hsecond
  have hanswer : .answered 4 .shutDown ∈
      (((doubledEnd.get hrun).step Plan.collaborators 4).get hstep).record :=
    List.mem_of_getElem? (i := 15) rfl
  refine ⟨doubledEnd.get hrun, ((doubledEnd.get hrun).step Plan.collaborators 4).get hstep, t,
    (Option.some_get hrun).symm, (Option.some_get hstep).symm, hanswer, ?_, ht, hanswered, ?_⟩
  · exact (hdown _ 4 (.act (Option.some_get hstep).symm)
      (unheard_doubledEnd hrun (by decide)) hanswer).2.mpr hfirst
  · exact fun h => (hdown t 5 (.act ht) (unheard_doubledEnd hrun (by decide)) hanswered).2.mp
      h hsecond

end PushWake.Service
