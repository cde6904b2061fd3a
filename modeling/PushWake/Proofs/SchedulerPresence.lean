import PushWake.Proofs.MoveStable
import PushWake.Proofs.RunInvariant

/-!
# The scheduler and the end

Two facts that hold throughout a run. There is one scheduler, the first activity of all, and as
long as it is there its commands are read; and a service of which it is recorded that it began to
end is ending.
-/

namespace PushWake.Service

variable {W : Type} {env : Collaborators W} {s s' : Service W} {k : Nat}

/-! ## Who the scheduler is -/

/-- The first activity is the only scheduler there is, and while it is there the
commands are read. -/
def Clocked (s : Service W) : Prop :=
  ∀ j a, (j, a) ∈ s.activities → isScheduler a = true → j = 0 ∧ s.inboxOpen = true

namespace Clocked

variable {t : Service W} (h : Clocked s) (hj : Joined s.scene t.scene)
include h hj

/-- Whoever joins is a worker, and so no scheduler. -/
theorem join : Clocked t := by
  intro j a ha hs
  rw [show t.inboxOpen = s.inboxOpen from hj.unchanged.2.1]
  rcases hj.mem ha with ha | ha
  · exact h j a ha hs
  · cases a with
    | scheduler => cases ha
    | _ => cases hs

/-- An activity that comes to wait is a scheduler only if it was one. -/
theorem put {a a' : Activity} (ha : (k, a) ∈ s.activities)
    (hsame : isScheduler a' = true → isScheduler a = true) : Clocked (t.put k a') := by
  intro j b hb hs
  rcases mem_put hb with ⟨rfl, rfl⟩ | ⟨hb, -⟩
  · exact h.join hj _ a (hj.stays ha) (hsame hs)
  · exact h.join hj j b hb hs

theorem finish : Clocked (t.finish k) :=
  fun j b hb hs => h.join hj j b (mem_finish.mp hb).1 hs

/-- The host that drops the service may stop its scheduler here, but does not remove it. -/
theorem answer (a : CallAnswer) : Clocked (t.answer k a).cancelIfUnheld :=
  (h.finish hj (k := k)).join (answered_turn (k := k) a).joined

theorem shutdown {stage : Option TeardownStage} {progress : TeardownProgress}
    (ha : (k, .shutdown stage) ∈ s.activities) :
    Clocked (follow k (fun stage => .shutdown (some stage))
      (fun s _ => (s.answer k .shutDown).cancelIfUnheld) (t, progress)) := by
  cases progress with
  | waits stage => exact h.put hj ha nofun
  | done => exact h.answer hj _

/-- A body is no scheduler, however it ends. -/
theorem body {id : Identity} {completer : Nat} {connection : Connection} {stage : BodyStage}
    {progress : BodyProgress} (ha : (k, .body id completer connection stage) ∈ s.activities) :
    Clocked (follow k (.body id completer connection)
      (fun s result => s.endBody k id result) (t, progress)) := by
  obtain ⟨stage', -, he⟩ | ⟨result, log, -, he⟩ :=
    followBody_eq k id completer connection (t, progress)
  · rw [he]
    exact h.put hj ha nofun
  · rw [he]
    exact h.finish (t := { t with log }) hj

end Clocked

/-- Each step keeps the scheduler where it is. When it comes to its end, no scheduler is left and
nothing has to be known of the commands. -/
theorem clocked_ownStep (hsane : Sane s) (h : Clocked s) (hs : OwnStep env s k s') :
    Clocked s' := by
  cases hs with
  | @scheduler stage r ha hr =>
    have hj := (resumeScheduler_turn (hsane.sound _ _ ha) hr).1.joined
    obtain ⟨t, progress⟩ := r
    cases progress with
    | waits stage => exact h.put hj ha fun _ => rfl
    | done =>
      -- the only scheduler there was has come to its end
      intro j b hb hs
      have hleft : (j, b) ∈ (t.finish k).activities := hb
      obtain ⟨hin, hjk⟩ := mem_finish.mp hleft
      have hk : k = 0 := (h _ _ ha rfl).1
      exact absurd ((h.join hj j b hin hs).1.trans hk.symm) hjk
  | @trigger m stage r ha hr =>
    have hj := (resumeTrigger_turn hsane.ledger (hsane.sound _ _ ha) hr).1.joined
    obtain ⟨t, progress⟩ := r
    cases progress with
    | waits stage => exact h.put hj ha nofun
    | done result => exact h.answer hj _
  | enterShutdown ha => exact h.shutdown enterShutdown_turn.1.joined ha
  | shutdown ha hr =>
    exact h.shutdown (resumeTeardown_turn (hsane.sound _ _ ha) hr).1.joined ha
  | freshBody ha => exact h.body (freshBody_turn (k := k) _ _ _).joined ha
  | @body id completer connection stage r ha hr =>
    have ht : Turn k s r.1 := workStable_turn.resumeBody hr .refl
    exact h.body ht.joined ha
  | @reaper id job completer outcome ha hc =>
    have ht : Turn k s (s.removeJob id outcome).1 := removeJob_turn id outcome
    exact h.finish ht.joined
  | @settlement session due steps ha hdue =>
    have ht : Turn k s (settleLater env session s steps) :=
      workStable_turn.settleLater _ _ .refl
    exact h.finish ht.joined

/-- **There is one scheduler, the first activity, and its commands are read**, at any
point of a run. -/
theorem clocked_reachable (h : Reachable env s) : Clocked s := by
  induction h with
  | start hs =>
    obtain ⟨message, rfl⟩ := start_eq hs
    rintro j a (_ | ⟨_, ⟨⟩⟩) _
    exact ⟨rfl, rfl⟩
  | @move s s' hr hm ih =>
    cases hm with
    | act hs =>
      exact clocked_ownStep (sane_reachable hr) ih (ownStep_of_step (sane_reachable hr).own hs)
    | call ha _ =>
      intro j b hb hs
      rcases mem_begin.mp hb with hb | ⟨rfl, rfl⟩
      · exact ih j b hb hs
      · -- a call of the host is no scheduler
        cases ha <;> cases hs
    | report session e =>
      have ht : Turn 0 s (s.emit env session e) := workStable_turn.emit session e .refl
      exact ih.join ht.joined
    | wait t => exact ih
    | release =>
      have hreleased : Clocked { s with released := true } := ih
      exact hreleased.join (cancelIfUnheld_turn (k := 0)).joined
    | rouse wakes => exact ih

/-! ## The end -/

/-- A service that has begun to end is ending. -/
def Begun (s : Service W) : Prop := ∀ reason, .teardownStarted reason ∈ s.record → s.ending = true

namespace Begun

/-- Only what is recorded and whether the service is ending matter. -/
theorem quiet (h : Begun s) (hhistory : s'.history = s.history) (hending : s'.ending = s.ending) :
    Begun s' := by
  intro reason hr
  rw [record, hhistory] at hr
  exact hending.trans (h reason hr)

theorem note (h : Begun s) {o : Occurrence} (ho : ∀ reason, o ≠ .teardownStarted reason) :
    Begun (s.note o) := by
  intro reason hr
  rw [record_note, List.mem_append, List.mem_singleton] at hr
  exact h reason (hr.resolve_right fun he => ho reason he.symm)

theorem send (h : Begun s) (c : SchedulerCommand) : Begun (s.send c) := by
  intro reason hr
  rw [record_send, List.mem_append, List.mem_singleton] at hr
  rw [send_ending]
  exact h reason (hr.resolve_right nofun)

end Begun

/-- The work of jobs starts no teardown. -/
theorem workBlind_begun : WorkBlind (W := W) Begun where
  quiet _ _ _ _ _ h := h.quiet rfl rfl
  use {_ c job} o _ h := Begun.quiet (h.note (o := .jobCompleted job c o) nofun) rfl rfl
  note ho h := h.note (by rintro reason rfl; cases ho)
  settlement _ _ _ h := h.quiet rfl rfl

/-- No errand, trigger or call records that a teardown has started; a shutdown does, and is
ending then. -/
theorem lasting_begun : Lasting (W := W) Begun where
  work := workBlind_begun.stable
  session := {
    quiet := fun _ _ _ _ _ _ _ h => h.quiet rfl rfl
    draw := fun h => h.quiet rfl rfl
    hub := fun _ _ h => h.quiet rfl rfl
    note := fun ho h => h.note (by rintro reason rfl; cases ho) }
  hub _ h := h.quiet rfl rfl
  shelf _ h := h.quiet rfl rfl
  signal id _ h := workBlind_begun.signal id h
  close h := h.quiet rfl rfl
  send c h := h.send c
  set _ _ _ h := h.quiet rfl rfl
  prepare _ h := h.quiet rfl rfl
  start _ _ := fun _ _ => rfl
  tell reason h := Begun.quiet (h.note (o := .hostShutdown reason) nofun) rfl rfl
  place _ _ h := h.quiet rfl rfl
  answered k a h := h.note nofun
  enroll {s} trigger connection _ h := by
    have hadded : Begun (s.note (.jobAdded ⟨s.drawn⟩ (JobWork.ofTrigger trigger).kind)) :=
      h.note nofun
    exact Begun.quiet (hadded.note (o := .command .reset) nofun) rfl rfl
  remove id o _ _ h := Begun.quiet (h.note (o := .jobRemoved id o) nofun) rfl rfl
  wait _ h := h.quiet rfl rfl
  release h := h.quiet rfl rfl
  closeInbox h := h.quiet rfl rfl

theorem deskStable_begun : DeskStable (W := W) Begun where
  desk _ _ h := h.quiet rfl rfl
  note ho h := h.note (by rintro reason rfl; cases ho)
  start _ := fun _ _ => rfl

/-- **A service of which it is recorded that it began to end is ending**, at any point of a run. -/
theorem begun_reachable (h : Reachable env s) : Begun s := by
  induction h with
  | start hs =>
    obtain ⟨message, rfl⟩ := start_eq hs
    exact nofun
  | move hr hm ih =>
    exact lasting_begun.move (sane_reachable hr).own hm
      (fun _ hs => lasting_begun.resumeScheduler deskStable_begun hs ih) ih

end PushWake.Service
