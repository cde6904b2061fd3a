import PushWake.Collaborators.Plan
import PushWake.Proofs.PacedOperations

/-!
# The deadlines follow the jobs

A service that its host has dropped stops its scheduler; until then the deadlines follow the
jobs. What is known between two turns is that they do so up to the triggers under way, and that
nobody ends the service before the set of jobs has closed. Every step keeps this: a trigger that
goes on waiting is under way, one that comes to its end has paid what it owes, and nobody else
changes who is under way.
-/

namespace PushWake.Service

variable {W : Type} {env : Collaborators W} {s s' t : Service W} {k : Nat} {busy ended : Prop}

/-- Whether the host has let go of the service and waits for none of its calls. -/
def isDropped (s : Service W) : Bool := s.released && !s.activities.any fun a => holdsService a.2

/-- Whether some trigger is under way. -/
def Busy (s : Service W) : Prop := ∃ j a, (j, a) ∈ s.activities ∧ isUnderWay a = true

/-- Whether an activity is ending the service. -/
def isTearingDown : Activity → Bool
  | .scheduler (.tearingDown _ _) => true
  | .shutdown (some _) => true
  | _ => false

/-- What is known between two turns. -/
structure Paced (s : Service W) : Prop where
  fit : Fit (Busy s) (s.ending = true) s
  tearing : ∀ j a, (j, a) ∈ s.activities → isTearingDown a = true → s.ending = true

/-! ## Dropping a service -/

theorem isDropped_iff : s.isDropped = true ↔
    s.released = true ∧ ∀ j a, (j, a) ∈ s.activities → holdsService a = false := by
  simp only [isDropped, Bool.and_eq_true, Bool.not_eq_true', List.any_eq_false, Prod.forall,
    Bool.not_eq_true]

theorem undropped_of_mem {a : Activity} (ha : (k, a) ∈ s.activities) (hh : holdsService a = true) :
    s.isDropped = false := by
  rw [Bool.eq_false_iff]
  intro hd
  rw [(isDropped_iff.mp hd).2 k a ha] at hh
  cases hh

/-- Whoever only works neither keeps the service alive nor ends it, and is no trigger. -/
theorem bystander_of_isWorker {a : Activity} (ha : isWorker a = true) :
    holdsService a = false ∧ isTearingDown a = false ∧ isUnderWay a = false := by
  cases a with
  | body | reaper | settlement => exact ⟨rfl, rfl, rfl⟩
  | _ => cases ha

/-- Where nobody new keeps the service alive, it was not dropped before if it is not dropped now. -/
theorem undropped_of (hreleased : s.released = true → t.released = true)
    (hholds : ∀ j b, (j, b) ∈ t.activities → holdsService b = true → (j, b) ∈ s.activities)
    (hu : t.isDropped = false) : s.isDropped = false := by
  rw [Bool.eq_false_iff] at hu ⊢
  intro hd
  obtain ⟨hr, hnone⟩ := isDropped_iff.mp hd
  refine hu (isDropped_iff.mpr ⟨hreleased hr, fun j b hb => ?_⟩)
  rw [Bool.eq_false_iff]
  intro hh
  rw [hnone j b (hholds j b hb hh)] at hh
  cases hh

/-- A dropped service stays so. -/
theorem undropped_of_joined (hj : Joined s.scene t.scene) (hu : t.isDropped = false) :
    s.isDropped = false := by
  refine undropped_of (fun hr => hj.unchanged.1.trans hr) (fun j b hb hh => ?_) hu
  rcases hj.mem hb with hb | hb
  · exact hb
  · rw [(bystander_of_isWorker hb).1] at hh
    cases hh

theorem undropped_put (hj : Joined s.scene t.scene) {a : Activity} (ha : holdsService a = false)
    (hu : (t.put k a).isDropped = false) : s.isDropped = false := by
  refine undropped_of_joined hj (undropped_of (t := t.put k a) id (fun j b hb hh => ?_) hu)
  rcases mem_put hb with ⟨_, rfl⟩ | ⟨hb, _⟩
  · rw [ha] at hh
    cases hh
  · exact hb

theorem undropped_finish (hj : Joined s.scene t.scene) (hu : (t.finish k).isDropped = false) :
    s.isDropped = false :=
  undropped_of_joined hj
    (undropped_of (t := t.finish k) id (fun _ _ hb _ => (mem_finish.mp hb).1) hu)

/-- Only a service that is dropped is told to stop. -/
theorem cancelIfUnheld_of_undropped (hu : s.cancelIfUnheld.isDropped = false) :
    s.cancelIfUnheld = s := by
  unfold cancelIfUnheld at hu ⊢
  split
  · rename_i hd
    rw [if_pos hd] at hu
    obtain ⟨_, _, he⟩ := s.send_eq .cancel
    rw [he] at hu
    exact absurd (show s.isDropped = true from hd) (Bool.eq_false_iff.mp hu)
  · rfl

/-! ## Between turns -/

/-- A move of somebody who is not under way leaves those who are. -/
theorem Busy.put (hb : Busy s) (hj : Joined s.scene t.scene) (hn : s.scene.Numbered)
    {a a' : Activity} (ha : (k, a) ∈ s.activities) (hidle : isUnderWay a = false) :
    Busy (t.put k a') := by
  obtain ⟨j, b, hb, hunder⟩ := hb
  refine ⟨j, b, mem_put_of_ne (hj.stays hb) ?_, hunder⟩
  rintro rfl
  rw [hn.unique hb ha, hidle] at hunder
  cases hunder

theorem Busy.finish (hb : Busy s) (hj : Joined s.scene t.scene) (hn : s.scene.Numbered)
    {a : Activity} (ha : (k, a) ∈ s.activities) (hidle : isUnderWay a = false) :
    Busy (t.finish k) := by
  obtain ⟨j, b, hb, hunder⟩ := hb
  refine ⟨j, b, mem_finish.mpr ⟨hj.stays hb, ?_⟩, hunder⟩
  rintro rfl
  rw [hn.unique hb ha, hidle] at hunder
  cases hunder

namespace Paced

variable (hp : Paced s)
include hp

/-- Whoever was ending the service still is. -/
theorem still (hj : Joined s.scene t.scene) (hfit : Fit busy (s.ending = true) t) {j : Nat}
    {b : Activity} (hb : (j, b) ∈ t.activities) (htear : isTearingDown b = true) :
    t.ending = true := by
  rcases hj.mem hb with hb | hb
  · exact hfit.still (hp.tearing j b hb htear)
  · rw [(bystander_of_isWorker hb).2.1] at htear
    cases htear

/-- An activity comes to wait. -/
theorem put (hj : Joined s.scene t.scene) (hfit : Fit busy (s.ending = true) t) {a : Activity}
    (hbusy : busy → Busy (t.put k a)) (ha : isTearingDown a = true → t.ending = true) :
    Paced (t.put k a) where
  fit := by
    have hf : Fit (Busy (t.put k a)) (s.ending = true) (t.put k a) :=
      (hfit.loosen hbusy).quiet rfl rfl rfl rfl rfl rfl rfl
    exact hf.renew
  tearing j b hb htear := by
    rcases mem_put hb with ⟨_, rfl⟩ | ⟨hb, _⟩
    · exact ha htear
    · have ht : t.ending = true := hp.still hj hfit hb htear
      exact ht

/-- An activity comes to its end. -/
theorem finish (hj : Joined s.scene t.scene) (hfit : Fit busy (s.ending = true) t)
    (hbusy : busy → Busy (t.finish k)) : Paced (t.finish k) where
  fit := by
    have hf : Fit (Busy (t.finish k)) (s.ending = true) (t.finish k) :=
      (hfit.loosen hbusy).quiet rfl rfl rfl rfl rfl rfl rfl
    exact hf.renew
  tearing j b hb htear := by
    have ht : t.ending = true := hp.still hj hfit (mem_finish.mp hb).1 htear
    exact ht

/-- Nobody moves, and at most some workers join. -/
theorem join (hj : Joined s.scene t.scene) (hfit : Fit (Busy s) (s.ending = true) t) :
    Paced t where
  fit := by
    have hbusy : Busy s → Busy t := by
      rintro ⟨j, b, hb, hunder⟩
      exact ⟨j, b, hj.stays hb, hunder⟩
    exact (hfit.loosen hbusy).renew
  tearing j b hb htear := by
    have ht : t.ending = true := hp.still hj hfit hb htear
    exact ht

end Paced

/-! ## Steps -/

/-- A call that is answered, as long as the service is not dropped by it. -/
theorem paced_answered {a : CallAnswer} (hp : Paced (t.finish k))
    (hu : (t.answer k a).cancelIfUnheld.isDropped = false) :
    Paced (t.answer k a).cancelIfUnheld := by
  rw [cancelIfUnheld_of_undropped hu]
  exact hp.join .refl (hp.fit.note nofun)

theorem paced_shutdown (hp : Paced s) {r : Service W × TeardownProgress} (ht : Turn k s r.1)
    (hended : Ended r.1) (hu : (follow k (fun stage => .shutdown (some stage))
      (fun s _ => (s.answer k .shutDown).cancelIfUnheld) r).isDropped = false) :
    Paced (follow k (fun stage => .shutdown (some stage))
      (fun s _ => (s.answer k .shutDown).cancelIfUnheld) r) := by
  obtain ⟨t, progress⟩ := r
  have hfit : Fit False (s.ending = true) t := hended.fit
  cases progress with
  | waits stage => exact hp.put ht.joined hfit False.elim fun _ => hended.ending
  | done => exact paced_answered (hp.finish ht.joined hfit False.elim) hu

theorem paced_body (h : Sane s) (hp : s.isDropped = false → Paced s) {id : Identity}
    {completer : Nat} {connection : Connection} {stage : BodyStage}
    (hmem : (k, .body id completer connection stage) ∈ s.activities)
    {r : Service W × BodyProgress} (ht : Turn k s r.1)
    (hfit : s.isDropped = false → Fit (Busy s) (s.ending = true) r.1)
    (hu : (follow k (.body id completer connection)
      (fun s result => s.endBody k id result) r).isDropped = false) :
    Paced (follow k (.body id completer connection)
      (fun s result => s.endBody k id result) r) := by
  obtain ⟨t, progress⟩ := r
  cases progress with
  | waits stage =>
    have hus := undropped_put ht.joined rfl hu
    exact (hp hus).put ht.joined (hfit hus) (fun hb => hb.put ht.joined h.numbered hmem rfl) nofun
  | done result =>
    have hend : ∃ log, t.endBody k id result = { t.finish k with log } := by
      cases result with
      | ok => exact ⟨_, rfl⟩
      | error e =>
        simp only [endBody]
        split <;> exact ⟨_, rfl⟩
    obtain ⟨log, hend⟩ := hend
    have he : follow k (.body id completer connection) (fun s result => s.endBody k id result)
        (t, .done result) = { t.finish k with log } := hend
    rw [he] at hu ⊢
    have hus : s.isDropped = false := undropped_finish ht.joined hu
    have hpf : Paced (t.finish k) := (hp hus).finish ht.joined (hfit hus)
      fun hb => hb.finish ht.joined h.numbered hmem rfl
    exact hpf.join .refl (hpf.fit.quiet rfl rfl rfl rfl rfl rfl rfl)

theorem paced_scheduler (h : Sane s) (hp : s.isDropped = false → Paced s) {stage : SchedulerStage}
    (hmem : (k, .scheduler stage) ∈ s.activities) {r : Service W × SchedulerProgress}
    (hr : s.resumeScheduler env k stage = some r)
    (hu : (follow k .scheduler (fun s _ => s.endScheduler k) r).isDropped = false) :
    Paced (follow k .scheduler (fun s _ => s.endScheduler k) r) := by
  obtain ⟨ht, -⟩ := resumeScheduler_turn (h.sound _ _ hmem) hr
  have hus : s.isDropped = false := by
    obtain ⟨t, progress⟩ := r
    cases progress with
    | waits stage => exact undropped_put ht.joined rfl hu
    | done => exact undropped_finish ht.joined hu
  have hps := hp hus
  -- a scheduler that is past listening is ending the service
  have hended : stage ≠ .listening → Ended s := by
    intro hne
    have hending : s.ending = true := by
      cases stage with
      | listening => exact absurd rfl hne
      | tearingDown => exact hps.tearing k _ hmem rfl
    exact ⟨hending, hps.fit.closed_of_ending hending⟩
  have hfit := resumeScheduler_fit hps.fit hended hr
  obtain ⟨t, progress⟩ := r
  cases progress with
  | waits stage =>
    cases stage with
    | listening =>
      have hf : Fit (Busy s) (s.ending = true) t := hfit
      exact hps.put ht.joined hf (fun hb => hb.put ht.joined h.numbered hmem rfl) nofun
    | tearingDown =>
      have he : Ended t := hfit
      have hf : Fit False (s.ending = true) t := he.fit
      exact hps.put ht.joined hf False.elim fun _ => he.ending
  | done =>
    obtain ⟨hf, hclosed⟩ : Fit (Busy s) (s.ending = true) t ∧ t.jobs.closed = true := hfit
    have hpf : Paced (t.finish k) :=
      hps.finish ht.joined hf fun hb => hb.finish ht.joined h.numbered hmem rfl
    -- nobody reads the commands any more, and nothing is owed to a closed set
    refine ⟨⟨hpf.fit.ending_of_closed, hpf.fit.closed_of_ending, fun hopen => ?_, id⟩, hpf.tearing⟩
    rw [show t.jobs.closed = false from hopen] at hclosed
    cases hclosed

/-- **Every step keeps the deadlines in step with the jobs.** -/
theorem paced_ownStep (h : Sane s) (hp : s.isDropped = false → Paced s) (hs : OwnStep env s k s')
    (hu : s'.isDropped = false) : Paced s' := by
  cases hs with
  | @scheduler stage r hmem hr => exact paced_scheduler h hp hmem hr hu
  | @trigger m stage r hmem hr =>
    obtain ⟨ht, -⟩ := resumeTrigger_turn h.ledger (h.sound _ _ hmem) hr
    have hps := hp (undropped_of_mem hmem rfl)
    have hfit := resumeTrigger_fit hps.fit (h.sound _ _ hmem) hr
    obtain ⟨t, progress⟩ := r
    cases progress with
    | waits stage =>
      -- the delay may be off now, and this trigger is why
      obtain ⟨hf, hunder⟩ := hfit
      refine hps.put ht.joined hf (fun _ => ?_) nofun
      exact ⟨k, _, mem_put_self (ht.joined.stays hmem), hunder m⟩
    | done result =>
      have hf : Fit False (s.ending = true) t := hfit
      exact paced_answered (hps.finish ht.joined hf False.elim) hu
  | enterShutdown hmem =>
    have hps := hp (undropped_of_mem hmem rfl)
    exact paced_shutdown hps enterShutdown_turn.1 (enterShutdown_ended hps.fit.closed_of_ending) hu
  | shutdown hmem hr =>
    obtain ⟨ht, -⟩ := resumeTeardown_turn (h.sound _ _ hmem) hr
    have hps := hp (undropped_of_mem hmem rfl)
    have hending := hps.tearing _ _ hmem rfl
    exact paced_shutdown hps ht
      (steady_ended.resumeTeardown hr ⟨hending, hps.fit.closed_of_ending hending⟩) hu
  | freshBody hmem =>
    refine paced_body h hp hmem (freshBody_turn _ _ _) (fun hus => ?_) hu
    exact workStable_fit.beginBody _ _ _ (markRunning_fit (hp hus).fit _)
  | body hmem hr =>
    exact paced_body h hp hmem (workStable_turn.resumeBody hr .refl)
      (fun hus => workStable_fit.resumeBody hr (hp hus).fit) hu
  | @reaper id job completer outcome hmem hc =>
    have ht : Turn k s (s.removeJob id outcome).1 := removeJob_turn id outcome
    have hps := hp (undropped_finish ht.joined hu)
    exact hps.finish ht.joined (removeJob_fit hps.fit id outcome)
      fun hb => hb.finish ht.joined h.numbered hmem rfl
  | @settlement session due steps hmem hdue =>
    have ht : Turn k s (settleLater env session s steps) :=
      workStable_turn.settleLater _ _ .refl
    have hps := hp (undropped_finish ht.joined hu)
    exact hps.finish ht.joined (workStable_fit.settleLater _ _ hps.fit)
      fun hb => hb.finish ht.joined h.numbered hmem rfl

theorem paced_move (h : Sane s) (hp : s.isDropped = false → Paced s) (hm : Move env s s')
    (hu : s'.isDropped = false) : Paced s' := by
  cases hm with
  | act hs => exact paced_ownStep h hp (ownStep_of_step h.own hs) hu
  | @call a ha hheld =>
    have hps := hp (by simp [isDropped, hheld])
    have hbusy : Busy s → Busy (s.begin a) := by
      rintro ⟨j, b, hb, hunder⟩
      exact ⟨j, b, mem_begin.mpr (.inl hb), hunder⟩
    have hf : Fit (Busy (s.begin a)) (s.ending = true) (s.begin a) :=
      (hps.fit.loosen hbusy).quiet rfl rfl rfl rfl rfl rfl rfl
    refine ⟨hf.renew, fun j b hb htear => ?_⟩
    rcases mem_begin.mp hb with hb | ⟨_, rfl⟩
    · have ht : s.ending = true := hps.tearing j b hb htear
      exact ht
    · cases ha <;> cases htear
  | report session e =>
    have ht : Turn 0 s (s.emit env session e) := workStable_turn.emit session e .refl
    have hps := hp (undropped_of_joined ht.joined hu)
    exact hps.join ht.joined (workStable_fit.emit session e hps.fit)
  | wait t =>
    have hps : Paced s := hp hu
    have hf : Fit (Busy s) (s.ending = true) (s.advanceTo t) :=
      hps.fit.quiet rfl rfl rfl rfl rfl rfl rfl
    exact ⟨hf.renew, hps.tearing⟩
  -- a release that does not drop the service sets its flag and no more
  | release =>
    have hrelease : s.release = { s with released := true } := cancelIfUnheld_of_undropped hu
    rw [hrelease] at hu ⊢
    have hps : Paced s :=
      hp (undropped_of (t := { s with released := true }) (fun _ => rfl) (fun _ _ hb _ => hb) hu)
    have hf : Fit (Busy s) (s.ending = true) { s with released := true } :=
      hps.fit.quiet rfl rfl rfl rfl rfl rfl rfl
    exact ⟨hf.renew, hps.tearing⟩
  | rouse wakes =>
    have hps : Paced s := hp hu
    exact hps.join .refl (hps.fit.quiet rfl rfl rfl rfl rfl rfl rfl)

theorem paced_reachable (h : Reachable env s) : s.isDropped = false → Paced s := by
  induction h with
  | @start config makesPlugins world s hs =>
    obtain ⟨message, rfl⟩ := start_eq hs
    intro _
    refine ⟨⟨nofun, nofun, fun _ => ⟨rfl, nofun, fun hne => absurd rfl hne, ?_, ?_⟩, nofun⟩, ?_⟩
    · rintro ⟨⟩
    · rintro _ ⟨⟩
    · rintro j a (_ | ⟨_, ⟨⟩⟩) htear
      cases htear
  | move hr hm ih => exact paced_move (sane_reachable hr) ih hm

/-! ## The deadlines of an open service -/

/-- **The deadlines follow the jobs.** Once the scheduler has dealt with the commands that wait for
it, the hard limit runs and the delay does not where there is a job; and both run where there is
none, once a trigger has got past its check and no trigger that did is still under way. -/
theorem deadlines_follow_jobs (h : Reachable env s) (hheld : s.isDropped = false)
    (hopen : s.jobs.closed = false) :
    (s.jobs.entries ≠ [] → s.foreseen.service.isSome = true ∧ s.foreseen.empty = none) ∧
    (s.jobs.entries = [] →
      (∃ s₀ k m s₁, Reachable env s₀ ∧ Passed env s₀ k m s₁ ∧ Later env s₁ s) →
      (∀ k a, (k, a) ∈ s.activities → isUnderWay a = false) →
      s.foreseen.service.isSome = true ∧ s.foreseen.empty.isSome = true) := by
  have htimed := (paced_reachable h hheld).fit.timed hopen
  have hmarks : s.foreseen.marks = s.outlook := marks_foreseen
  constructor
  · intro hjobs
    rw [htimed.withJobs hjobs] at hmarks
    have hempty : s.foreseen.empty.isSome = false := congrArg Marks.empty hmarks
    exact ⟨congrArg Marks.service hmarks, Option.not_isSome_iff_eq_none.mp (by simp [hempty])⟩
  · rintro hnone ⟨s₀, k, m, s₁, hr₀, hpassed, hlater⟩ hidle
    have hsane₀ := sane_reachable hr₀
    have hsane₁ := (hsane₀.move (.act hpassed.step)).sane
    have haccepted : s.Accepted :=
      (accepted_of_passed hsane₀ hpassed).deals (hsane₁.later hlater).deals
    have hbusy : ¬Busy s := by
      rintro ⟨j, a, ha, hunder⟩
      rw [hidle j a ha] at hunder
      cases hunder
    constructor
    · exact (congrArg Marks.service hmarks).trans (htimed.service haccepted)
    · exact (congrArg Marks.empty hmarks).trans (htimed.empty hnone haccepted hbusy)

/-- A service that is about to look at a trigger of an unknown kind. -/
def strayRun : Option (Service Plan) :=
  playFrom Plan.collaborators {} false {} [.trigger strayMessage]

/-- A service with a job that has not begun. -/
def jobRun : Option (Service Plan) :=
  playFrom Plan.collaborators {} false {}
    [.trigger swapMessage, .turn 1, .turn 1]

/-- The stray trigger leaves both deadlines to come, and the job only the hard limit. -/
theorem deadlines_follow_stray_and_job :
    (∃ s₀ s, strayRun = some s₀ ∧ Passed Plan.collaborators s₀ 1 strayMessage s ∧
      s.jobs.entries = [] ∧ s.foreseen.service.isSome = true ∧ s.foreseen.empty.isSome = true) ∧
    ∃ s, jobRun = some s ∧ s.jobs.entries ≠ [] ∧ s.foreseen.service.isSome = true ∧
      s.foreseen.empty = none := by
  constructor
  · have hrun : strayRun.isSome = true := rfl
    have hr₀ : Reachable Plan.collaborators (strayRun.get hrun) :=
      reachable_of_playFrom (Option.some_get hrun).symm
    have hstep : ((strayRun.get hrun).step Plan.collaborators 1).isSome = true := rfl
    have hpassed : Passed Plan.collaborators (strayRun.get hrun) 1 strayMessage
        (((strayRun.get hrun).step Plan.collaborators 1).get hstep) :=
      ⟨List.mem_of_getElem? (i := 1) rfl, rfl, (Option.some_get hstep).symm⟩
    refine ⟨_, _, (Option.some_get hrun).symm, hpassed, rfl, ?_⟩
    refine (deadlines_follow_jobs (.move hr₀ (.act hpassed.step)) rfl rfl).2 rfl
      ⟨_, _, _, _, hr₀, hpassed, .refl⟩ ?_
    rintro j a (_ | ⟨_, ⟨⟩⟩)
    rfl
  · have hrun : jobRun.isSome = true := rfl
    refine ⟨jobRun.get hrun, (Option.some_get hrun).symm, List.cons_ne_nil _ _, ?_⟩
    exact (deadlines_follow_jobs (reachable_of_playFrom (Option.some_get hrun).symm) rfl rfl).1
      (List.cons_ne_nil _ _)

end PushWake.Service
