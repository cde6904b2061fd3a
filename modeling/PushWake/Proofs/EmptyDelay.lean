import PushWake.Collaborators.Plan
import PushWake.Proofs.PacedOperations
import PushWake.Proofs.SchedulerPresence

/-!
# The delay starts over

The set of jobs is empty while a trigger is still connecting, so the delay can be started again
behind its back, by another trigger that fails or by an older job that leaves, and can run out
before the trigger has its job. What a trigger is granted is less: its first command makes the
scheduler forget a delay that was running, so a delay that runs out later was started later, and
in full. The invariant follows that command: as long as it waits for the scheduler nothing
before it matters, and once the scheduler has dealt with it every delay comes from a command
that was sent since.
-/

namespace PushWake.Service

variable {W : Type} {env : Collaborators W} {base s s' : Service W} {k : Nat}
  {os os' : List (Nat × Occurrence)} {d : Nat}

/-- The delay was started since a point of the run, and is over by a time. -/
def ArmedBy (base : Service W) (os : List (Nat × Occurrence)) (d : Nat) : Prop :=
  ∃ t, (t, .command .armEmptyDelay) ∈ os ∧ base.now ≤ t ∧
    t + base.config.timeouts.emptyDelayMs.toNat ≤ d

/-- Where the command of the trigger is: it waits for the scheduler, or the scheduler has dealt with
it and knows of no delay that was started before. -/
inductive Renewed (base : Service W) (os : List (Nat × Occurrence)) (now : Nat)
    (commands : List SchedulerCommand) (empty : Option Nat) : Prop where
  | pending (earlier later : List SchedulerCommand) :
      commands = earlier ++ .reset :: later →
      (.armEmptyDelay ∈ later →
        ArmedBy base os (now + base.config.timeouts.emptyDelayMs.toNat)) →
      Renewed base os now commands empty
  | obeyed :
      (.armEmptyDelay ∈ commands →
        ArmedBy base os (now + base.config.timeouts.emptyDelayMs.toNat)) →
      (∀ d, empty = some d → ArmedBy base os d) →
      Renewed base os now commands empty

/-- What is true since a trigger got past its check. -/
structure Grace (base s : Service W) : Prop where
  config : s.config = base.config
  now : base.now ≤ s.now
  since : ∃ os, s.history = base.history ++ (base.now, .command .reset) :: os ∧
    (∀ e ∈ os, e.1 ≤ s.now) ∧
    (∀ t, (t, .teardownStarted .emptyDelay) ∈ os → ArmedBy base os t) ∧
    (s.inboxOpen = true → Renewed base os s.now s.commands s.scheduler.empty)

theorem ArmedBy.mono (h : ArmedBy base os d) (hos : os ⊆ os') {d' : Nat} (hd : d ≤ d') :
    ArmedBy base os' d' := by
  obtain ⟨t, ht, hle, hover⟩ := h
  exact ⟨t, hos ht, hle, Nat.le_trans hover hd⟩

/-- Whoever sends the command now starts a delay that is over a full delay from now. -/
theorem armedBy_now (hnow : base.now ≤ s.now) :
    ArmedBy base (os ++ [(s.now, .command .armEmptyDelay)])
      (s.now + base.config.timeouts.emptyDelayMs.toNat) :=
  ⟨s.now, by simp, hnow, Nat.le_refl _⟩

namespace Renewed

variable {now now' : Nat} {commands : List SchedulerCommand} {empty : Option Nat}

theorem mono (h : Renewed base os now commands empty) (hos : os ⊆ os') (hnow : now ≤ now') :
    Renewed base os' now' commands empty := by
  cases h with
  | pending earlier later hc harm =>
    exact .pending earlier later hc fun hm => (harm hm).mono hos (Nat.add_le_add_right hnow _)
  | obeyed harm hempty =>
    exact .obeyed (fun hm => (harm hm).mono hos (Nat.add_le_add_right hnow _))
      fun d hd => (hempty d hd).mono hos (Nat.le_refl _)

/-- A command that is sent comes after all the others. -/
theorem send (h : Renewed base os now commands empty) (hos : os ⊆ os') {c : SchedulerCommand}
    (hc : c = .armEmptyDelay →
      ArmedBy base os' (now + base.config.timeouts.emptyDelayMs.toNat)) :
    Renewed base os' now (commands ++ [c]) empty := by
  cases h with
  | pending earlier later he harm =>
    refine .pending earlier (later ++ [c]) (by simp [he]) fun hm => ?_
    rcases List.mem_append.mp hm with hm | hm
    · exact (harm hm).mono hos (Nat.le_refl _)
    · exact hc (List.mem_singleton.mp hm).symm
  | obeyed harm hempty =>
    refine .obeyed (fun hm => ?_) fun d hd => (hempty d hd).mono hos (Nat.le_refl _)
    rcases List.mem_append.mp hm with hm | hm
    · exact (harm hm).mono hos (Nat.le_refl _)
    · exact hc (List.mem_singleton.mp hm).symm

/-- Dealing with the first command. -/
theorem obey {c : SchedulerCommand} {scheduler : Scheduler} {t : Timeouts}
    (h : Renewed base os now (c :: commands) scheduler.empty)
    (ht : t.emptyDelayMs = base.config.timeouts.emptyDelayMs) :
    Renewed base os now commands (scheduler.obey t now c).empty := by
  cases h with
  | pending earlier later he harm =>
    cases earlier with
    | nil =>
      -- it is the trigger's own command, and the delay that was running is forgotten
      obtain ⟨rfl, rfl⟩ := List.cons.inj he
      exact .obeyed harm fun d hd => by simp [Scheduler.obey, Scheduler.reset] at hd
    | cons c' earlier => exact .pending earlier later (List.cons.inj he).2 harm
  | obeyed harm hempty =>
    refine .obeyed (fun hm => harm (List.mem_cons_of_mem _ hm)) fun d hd => ?_
    cases c with
    | reset => simp [Scheduler.obey, Scheduler.reset] at hd
    | cancel => exact hempty d hd
    | armEmptyDelay =>
      have harmed := harm (List.mem_cons_self ..)
      simp only [Scheduler.obey, Scheduler.arm] at hd
      split at hd
      · rw [Scheduler.publish_empty, Option.some.injEq] at hd
        rw [← hd, ht]
        exact harmed
      · exact hempty d hd

end Renewed

namespace Grace

/-- What is nothing to the history, the commands and the delay changes nothing. -/
theorem quiet (h : Grace base s) (hconfig : s'.config = s.config) (hnow : s.now ≤ s'.now)
    (hhistory : s'.history = s.history) (hinbox : s'.inboxOpen = s.inboxOpen)
    (hcommands : s'.commands = s.commands) (hempty : s'.scheduler.empty = s.scheduler.empty) :
    Grace base s' where
  config := hconfig.trans h.config
  now := Nat.le_trans h.now hnow
  since := by
    obtain ⟨os, hos, htimes, hstart, hdesk⟩ := h.since
    refine ⟨os, hhistory.trans hos, fun e he => Nat.le_trans (htimes e he) hnow, hstart, ?_⟩
    rw [hinbox, hcommands, hempty]
    exact fun hopen => (hdesk hopen).mono (List.Subset.refl _) hnow

/-- Something happens. If it is that the service ends because there is nothing to do, the delay must
have been started since. -/
theorem noteStart (h : Grace base s) {o : Occurrence}
    (ho : o = .teardownStarted .emptyDelay → ∀ os,
      s.history = base.history ++ (base.now, .command .reset) :: os → ArmedBy base os s.now) :
    Grace base (s.note o) where
  config := h.config
  now := h.now
  since := by
    obtain ⟨os, hos, htimes, hstart, hdesk⟩ := h.since
    have hsub : os ⊆ os ++ [(s.now, o)] := List.subset_append_left ..
    refine ⟨os ++ [(s.now, o)], by simp [Service.note, hos], fun e he => ?_, fun t ht => ?_,
      fun hopen => (hdesk hopen).mono hsub (Nat.le_refl _)⟩
    · rcases List.mem_append.mp he with he | he
      · exact htimes e he
      · cases List.mem_singleton.mp he
        exact Nat.le_refl _
    · rcases List.mem_append.mp ht with ht | ht
      · exact (hstart t ht).mono hsub (Nat.le_refl _)
      · cases List.mem_singleton.mp ht
        exact (ho rfl os hos).mono hsub (Nat.le_refl _)

theorem note (h : Grace base s) {o : Occurrence} (ho : o ≠ .teardownStarted .emptyDelay) :
    Grace base (s.note o) :=
  h.noteStart fun he => absurd he ho

theorem send (h : Grace base s) (c : SchedulerCommand) : Grace base (s.send c) := by
  obtain ⟨wakes, log, he⟩ := s.send_eq c
  rw [he]
  refine ⟨h.config, h.now, ?_⟩
  obtain ⟨os, hos, htimes, hstart, hdesk⟩ := h.since
  have hsub : os ⊆ os ++ [(s.now, .command c)] := List.subset_append_left ..
  refine ⟨os ++ [(s.now, .command c)], by simp [hos], fun e he => ?_, fun t ht => ?_, ?_⟩
  · rcases List.mem_append.mp he with he | he
    · exact htimes e he
    · cases List.mem_singleton.mp he
      exact Nat.le_refl _
  · rcases List.mem_append.mp ht with ht | ht
    · exact (hstart t ht).mono hsub (Nat.le_refl _)
    · cases List.mem_singleton.mp ht
  · intro hopen
    have hopen : s.inboxOpen = true := hopen
    rw [if_pos hopen]
    refine (hdesk hopen).send hsub ?_
    rintro rfl
    exact armedBy_now h.now

end Grace

theorem workBlind_grace : WorkBlind (Grace base) where
  quiet _ _ _ _ _ h := h.quiet rfl (Nat.le_refl _) rfl rfl rfl rfl
  use {_ c job} o _ h := Grace.quiet (h.note (o := .jobCompleted job c o) nofun)
    rfl (Nat.le_refl _) rfl rfl rfl rfl
  note ho h := h.note (by rintro rfl; cases ho)
  settlement _ _ _ h := h.quiet rfl (Nat.le_refl _) rfl rfl rfl rfl

theorem sessionStable_grace : SessionStable (Grace base) where
  quiet _ _ _ _ _ _ _ h := h.quiet rfl (Nat.le_refl _) rfl rfl rfl rfl
  draw h := h.quiet rfl (Nat.le_refl _) rfl rfl rfl rfl
  hub _ _ h := h.quiet rfl (Nat.le_refl _) rfl rfl rfl rfl
  note ho h := h.note (by rintro rfl; cases ho)

theorem lasting_grace : Lasting (Grace base) where
  work := workBlind_grace.stable
  session := sessionStable_grace
  hub _ h := h.quiet rfl (Nat.le_refl _) rfl rfl rfl rfl
  shelf _ h := h.quiet rfl (Nat.le_refl _) rfl rfl rfl rfl
  signal id _ h := workBlind_grace.signal id h
  close h := h.quiet rfl (Nat.le_refl _) rfl rfl rfl rfl
  send c h := h.send c
  set _ _ _ h := h.quiet rfl (Nat.le_refl _) rfl rfl rfl rfl
  prepare _ h := h.quiet rfl (Nat.le_refl _) rfl rfl rfl rfl
  -- the end is begun for another reason, so this is no end that the delay brought
  start {_ reason} hr h := Grace.quiet (h.note (o := .teardownStarted reason)
    (fun he => hr (Occurrence.teardownStarted.inj he)))
    rfl (Nat.le_refl _) rfl rfl rfl rfl
  tell reason h := Grace.quiet (h.note (o := .hostShutdown reason) nofun)
    rfl (Nat.le_refl _) rfl rfl rfl rfl
  place _ _ h := h.quiet rfl (Nat.le_refl _) rfl rfl rfl rfl
  answered k a h := h.note nofun
  enroll {s} trigger connection _ h := by
    have hadded : Grace base (s.note (.jobAdded ⟨s.drawn⟩ (JobWork.ofTrigger trigger).kind)) :=
      h.note nofun
    obtain ⟨wakes, log, he⟩ :=
      (s.note (.jobAdded ⟨s.drawn⟩ (JobWork.ofTrigger trigger).kind)).send_eq .reset
    have hsent := hadded.send .reset
    rw [he] at hsent
    exact hsent.quiet rfl (Nat.le_refl _) rfl rfl rfl rfl
  remove id o _ _ h := Grace.quiet (h.note (o := .jobRemoved id o) nofun)
    rfl (Nat.le_refl _) rfl rfl rfl rfl
  wait t h := h.quiet rfl (Nat.le_max_left _ _) rfl rfl rfl rfl
  release h := h.quiet rfl (Nat.le_refl _) rfl rfl rfl rfl
  closeInbox h := by
    obtain ⟨os, hos, htimes, hstart, -⟩ := h.since
    exact ⟨h.config, h.now, os, hos, htimes, hstart, nofun⟩

/-! ## The scheduler -/

namespace Grace

variable (h : Grace base s) (hopen : s.inboxOpen = true)
include h

theorem serviceOver : Grace base (s.serviceOver env k).1 := by
  unfold Service.serviceOver
  extract_lets noted said
  have hs : Grace base said := lasting_grace.say (h.note nofun)
  have hj : Grace base said.signalJobs.1 := lasting_grace.signalJobs hs
  have hf : Grace base (said.signalJobs.1.schedule (Scheduler.fire .serviceTimeout)) :=
    hj.quiet rfl (Nat.le_refl _) rfl rfl rfl rfl
  rw [Steady.afterTeardown_fst]
  exact lasting_grace.enterTeardown (fun _ => hf) fun _ => lasting_grace.start (by decide) hf

include hopen

theorem obey {c : SchedulerCommand} {rest : List SchedulerCommand} (hc : s.commands = c :: rest) :
    Grace base (Service.obey { s with commands := rest } c).1 := by
  obtain ⟨log, he⟩ := obey_eq (s := { s with commands := rest }) c
  have hn : Grace base (s.note (.obeyed c)) := h.note nofun
  obtain ⟨os, hos, htimes, hstart, hdesk⟩ := hn.since
  rw [he]
  refine ⟨h.config, h.now, os, hos, htimes, hstart, fun _ => ?_⟩
  have hbefore : Renewed base os s.now (c :: rest) s.scheduler.empty := hc ▸ hdesk hopen
  exact hbefore.obey (by rw [← h.config])

/-- The delay runs out only with no command left to deal with, so it was started since. -/
theorem emptyOver (hc : s.commands = []) (hdue : s.scheduler.due? s.now = some .empty) :
    Grace base (s.emptyOver env k).1 := by
  obtain ⟨d, hd, hover⟩ := Scheduler.reached_of_due hdue
  have hn : Grace base (s.note (.expired .empty)) := h.note nofun
  obtain ⟨os, hos, htimes, hstart, hdesk⟩ := hn.since
  -- with no command left the trigger's own has been dealt with, and the delay comes from
  -- a later one
  have harmed : ArmedBy base os s.now := by
    cases hdesk hopen with
    | pending earlier later he _ =>
      have he : s.commands = earlier ++ .reset :: later := he
      simp [hc] at he
    | obeyed _ hempty => exact (hempty d hd).mono (List.Subset.refl _) hover
  -- the delay is forgotten, whether or not the service ends
  have hforgot : ∀ t : Service W, t.config = s.config → t.now = s.now →
      t.history = (s.note (.expired .empty)).history → t.commands = s.commands →
      t.scheduler.empty = none → Grace base t := by
    intro t hconfig hnow hhistory hcommands hempty
    refine ⟨hconfig.trans h.config, hnow ▸ h.now, os, hhistory.trans hos, ?_, hstart, fun _ => ?_⟩
    · rw [hnow]
      exact htimes
    · refine .obeyed (fun hm => ?_) fun d' hd' => ?_
      · rw [hcommands, hc] at hm
        cases hm
      · rw [hempty] at hd'
        cases hd'
  by_cases hidle : s.jobs.closed = false ∧ s.jobs.entries = []
  · obtain ⟨log, he⟩ := emptyOver_of_idle env k hidle.1 hidle.2
    rw [he, Steady.afterTeardown_fst]
    have hgrace : Grace base (s.idled log) := hforgot _ rfl rfl rfl rfl rfl
    refine lasting_grace.enterTeardown (fun _ => hgrace) fun _ => ?_
    have hending : Grace base { s.idled log with ending := true } :=
      hgrace.quiet rfl (Nat.le_refl _) rfl rfl rfl rfl
    refine hending.noteStart fun _ os' hos' => ?_
    have hos' : (s.note (.expired .empty)).history =
        base.history ++ (base.now, .command .reset) :: os' := hos'
    rw [hos, List.append_cancel_left_eq, List.cons.injEq] at hos'
    exact hos'.2 ▸ harmed
  · obtain ⟨log, he⟩ := emptyOver_of_busy env k hidle
    rw [he]
    exact hforgot _ rfl rfl rfl rfl (Scheduler.publish_empty _)

theorem resumeScheduler {stage : SchedulerStage} {r : Service W × SchedulerProgress}
    (hr : s.resumeScheduler env k stage = some r) : Grace base r.1 := by
  cases schedulerTurn_of_resume hr with
  | obeys hc => exact h.obey hopen hc
  | limit => exact h.serviceOver
  | delay hc hdue => exact h.emptyOver hopen hc hdue
  | tearsDown hp =>
    rw [Steady.afterTeardown_fst]
    exact lasting_grace.resumeTeardown hp h

end Grace

/-! ## Through a run -/

/-- The first step of a trigger that gets past its check starts the delay over. -/
theorem grace_of_passed (h : Sane base) {m : TriggerMessage} (hp : Passed env base k m s) :
    Grace base s := by
  have hsent : Grace base (base.send .reset) := by
    obtain ⟨wakes, log, he⟩ := base.send_eq .reset
    rw [he]
    refine ⟨rfl, Nat.le_refl _, [], rfl, nofun, nofun, fun hopen => ?_⟩
    have hopen : base.inboxOpen = true := hopen
    rw [if_pos hopen]
    exact .pending base.commands [] rfl nofun
  rw [passed_eq h hp]
  exact lasting_grace.followTrigger (lasting_grace.acceptTrigger
    (fun trigger connection h hopen => lasting_grace.beginJob trigger connection h hopen)
    hp.alive m hsent)

theorem Grace.later (h : Grace base s) (hr : Reachable env s) (hl : Later env s s') :
    Grace base s' := by
  induction hl with
  | refl => exact h
  | move hl hm ih =>
    have hr := hr.later hl
    exact lasting_grace.move (sane_reachable hr).own hm
      (fun ha hs => ih.resumeScheduler (clocked_reachable hr _ _ ha rfl).2 hs) ih

/-- **The delay starts over with every trigger.** If a service ends because there is nothing to do,
then for every trigger that had got past its check, be it still under way or not, the delay was
started after the trigger's command, and has run in full since. -/
theorem empty_delay_starts_over {s₀ s₁ : Service W} {m : TriggerMessage} (h : Reachable env s₀)
    (hp : Passed env s₀ k m s₁) (hl : Later env s₁ s) {t : Nat}
    (ht : (t, .teardownStarted .emptyDelay) ∈ s.history) :
    ∃ os, s.history = s₀.history ++ (s₀.now, .command .reset) :: os ∧ t ≤ s.now ∧
      ∃ armed, (armed, .command .armEmptyDelay) ∈ os ∧ s₀.now ≤ armed ∧
        armed + s₀.config.timeouts.emptyDelayMs.toNat ≤ t := by
  have hgrace := (grace_of_passed (sane_reachable h) hp).later (.move h (.act hp.step)) hl
  obtain ⟨os, hos, htimes, hstart, -⟩ := hgrace.since
  have hin : (t, .teardownStarted .emptyDelay) ∈ os := by
    rw [hos, List.mem_append, List.mem_cons] at ht
    rcases ht with ht | ht | ht
    · -- a service that had begun to end before the trigger would have turned it away
      have hending := begun_reachable h .emptyDelay (List.mem_map_of_mem (f := Prod.snd) ht)
      rw [hp.alive] at hending
      cases hending
    · cases ht
    · exact ht
  exact ⟨os, hos, htimes _ hin, hstart t hin⟩

/-! ## A trigger that is turned away -/

/-- A service whose sessions take five times the delay to open, and that is about to look at a
trigger. -/
def slowConnect : Option (Service Plan) :=
  playFrom Plan.collaborators { timeouts := { serviceMs := 10000, emptyDelayMs := 100 } } false
    { delays := { connect := 500 } } [.trigger swapMessage]

/-- While the session is being opened another trigger fails, and its delay runs out. -/
def straySpoils : List Cue :=
  [.trigger strayMessage, .turn 2, .turn 0, .turn 0, .turn 0, .wait 100, .turn 0]

theorem slowConnect_isSome : slowConnect.isSome = true := rfl

/-- The trigger has got past its check. -/
def slowTrigger : Option (Service Plan) :=
  (slowConnect.get slowConnect_isSome).step Plan.collaborators 1

theorem slowTrigger_isSome : slowTrigger.isSome = true := rfl

theorem slowTrigger_passed : Passed Plan.collaborators (slowConnect.get slowConnect_isSome) 1
    swapMessage (slowTrigger.get slowTrigger_isSome) :=
  ⟨List.mem_of_getElem? (i := 1) rfl, rfl, (Option.some_get slowTrigger_isSome).symm⟩

/-- A service can end because there is nothing to do while a trigger is under way, and the trigger
is then turned away. -/
theorem empty_delay_ends_slow_trigger :
    (¬∀ (s₀ s₁ s : Service Plan) (k : Nat) (m : TriggerMessage) (a : Activity),
      Reachable Plan.collaborators s₀ → Passed Plan.collaborators s₀ k m s₁ →
      Later Plan.collaborators s₁ s → .teardownStarted .emptyDelay ∈ s.record →
      (k, a) ∈ s.activities → isUnderWay a = false) ∧
    ¬∀ (s₀ s₁ s : Service Plan) (k : Nat) (m : TriggerMessage),
      Reachable Plan.collaborators s₀ → Passed Plan.collaborators s₀ k m s₁ →
      (Trigger.ofMessage m).isOk = true → Later Plan.collaborators s₁ s →
      .teardownStarted .emptyDelay ∈ s.record →
      .answered k (.trigger (.error .shutDown)) ∉ s.record := by
  have hreachable : Reachable Plan.collaborators (slowConnect.get slowConnect_isSome) :=
    reachable_of_playFrom (Option.some_get slowConnect_isSome).symm
  constructor
  · intro hclaim
    have hrun : (play Plan.collaborators straySpoils
      (slowTrigger.get slowTrigger_isSome)).isSome = true := rfl
    have hunder := hclaim _ _ _ 1 _ _ hreachable slowTrigger_passed
      (later_of_play (Option.some_get hrun).symm) (List.mem_of_getElem? (i := 10) rfl)
      (List.mem_of_getElem? (i := 1) rfl)
    cases hunder
  · intro hclaim
    have hrun : (play Plan.collaborators (straySpoils ++ [.wait 500, .turn 1])
      (slowTrigger.get slowTrigger_isSome)).isSome = true := rfl
    exact hclaim _ _ _ 1 _ hreachable slowTrigger_passed rfl
      (later_of_play (Option.some_get hrun).symm) (List.mem_of_getElem? (i := 10) rfl)
      (List.mem_of_getElem? (i := 14) rfl)

/-- In that run the delay was started by the other trigger, and a full delay before the end. -/
theorem empty_delay_starts_over_for_slow_trigger : ∃ s : Service Plan,
    play Plan.collaborators straySpoils (slowTrigger.get slowTrigger_isSome) = some s ∧
    (100, .teardownStarted .emptyDelay) ∈ s.history ∧
    ∃ os, s.history = (slowConnect.get slowConnect_isSome).history ++
        (0, .command .reset) :: os ∧ 100 ≤ s.now ∧
      ∃ armed, (armed, .command .armEmptyDelay) ∈ os ∧ 0 ≤ armed ∧ armed + 100 ≤ 100 := by
  have hrun : (play Plan.collaborators straySpoils
    (slowTrigger.get slowTrigger_isSome)).isSome = true := rfl
  have hended : (100, .teardownStarted .emptyDelay) ∈
      ((play Plan.collaborators straySpoils (slowTrigger.get slowTrigger_isSome)).get
        hrun).history :=
    List.mem_of_getElem? (i := 10) rfl
  exact ⟨_, (Option.some_get hrun).symm, hended,
    empty_delay_starts_over (reachable_of_playFrom (Option.some_get slowConnect_isSome).symm)
      slowTrigger_passed (later_of_play (Option.some_get hrun).symm) hended⟩

end PushWake.Service
