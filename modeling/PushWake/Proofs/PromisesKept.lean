import PushWake.Proofs.PromisedSettlement

/-!
# Promises are kept

In an open service each step leaves less to do than there was (`OpenStep.nearer`): triggers, bodies,
reapers and settlements count for what they may still begin, and commands for what the scheduler
makes of them. So time passes in the end, and since it never passes what somebody waits for, it
comes to the settlement of a job that was promised one. `Promised.ensues` says that such a job is
resolved in time whoever goes on first, and `Promised.punctual` that it has been resolved, or still
will be, wherever a punctual run has come to.
-/

namespace PushWake

/-- How much a body still has to do at most, what it begins included. -/
def BodyStage.left : BodyStage → Nat
  | .fresh => 4
  | .askingLimits _ => 3
  | .invoicing _ => 2
  | .syncing _ => 1
  | .replying _ => 1
  | .apologizing _ _ => 1

namespace Service

variable {W : Type} {env : Collaborators W} {Q : W → Prop} {s s' t : Service W} {k : Nat}
  {v : Vigil} {id : Identity} {c session : Nat} {ms : List (Nat × TriggerMessage)}

/-! ## What is left to do -/

/-- How much an activity still has to do at most, what it begins included. A command
counts for two. -/
def labour : Activity → Nat
  | .trigger _ stage => stage.left
  | .body _ _ _ stage => stage.left
  | .reaper _ _ => 3
  | .settlement _ _ _ => 1
  | _ => 0

/-- The same for all activities. -/
def labours (s : Service W) : Nat := (s.activities.map fun a => labour a.2).sum

/-- What everybody still has to do, and the scheduler with its commands. -/
def remaining (s : Service W) : Nat := s.labours + s.toDo

theorem labours_put (hn : s.scene.Numbered) {a : Activity} (ha : (k, a) ∈ s.activities)
    (b : Activity) :
    (s.put k b).labours + labour a = s.labours + labour b := by
  obtain ⟨before, after, he, hput, -⟩ := activities_split hn ha
  simp only [labours, hput b, he, List.map_append, List.map_cons, List.sum_append, List.sum_cons]
  omega

theorem labours_finish (hn : s.scene.Numbered) {a : Activity} (ha : (k, a) ∈ s.activities) :
    (s.finish k).labours + labour a = s.labours := by
  obtain ⟨before, after, he, -, hfinish⟩ := activities_split hn ha
  simp only [labours, hfinish, he, List.map_append, List.map_cons, List.sum_append, List.sum_cons]
  omega

theorem labours_begin (a : Activity) : (s.begin a).labours = s.labours + labour a := by
  simp [labours, begin]

theorem Worked.labours (h : Worked s t) : t.labours = s.labours := by
  rw [Service.labours, Service.labours, h.activities]

theorem Worked.toDo (h : Worked s t) : t.toDo = s.toDo := by
  obtain ⟨_, _, _, _, _, _, _, rfl⟩ := h
  rfl

theorem Stirred.labours {n : Nat} (h : Stirred n s t) : t.labours = s.labours := by
  rw [Service.labours, Service.labours, h.activities]

theorem Stirred.toDo {n : Nat} (h : Stirred n s t) : t.toDo ≤ s.toDo + 2 * n := by
  have hsent := h.sent
  obtain ⟨⟨_, _, _, _, _, _, _, _, _, _, rfl⟩, -⟩ := h
  simp only [Service.toDo] at hsent ⊢
  omega

/-! ### Bodies -/

/-- A body that has begun waits for an answer. -/
theorem beginBody_waits {stage : BodyStage} (hw : (s.beginBody env id c session).2 = .waits stage) :
    stage.left ≤ 3 := by
  unfold beginBody at hw
  split at hw
  · unfold beginSwap at hw
    extract_lets said at hw
    split at hw
    · cases hw
      exact Nat.le_of_ble_eq_true rfl
    · cases hw
    · cases hw
  · cases hw
    exact Nat.le_refl _
  · cases hw
    exact Nat.le_refl _
  · cases hw

theorem afterLimits_waits {work : JobWork} {limits : Except SdkError ReceiveLimits}
    {stage : BodyStage} (hw : (s.afterLimits env id session work limits).2 = .waits stage) :
    stage.left ≤ 2 := by
  unfold afterLimits at hw
  split at hw
  · cases hw
    exact Nat.le_of_ble_eq_true rfl
  · cases hw
    exact Nat.le_of_ble_eq_true rfl
  · split at hw
    · cases hw
      exact Nat.le_refl _
    · cases hw
      exact Nat.le_of_ble_eq_true rfl
  · cases hw
    exact Nat.le_of_ble_eq_true rfl
  · cases hw

theorem afterInvoice_waits {work : JobWork} {invoice : Except SdkError Invoice} {stage : BodyStage}
    (hw : (s.afterInvoice env id work invoice).2 = .waits stage) : stage.left ≤ 1 := by
  unfold afterInvoice at hw
  split at hw
  · cases hw
    exact Nat.le_refl _
  · cases hw
    exact Nat.le_refl _
  · cases hw
  · cases hw

/-- A body that goes on comes nearer to its end. -/
theorem resumeBody_nearer {stage stage' : BodyStage} {r : Service W × BodyProgress}
    (hbegun : stage ≠ .fresh) (hr : s.resumeBody env id c session stage = some r)
    (hw : r.2 = .waits stage') :
    stage'.left < stage.left := by
  -- the stages are in the order in which a body comes through them, and no turn goes back
  cases stage with
  | fresh => exact absurd rfl hbegun
  | syncing call =>
    obtain ⟨result, -, rfl⟩ := Option.map_eq_some_iff.mp hr
    cases result with
    | ok => cases hw
    | error e =>
      simp only [afterSync] at hw
      split at hw <;> cases hw
  | askingLimits call =>
    obtain ⟨limits, -, hr⟩ := Option.bind_eq_some_iff.mp hr
    obtain ⟨work, -, hr⟩ := Option.bind_eq_some_iff.mp hr
    cases hr
    exact Nat.lt_succ_of_le (afterLimits_waits hw)
  | invoicing call =>
    obtain ⟨invoice, -, hr⟩ := Option.bind_eq_some_iff.mp hr
    obtain ⟨work, -, hr⟩ := Option.bind_eq_some_iff.mp hr
    cases hr
    exact Nat.lt_succ_of_le (afterInvoice_waits hw)
  | replying call =>
    obtain ⟨result, -, hr⟩ := Option.bind_eq_some_iff.mp hr
    obtain ⟨work, -, hr⟩ := Option.bind_eq_some_iff.mp hr
    cases hr
    cases work <;> cases result <;> cases hw
  | apologizing error call =>
    obtain ⟨result, -, hr⟩ := Option.bind_eq_some_iff.mp hr
    obtain ⟨work, -, hr⟩ := Option.bind_eq_some_iff.mp hr
    cases hr
    cases work <;> cases result <;> cases hw

theorem left_pos (stage : BodyStage) : 0 < stage.left := by
  cases stage <;> exact Nat.zero_lt_succ _

/-- What is left of a body after a turn. -/
def leftOf : BodyProgress → Nat
  | .waits stage => stage.left
  | .done _ => 0

/-- A swap job that asks for a sync brings one settlement. -/
theorem beginBody_spends {job : SwapJob} (hw : s.work? id = some (.swap job))
    (hphase : job.phase = .pending none)
    (honce : ∃ later, (env.sync session s.world).1.settlements = [later]) :
    (s.beginBody env id c session).1.labours + leftOf (s.beginBody env id c session).2 =
      s.labours + 2 ∧
      (s.beginBody env id c session).1.toDo = s.toDo := by
  obtain ⟨message, he⟩ := BodyStrokes.beginBody_of_waits env c session hw hphase
  obtain ⟨later, hlater⟩ := honce
  let asked : Service W := ((s.say "swap" .debug message).setWork id
    (.swap { job with phase := .waiting c })).note (.sync session id)
  obtain ⟨t, ht, hasked⟩ := askSync_eq (s := asked) env session hlater
  have hworked : Worked s asked := Worked.refl.quiet _ _ _ _ _ _ _
  have hsync : s.beginBody env id c session =
      (t.spawn (.settlement session (asked.now + later.delay) later.steps),
        (s.beginBody env id c session).2) := by
    rw [← hasked, he]
    rfl
  have hleft : leftOf (s.beginBody env id c session).2 = 1 := by
    rw [he]
    rfl
  have hbegin : (t.begin (.settlement session (asked.now + later.delay) later.steps)).labours =
      t.labours + 1 :=
    t.labours_begin _
  rw [hsync, hleft]
  refine ⟨?_, ht.toDo.trans hworked.toDo⟩
  show (t.begin _).labours + 1 = s.labours + 2
  rw [hbegin, ht.labours.trans hworked.labours]

/-- **In a turn a body begins less than it had to do.** -/
theorem resumeBody_spends {stage : BodyStage} {r : Service W × BodyProgress}
    (honce : ∃ later, (env.sync session s.world).1.settlements = [later])
    (hr : s.resumeBody env id c session stage = some r) :
    r.1.labours + leftOf r.2 < s.labours + stage.left ∧ r.1.toDo = s.toDo := by
  have hworked : Worked s r.1 → leftOf r.2 < stage.left →
      r.1.labours + leftOf r.2 < s.labours + stage.left ∧ r.1.toDo = s.toDo := by
    intro h hlt
    rw [h.labours]
    exact ⟨Nat.add_lt_add_left hlt _, h.toDo⟩
  -- only a body that begins to wait for a sync begets anything to do
  by_cases hfresh : stage = .fresh
  · subst hfresh
    cases hr
    by_cases hwaits : ∃ job, s.work? id = some (.swap job) ∧ job.phase = .pending none
    case neg =>
      refine hworked ((bodyStrokes_worked env id c).beginBody_of_known
        (fun job hw hphase => hwaits ⟨job, hw, hphase⟩) .refl) ?_
      cases hprogress : (s.beginBody env id c session).2 with
      | waits stage => exact Nat.lt_succ_of_le (beginBody_waits hprogress)
      | done result => exact left_pos _
    case pos =>
      obtain ⟨job, hw, hphase⟩ := hwaits
      obtain ⟨hspent, hdo⟩ := beginBody_spends (c := c) hw hphase honce
      rw [hspent]
      exact ⟨Nat.add_lt_add_left (by decide) _, hdo⟩
  · refine hworked ((bodyStrokes_worked env id c).goOn hfresh hr .refl) ?_
    cases hprogress : r.2 with
    | waits stage' => exact resumeBody_nearer hfresh hr hprogress
    | done result => exact left_pos _

/-! ### Steps -/

theorem remaining_put (hn : t.scene.Numbered) {a b : Activity} (ha : (k, a) ∈ t.activities)
    (hlt : t.labours + labour b + t.toDo < s.labours + labour a + s.toDo) :
    (t.put k b).remaining < s.remaining := by
  have hput := labours_put hn ha b
  show (t.put k b).labours + t.toDo < s.labours + s.toDo
  omega

theorem remaining_finish (hn : t.scene.Numbered) {a : Activity} (ha : (k, a) ∈ t.activities)
    (hlt : t.labours + t.toDo < s.labours + labour a + s.toDo) :
    (t.finish k).remaining < s.remaining := by
  have hfinish := labours_finish hn ha
  show (t.finish k).labours + t.toDo < s.labours + s.toDo
  omega

/-- A trigger that comes nearer to its job leaves less to do. -/
theorem Comes.nearer {m : TriggerMessage} {stage : TriggerStage} {r : Service W × TriggerProgress}
    (hn : r.1.scene.Numbered) (ha : (k, .trigger m stage) ∈ r.1.activities)
    (hc : Comes m stage.left s r) :
    (follow k (.trigger m) (fun s result => s.answer k (.trigger result)) r).remaining <
      s.remaining := by
  obtain ⟨t, progress⟩ := r
  cases progress with
  | waits stage' =>
    obtain ⟨n, ht, -, hlt⟩ := hc
    have hlabours := ht.labours
    have hdo := ht.toDo
    refine remaining_put hn ha ?_
    show t.labours + stage'.left + t.toDo < s.labours + stage.left + s.toDo
    omega
  | done result =>
    -- that it is answered is noted, and nobody has more to do
    refine remaining_finish (t := t) hn ha ?_
    show t.labours + t.toDo < s.labours + stage.left + s.toDo
    cases result with
    | error e =>
      obtain ⟨n, ht, hlt⟩ := hc
      have hlabours := ht.labours
      have hdo := ht.toDo
      omega
    | ok id =>
      obtain ⟨n, u, hu, hlt, trigger, connection, wakes, log, -, -, -, rfl⟩ := hc
      have hlabours := hu.labours
      have hdo := hu.toDo
      have hbegun : (u.enrolled trigger connection).labours = u.labours + 3 + 4 := by
        simp [labours, Service.enrolled, labour, BodyStage.left]
      have hreset : (u.enrolled trigger connection).toDo ≤ u.toDo + 2 := by
        simp only [Service.enrolled, toDo]
        split
        · rw [List.length_append]
          exact Nat.le_of_eq (Nat.add_right_comm _ _ _)
        · exact Nat.le_add_right _ _
      show (u.enrolled trigger connection).labours + (u.enrolled trigger connection).toDo < _
      omega

/-- **Each step of an open service leaves less to do.** -/
theorem OpenStep.nearer (hsane : Sane s)
    (honce : ∀ session, ∃ later, (env.sync session s.world).1.settlements = [later])
    (hs : OpenStep env s k s') : s'.remaining < s.remaining := by
  have hn := hsane.numbered
  cases hs with
  | @listens t ha ht =>
    obtain ⟨hlt, commands, scheduler, history, log, rfl⟩ := ht
    exact remaining_put (t := { s with commands, scheduler, history, log }) hn ha
      (Nat.add_lt_add_left hlt s.labours)
  | @stops t ha ht =>
    obtain ⟨hlt, commands, scheduler, history, log, rfl⟩ := ht
    -- the commands that nobody will obey are gone
    refine Nat.lt_of_le_of_lt (Nat.add_le_add_left (Nat.add_le_add_right ?_ _) _)
      (remaining_finish (t := { s with commands, scheduler, history, log }) hn ha
        (Nat.add_lt_add_left hlt s.labours))
    exact Nat.zero_le _
  | @trigger m stage r ha hstep hcomes =>
    have hj := (resumeTrigger_turn hsane.ledger (hsane.sound _ _ ha) hstep).1.joined
    exact hcomes.nearer (hj.numbered hn) (hj.stays ha)
  | @body id c connection stage u r ha hu hstep =>
    obtain ⟨entries, -, rfl⟩ := hu
    have hturn : Turn k _ r.1 := workStable_turn.resumeBody hstep .refl
    have hj : Joined s.scene r.1.scene := hturn.joined
    obtain ⟨hlt, hdo⟩ := resumeBody_spends (s := { s with jobs := { s.jobs with entries } })
      (honce connection.session) hstep
    have hlt : r.1.labours + leftOf r.2 < s.labours + stage.left := hlt
    have hdo : r.1.toDo = s.toDo := hdo
    have hsum : r.1.labours + leftOf r.2 + r.1.toDo < s.labours + stage.left + s.toDo :=
      Nat.add_lt_add_of_lt_of_le hlt (Nat.le_of_eq hdo)
    rcases followBody_eq k id c connection r with ⟨stage', hwaits, he⟩ | ⟨result, log, hdone, he⟩
    · rw [he]
      rw [hwaits] at hsum
      exact remaining_put (hj.numbered hn) (hj.stays ha) hsum
    · rw [he]
      rw [hdone] at hsum
      exact remaining_finish (t := { r.1 with log }) (hj.numbered hn) (hj.stays ha) hsum
  | @reaper id job c outcome ha hc =>
    obtain ⟨jobs, commands, history, log, wakes, he, hsent, -⟩ := s.removeJob_eq_with id outcome
    have hdo : ({ s with jobs, commands, history, log, wakes } : Service W).toDo ≤ s.toDo + 2 := by
      simp only [toDo]
      omega
    rw [he]
    refine remaining_finish (t := { s with jobs, commands, history, log, wakes }) hn ha ?_
    show s.labours + _ < s.labours + 3 + s.toDo
    omega
  | @settlement session due steps ha hdue =>
    have hworked : Worked s (settleLater env session s steps) :=
      eventStrokes_worked.settleLater _ _ .refl
    have hj : Joined s.scene (settleLater env session s steps).scene :=
      (workStable_turn.settleLater session steps .refl : Turn k s _).joined
    refine remaining_finish (hj.numbered hn) (hj.stays ha) ?_
    rw [hworked.labours, hworked.toDo]
    exact Nat.add_lt_add_right (Nat.lt_succ_self _) _

/-! ## Time -/

/-- The reaper of a job that has been resolved can go on. -/
theorem Watched.reaps (env : Collaborators W) (hw : Watched v (· = .done) s) (hm : Membership s)
    (hmember : v.id ∈ s.jobs.ids) : ∃ j a, (j, a) ∈ s.activities ∧ s.act env j a ≠ none := by
  rw [← hm.reapers] at hmember
  obtain ⟨⟨_, c⟩, hreaper, rfl⟩ := List.mem_map.mp hmember
  obtain ⟨j, hj⟩ := mem_reapers.mp hreaper
  obtain rfl := hw.completer_of_mem hm hj
  obtain ⟨job, -, -, hdone, hb⟩ := hw.own
  rw [hdone] at hb
  obtain ⟨⟨o, ho⟩, -⟩ := hb
  refine ⟨j, _, hj, ?_⟩
  simp [act, ho]

/-- When nobody can go on, a job that was promised a resolution waits for its settlement. -/
theorem Promised.settling_of_still (hr : Reachable env s) (h : Promised v s)
    (hstill : s.Still env) :
    ∃ j session due steps, (j, .settlement session due steps) ∈ s.activities ∧ s.now < due ∧
      due ≤ v.deadline ∧ ∀ t, t ≤ v.deadline → Promise v (s.advanceTo t) := by
  cases h.promise with
  | fresh hsince hbody =>
    -- a body that is about to begin can always go on
    cases hstill _ _ hbody
  | done hsynced hw =>
    obtain ⟨j, a, ha, hact⟩ := hw.reaps env (membership_reachable hr) h.member
    exact absurd (hstill j a ha) hact
  | @settling k due connection steps hs hdue hpays hc hsynced hw =>
    have hlater : s.now < due := by
      by_contra hle
      have hnone := hstill k _ hs
      rw [act, if_pos (Nat.le_of_not_lt hle)] at hnone
      cases hnone
    exact ⟨k, _, due, steps, hs, hlater, hdue, fun t ht => .settling hs hdue hpays hc hsynced
      (hw.wait ht)⟩

/-- **Time passes no further than the settlement of a job that was promised one.** -/
theorem Promised.wait (hr : Reachable env s) (h : Promised v s) (hstill : s.Still env) {time : Nat}
    (hdue : ∀ j a d, (j, a) ∈ s.activities → s.due? a = some d → s.now < d → time ≤ d) :
    time ≤ v.deadline ∧ Promised v (s.advanceTo time) := by
  obtain ⟨j, session, due, steps, hs, hlater, hle, hpromise⟩ := h.settling_of_still hr hstill
  have htime : time ≤ v.deadline := Nat.le_trans (hdue j _ due hs rfl hlater) hle
  obtain ⟨A, hw⟩ := h.promise.watched
  exact ⟨htime, hpromise time htime, h.alive, h.member,
    h.reprieved.move hr hw.since (.wait time) h.alive, h.tight⟩

/-- What lies ahead of a job that was promised a resolution: it has come, or it is nearer. -/
theorem Promised.ahead (hr : Reachable env s) (hw : Wanted s) (heq : Equipped Q s)
    (hsettles : env.Settles Q v.digest v.delay) (h : Promised v s) (ha : Ahead env s s') :
    v.Served s'.history ∨ Promised v s' ∧ Equipped Q s' ∧ Prod.Lex (· < ·) (· < ·)
      (v.deadline - s'.now, s'.remaining) (v.deadline - s.now, s.remaining) := by
  have hequipped : Promised v s' → Equipped Q s' :=
    fun h' => heq.ahead hsettles.asked hr hw ha h'.alive
  cases ha with
  | wait time hstill hlt hdue =>
    -- time comes nearer to the deadline, however much there is to do then
    obtain ⟨htime, h'⟩ := h.wait hr hstill hdue
    refine .inr ⟨h', hequipped h', .left _ _ ?_⟩
    have hnow : (s.advanceTo time).now = time := Nat.max_eq_right (Nat.le_of_lt hlt)
    omega
  | act hs =>
    rcases openStep_of_ownStep hr hw h.alive heq.reads
      (ownStep_of_step (sane_reachable hr).own hs) with
      hopen | hcloses
    · rcases h.openStep hr heq hsettles (.act hs) hopen with h' | hserved
      · have honce : ∀ session, ∃ later, (env.sync session s.world).1.settlements = [later] :=
          fun session =>
          (hsettles.settles session s.world heq.wired.world).imp fun _ hlater => hlater.1
        -- time stands still, and there is less to do
        refine .inr ⟨h', hequipped h', ?_⟩
        rw [hopen.undisturbed.now]
        exact .right _ (hopen.nearer (sane_reachable hr) honce)
      · exact .inl hserved
    · exact absurd hcloses h.not_closes

/-- What is done to a service from outside leaves the promise as it is. -/
theorem Promised.outside (hr : Reachable env s) (h : Promised v s) (hm : Move env s t)
    (hworked : Worked s t ∨ ∃ m, t = s.begin (.trigger m .arriving))
    (hwatched : ∀ A, SwapPhase.Lasts A → Watched v A s → Watched v A t) : Promised v t := by
  have hrest : t.now = s.now ∧ t.ending = s.ending ∧ t.jobs = s.jobs ∧ t.config = s.config ∧
      t.hub = s.hub ∧
      (∀ j a, (j, a) ∈ s.activities → (j, a) ∈ t.activities) ∧
      ∀ j c connection stage, (j, .body v.id c connection stage) ∈ t.activities →
        (j, .body v.id c connection stage) ∈ s.activities := by
    rcases hworked with ⟨_, _, _, _, _, _, _, rfl⟩ | ⟨m, rfl⟩
    · exact ⟨rfl, rfl, rfl, rfl, rfl, fun _ _ => id, fun _ _ _ _ => id⟩
    · refine ⟨rfl, rfl, rfl, rfl, rfl, fun _ _ ha => mem_begin.mpr (.inl ha), fun _ _ _ _ hb => ?_⟩
      exact (mem_begin.mp hb).resolve_right nofun
  obtain ⟨hnow, hending, hjobs, hconfig, hhub, hstay, hbodies⟩ := hrest
  obtain ⟨A, hw⟩ := h.promise.watched
  refine ⟨h.promise.congr hnow hwatched (fun c hc => ?_) hstay hbodies, hending.trans h.alive,
    hjobs ▸ h.member, h.reprieved.move hr hw.since hm (hending.trans h.alive), hconfig ▸ h.tight⟩
  rw [Attached, hhub]
  exact hc

/-- **Throughout a punctual run a job that was promised a resolution has been resolved in time, or
still will be.** -/
theorem Promised.punctual (hr : Reachable env s) (hw : Wanted s) (heq : Equipped Q s)
    (hsettles : env.Settles Q v.digest v.delay) (h : Promised v s) (hp : Punctual env s ms s') :
    v.Served s'.history ∨ Promised v s' := by
  induction hp with
  | refl => exact .inr h
  | @ahead ms s₁ s₂ hp ha ih =>
    have hr₁ := hr.later hp.later
    rcases ih with hserved | h₁
    · exact .inl (hserved.mono (history_of_move hr₁ ha.move))
    · have heq₁ := hp.equipped hsettles.asked hr hw heq h₁.alive
      exact (h₁.ahead hr₁ (hp.wanted hr hw) heq₁ hsettles ha).imp_right And.left
  | @trigger ms s₁ m hp hkept ih =>
    have hm : Move env s₁ (s₁.begin (.trigger m .arriving)) := .call (.trigger m) hkept
    exact ih.imp id fun h₁ => h₁.outside (hr.later hp.later) hm (.inr ⟨m, rfl⟩)
      fun _ _ hw => hw.quiet rfl rfl rfl List.prefix_rfl
  | @report ms s₁ session e hp ih =>
    have hr₁ := hr.later hp.later
    have hm : Move env s₁ (s₁.emit env session e) := .report session e
    refine ih.imp (fun hserved => hserved.mono (history_of_move hr₁ hm)) fun h₁ => ?_
    exact h₁.outside hr₁ hm (.inl (eventStrokes_worked.emit session e .refl))
      fun _ hA hw => (eventStrokes_watched hA).emit session e hw
  | @rouse ms s₁ wakes hp ih =>
    have hm : Move env s₁ { s₁ with wakes } := .rouse wakes
    exact ih.imp id fun h₁ => h₁.outside (hr.later hp.later) hm
      (.inl (Worked.refl.quiet _ _ _ _ _ _ _)) fun _ _ hw => hw.quiet rfl rfl rfl List.prefix_rfl

end Service

end PushWake
