import PushWake.Proofs.OpenSteps
import PushWake.Proofs.TwoDeadlines

/-!
# A job that is resolved in time

From its registration on a swap job is in one of three situations, if the wallet settles its swap
after each sync: its body is about to begin, a settlement is on its way to it, or it has been
resolved (`Promise`). As long as time does not pass what somebody waits for, each step leads from
one of these to the next, and in the last of them the job is taken out: until then the service
cannot end, since there is a job and the hard limit is out of reach. So in the end the user has been
shown what became of the swap, and the job has been taken out, both in time and before the hard
limit was over (`Vigil.Served`).
-/

namespace PushWake

/-- Whether a series of events says that a swap has been paid. -/
def Pays (digest : String) (steps : List (LogLine × Event)) : Prop :=
  ∃ step ∈ steps, ∃ swap amount, step.2 = .succeeded swap amount ∧ Digest.sha256 swap = digest

/-- A wallet that settles a swap some time after each sync, all at once. -/
structure Collaborators.Settles {W : Type} (env : Collaborators W) (Q : W → Prop) (digest : String)
    (delay : Nat) : Prop where
  asked : ∀ {w w' : W}, env.Asked w w' → Q w → Q w'
  syncs : ∀ session w, Q w → (env.sync session w).1.answer.result = .ok ()
  settles : ∀ session w, Q w → ∃ later, (env.sync session w).1.settlements = [later] ∧
    later.delay ≤ delay ∧ Pays digest later.steps

/-- A body that has asked for a sync, and is going to hear that all is well. -/
def BodyStage.Synced : BodyStage → Prop
  | .syncing call => call.result = .ok ()
  | _ => False

/-- A job that was resolved in time: its user was shown what became of the swap, it was taken out,
and the hard limit was not over before. -/
def Vigil.Served (v : Vigil) (os : List (Nat × Occurrence)) : Prop := ∃ past, past <+: os ∧
  v.Shown past ∧ (∃ t o, (t, .jobRemoved v.id o) ∈ past ∧ t ≤ v.deadline) ∧
    ∀ t, (t, .expired .service) ∉ past

theorem Vigil.Served.mono {v : Vigil} {os os' : List (Nat × Occurrence)} (h : v.Served os)
    (hgrown : os <+: os') : v.Served os' := by
  obtain ⟨past, hpast, hrest⟩ := h
  exact ⟨past, hpast.trans hgrown, hrest⟩

/-- What comes once on the way comes of the whole way. -/
theorem foldl_reaches {α β : Type} {P R : α → Prop} {f : α → β → α} {a : α} {b : β} {l : List β}
    (hP : ∀ a b, P a → P (f a b)) (hR : ∀ a b, R a → R (f a b)) (hb : b ∈ l)
    (hit : ∀ a, P a → R (f a b)) (h : P a) : R (l.foldl f a) := by
  induction l generalizing a with
  | nil => cases hb
  | cons c l ih =>
    rcases List.mem_cons.mp hb with rfl | hb
    · have hkeep : ∀ (l : List β) {a : α}, R a → R (l.foldl f a) := by
        intro l
        induction l with
        | nil => exact fun h => h
        | cons c l ih => exact fun h => ih (hR _ c h)
      exact hkeep l (hit a h)
    · exact ih hb (hP a c h)

namespace Service

variable {W : Type} {env : Collaborators W} {Q : W → Prop} {s s' t : Service W} {k : Nat}
  {v : Vigil} {A : SwapPhase → Prop}

/-! ## The settlement -/

/-- A resolution that comes to a job whose body has begun leaves it resolved. -/
theorem Watched.resolve (h : Watched v SwapPhase.Begun s) {job : SwapJob}
    (hw : s.work? v.id = some (.swap job)) {r : Resolution} (hr : r.IsNews) :
    Watched v (· = .done) (s.resolveSwap v.id job r) := by
  obtain ⟨job', hw', -, hbegun, hb⟩ := h.own
  obtain rfl : job = job' := JobWork.swap.inj (Option.some.inj (hw.symm.trans hw'))
  unfold Service.resolveSwap
  cases hphase : job.phase with
  | pending early =>
    rw [hphase] at hbegun
    exact hbegun.elim
  | waiting c =>
    rw [hphase] at hb
    obtain rfl : c = v.completer := hb.1
    simp only [SwapJob.resolve, hphase]
    exact h.settle hw hr
  | done =>
    have hdone : Watched v (· = .done) s := ⟨h.tied, h.since, h.late, by
      obtain ⟨job', hw', hdigest, -, hb⟩ := h.own
      obtain rfl : job = job' := JobWork.swap.inj (Option.some.inj (hw.symm.trans hw'))
      exact ⟨job, hw, hdigest, hphase, hb⟩⟩
    simp only [SwapJob.resolve, hphase]
    exact (eventStrokes_watched SwapPhase.lasts_done).same hw hdone

/-- That the swap has been paid resolves the job. -/
theorem Watched.paid (h : Watched v SwapPhase.Begun s) {swap : String} (amount : UInt64)
    (hswap : Digest.sha256 swap = v.digest) :
    Watched v (· = .done) (s.showJob (.succeeded swap amount) v.id) := by
  obtain ⟨job, hw, hdigest, -, -⟩ := h.own
  have hresolution : job.resolution? (.succeeded swap amount) = some (.succeeded amount) := by
    have hconcerns : job.concerns (.succeeded swap amount) = true := by
      simp [SwapJob.concerns, Event.swapId?, hswap, hdigest]
    rw [SwapJob.resolution?, if_pos hconcerns]
    rfl
  have hn : Watched v SwapPhase.Begun
    ((s.note (.jobEvent v.id (.succeeded swap amount))).sayResolution v.id
      (.succeeded swap amount)) := (h.note _).quiet rfl rfl rfl List.prefix_rfl
  have hshow : s.showJob (.succeeded swap amount) v.id =
      ((s.note (.jobEvent v.id (.succeeded swap amount))).sayResolution v.id
        (.succeeded swap amount)).resolveSwap v.id job (.succeeded amount) := by
    have hnoted : (s.note (.jobEvent v.id (.succeeded swap amount))).work? v.id =
        some (.swap job) := hw
    simp only [showJob, hnoted, hresolution]
  rw [hshow]
  exact hn.resolve hw (Resolution.isNews_of_ofEvent? (e := .succeeded swap amount) rfl)

/-- **A settlement that reaches the jobs resolves the job.** -/
theorem Watched.settleLater (h : Watched v SwapPhase.Begun s) (hmember : v.id ∈ s.jobs.ids)
    {session : Nat} {number : Nat} (hlistens : ⟨session, number, .jobs⟩ ∈ s.listeners)
    {steps : List (LogLine × Event)} (hpays : Pays v.digest steps) :
    Watched v (· = .done) (settleLater env session s steps) := by
  obtain ⟨step, hstep, swap, amount, hpaid, hswap⟩ := hpays
  -- until the payment is shown, the job is watched, and neither the set nor the listeners change
  have hP := (eventStrokes_watched (W := W) (v := v) SwapPhase.lasts_begun).and
      (eventStrokes_worked (s := s))
  have hR := eventStrokes_watched (W := W) (v := v) SwapPhase.lasts_done
  have hfan : ∀ t : Service W, Watched v SwapPhase.Begun t ∧ Worked s t →
      Watched v (· = .done) (t.fanOut (.succeeded swap amount)) := by
    intro t ht
    have hids : v.id ∈ t.jobs.ids := by
      obtain ⟨_, _, _, _, _, _, _, rfl⟩ := ht.2
      exact hmember
    exact foldl_reaches (P := fun t => Watched v SwapPhase.Begun t ∧ Worked s t)
      (fun _ id => hP.showJob _ id) (fun _ id => hR.showJob _ id) hids
      (fun _ hu => hu.1.paid amount hswap) (hP.quiet (s := t) _ _ _ ht)
  have hemit : ∀ t : Service W, Watched v SwapPhase.Begun t ∧ Worked s t →
      Watched v (· = .done) (t.emit env session (.succeeded swap amount)) := by
    intro t ht
    have hl : ⟨session, number, .jobs⟩ ∈ t.listenersOf session := by
      obtain ⟨_, _, _, _, _, _, _, rfl⟩ := ht.2
      exact List.mem_filter.mpr ⟨hlistens, beq_self_eq_true session⟩
    exact foldl_reaches (P := fun t => Watched v SwapPhase.Begun t ∧ Worked s t)
      (fun _ l => hP.shows.showTarget _ l.target) (fun _ l => hR.shows.showTarget _ l.target)
        hl hfan ht
  refine foldl_reaches (P := fun t => Watched v SwapPhase.Begun t ∧ Worked s t)
    (fun _ step ht => hP.emit session step.2 (hP.shows.quote _ ht))
    (fun _ step ht => hR.emit session step.2 (hR.shows.quote _ ht)) hstep (fun t ht => ?_)
      ⟨h, .refl⟩
  rw [hpaid]
  exact hemit _ (hP.shows.quote _ ht)

/-! ## Steps that are not for the job -/

/-- The watch goes on, and the job has got no other body. -/
structure StaysWatched (v : Vigil) (A : SwapPhase → Prop) (s t : Service W) : Prop where
  watched : Watched v A t
  bodies : ∀ j c connection stage, (j, .body v.id c connection stage) ∈ t.activities →
    (j, .body v.id c connection stage) ∈ s.activities

/-- Whoever moves on has not become a body of the job. -/
theorem body_of_put {id : Identity} {a : Activity}
    (ha : ∀ c connection stage, a ≠ .body id c connection stage) (hmem : OnlySettles s t)
    {j c : Nat} {connection : Connection} {stage : BodyStage}
    (hb : (j, .body id c connection stage) ∈ (t.put k a).activities) :
    (j, .body id c connection stage) ∈ s.activities := by
  rcases mem_put hb with ⟨-, rfl⟩ | ⟨hb, -⟩
  · exact absurd rfl (ha _ _ _)
  · exact (hmem _ _ hb).resolve_right nofun

theorem body_of_finish {id : Identity} (hmem : OnlySettles s t) {j c : Nat}
    {connection : Connection} {stage : BodyStage}
    (hb : (j, .body id c connection stage) ∈ (t.finish k).activities) :
    (j, .body id c connection stage) ∈ s.activities :=
  (hmem _ _ (mem_finish.mp hb).1).resolve_right nofun

/-- Another job has been registered. -/
theorem Watched.employed (h : Watched v A s) (hlives : Lives s) {m : TriggerMessage} {n : Nat}
    {id : Identity} {u : Service W} (hu : Stirred n s u) (he : Employs m u id t) :
    StaysWatched v A s t := by
  obtain ⟨trigger, connection, wakes, log, -, -, rfl, rfl⟩ := he
  have htied : Tied u := h.tied.quiet hu.works hu.completers
  obtain ⟨job, hw, -, -, -⟩ := h.own
  have hwu : u.work? v.id = some (.swap job) := by
    rw [work?, hu.works]
    exact hw
  have ho : u.Owns v.id v.completer := by
    rw [Owns, hu.completers]
    exact h.owns
  have hhistory : s.history <+: (u.enrolled trigger connection).history := by
    obtain ⟨os, hos, -⟩ := hu.history
    have hgrown : s.history <+: u.history := hos ▸ List.prefix_append _ _
    exact hgrown.trans ((List.prefix_append _ _).trans (List.prefix_append _ _))
  refine ⟨h.congr ((htied.prepared trigger).quiet rfl rfl) hu.now ?_ ?_ hhistory, ?_⟩
  · exact (work?_prepared hwu).trans hw.symm
  · exact (List.getElem?_append_left ho.lt).trans (by rw [hu.completers])
  · intro j c connection' stage hb
    rcases (mem_enrolled trigger connection).mp hb with hb | hb | hb
    · exact hu.activities ▸ hb
    · cases hb
    · -- the identity of the other job has just been drawn
      have hid : v.id = ⟨u.drawn⟩ := (Activity.body.inj (Prod.mk.inj hb).2).1
      obtain ⟨o, ho⟩ := h.owns
      have hlt : v.id.number < s.drawn := hlives.drawn _ _ ho
      rw [hid] at hlt
      exact absurd (Nat.lt_of_lt_of_le hlt hu.drawn) (Nat.lt_irrefl _)

/-- The body of the job, which hears that all is well, has come to its end. -/
theorem Watched.ownBody (h : Watched v A s) (hu : Marked s t) {c : Nat} {connection : Connection}
    {stage : BodyStage} {r : Service W × BodyProgress} (hsynced : stage.Synced)
    (hr : t.resumeBody env v.id c connection.session stage = some r) :
    StaysWatched v A s (follow k (.body v.id c connection)
      (fun s result => s.endBody k v.id result) r) := by
  obtain ⟨entries, -, rfl⟩ := hu
  cases stage with
  | syncing call =>
    obtain ⟨result, hresult, rfl⟩ := Option.map_eq_some_iff.mp hr
    obtain ⟨-, hresult⟩ := Option.ite_none_right_eq_some.mp hresult
    obtain rfl : result = .ok () := (Option.some.inj hresult).symm.trans hsynced
    exact ⟨h.quiet rfl rfl rfl List.prefix_rfl, fun _ _ _ _ hb => body_of_finish (.of_same rfl) hb⟩
  | fresh | askingLimits | invoicing | replying | apologizing => exact hsynced.elim

/-- The body of another job works for that job alone. -/
theorem Watched.otherBody (h : Watched v A s) (hA : SwapPhase.Lasts A) {id : Identity} {c : Nat}
    (hid : id ≠ v.id) (ho : s.Owns id c) (hu : Marked s t) {connection : Connection}
    {stage : BodyStage} {r : Service W × BodyProgress}
    (hr : t.resumeBody env id c connection.session stage = some r) :
    StaysWatched v A s (follow k (.body id c connection)
      (fun s result => s.endBody k id result) r) := by
  obtain ⟨entries, -, rfl⟩ := hu
  have hmem := workBlind_onlySettles.stable.resumeBody hr (.of_same rfl)
  have hw : Watched v A r.1 ∧ r.1.Owns id c := (bodyStrokes_watched env hA hid c).resumeBody
    (fun _ _ _ h => ⟨h.1.quiet rfl rfl rfl List.prefix_rfl, h.2⟩) hr
    ⟨h.quiet rfl rfl rfl List.prefix_rfl, ho⟩
  rcases followBody_eq k id c connection r with ⟨stage, -, he⟩ | ⟨-, log, -, he⟩
  · rw [he]
    refine ⟨hw.1.quiet rfl rfl rfl List.prefix_rfl, fun _ _ _ _ hb => body_of_put ?_ hmem hb⟩
    rintro _ _ _ ⟨⟩
    exact hid rfl
  · rw [he]
    exact ⟨hw.1.quiet rfl rfl rfl List.prefix_rfl, fun _ _ _ _ hb =>
      body_of_finish (t := { r.1 with log }) hmem hb⟩

/-- **Whoever does not resolve the job leaves the watch as it is, and gives the job no
other body.** -/
theorem Watched.openStep (h : Watched v A s) (hA : SwapPhase.Lasts A) (heq : Equipped Q s)
    (hlives : Lives s) (hhistory : s.history <+: s'.history) (hs : OpenStep env s k s')
    (hown : ∀ c connection stage, (k, .body v.id c connection stage) ∈ s.activities →
      stage.Synced) : StaysWatched v A s s' := by
  cases hs with
  | @listens t ha ht =>
    obtain ⟨-, _, _, _, _, rfl⟩ := ht
    exact ⟨h.quiet rfl rfl rfl hhistory, fun _ _ _ _ hb =>
      body_of_put (fun _ _ _ he => by cases he) (.of_same rfl) hb⟩
  | @stops t ha ht =>
    obtain ⟨-, _, _, _, _, rfl⟩ := ht
    exact ⟨h.quiet rfl rfl rfl hhistory, fun _ _ _ _ hb => body_of_finish (.of_same rfl) hb⟩
  | @trigger m stage r ha hstep hcomes =>
    obtain ⟨t, progress⟩ := r
    cases progress with
    | waits stage =>
      obtain ⟨n, ht, -⟩ := hcomes
      exact ⟨h.quiet ht.now ht.works ht.completers hhistory, fun _ _ _ _ hb =>
        body_of_put (fun _ _ _ he => by cases he) (.of_same ht.activities) hb⟩
    | done result =>
      cases result with
      | error e =>
        obtain ⟨n, ht, -⟩ := hcomes
        exact ⟨h.quiet ht.now ht.works ht.completers hhistory, fun _ _ _ _ hb =>
          body_of_finish (t := t) (.of_same ht.activities) hb⟩
      | ok id =>
        obtain ⟨n, u, hu, -, he⟩ := hcomes
        obtain ⟨ht, hbodies⟩ := h.employed hlives hu he
        exact ⟨ht.quiet rfl rfl rfl (List.prefix_append _ _), fun j _ _ _ hb =>
          hbodies j _ _ _ (mem_finish.mp hb).1⟩
  | @body id c connection stage u r ha hu hstep =>
    by_cases hid : id = v.id
    · subst hid
      exact h.ownBody hu (hown _ _ _ ha) hstep
    · exact h.otherBody hA hid (heq.relies _ _ ha) hu hstep
  | @reaper id job c outcome ha hc =>
    obtain ⟨jobs, commands, history, log, wakes, he, -⟩ := s.removeJob_eq_with id outcome
    rw [he] at hhistory ⊢
    exact ⟨h.quiet rfl rfl rfl hhistory, fun _ _ _ _ hb => body_of_finish (.of_same rfl) hb⟩
  | @settlement session due steps ha hdue =>
    have hworked : Worked s (Service.settleLater env session s steps) :=
      eventStrokes_worked.settleLater _ _ .refl
    exact ⟨((eventStrokes_watched hA).settleLater _ _ h).quiet rfl rfl rfl List.prefix_rfl,
      fun _ _ _ _ hb => body_of_finish (.of_same hworked.activities) hb⟩

/-! ## The body begins -/

/-- A settlement that comes with a sync begins, after what comes at once. -/
theorem askSync_eq (env : Collaborators W) (session : Nat) {later : Settlement}
    (hlater : (env.sync session s.world).1.settlements = [later]) :
    ∃ t, Worked s t ∧ (s.askSync env session).1 =
      t.spawn (.settlement session (s.now + later.delay) later.steps) := by
  let asked : Service W :=
    ({ s with world := (env.sync session s.world).2 }).quote
      (env.sync session s.world).1.answer.lines
  have hworked : Worked s ((env.sync session s.world).1.events.foldl (emit env session) asked) :=
    eventStrokes_worked.shows.emitAll session _
      (eventStrokes_worked.shows.quote _ (Worked.refl.quiet _ _ _ _ _ _ _))
  have hnow : ((env.sync session s.world).1.events.foldl (emit env session) asked).now = s.now := by
    obtain ⟨_, _, _, _, _, _, _, he⟩ := hworked
    rw [he]
  refine ⟨_, hworked, ?_⟩
  rw [← hnow]
  show List.foldl _ _ (env.sync session s.world).1.settlements = _
  rw [hlater]
  rfl

/-- **The body begins, and a settlement is on its way, or a resolution was there before.** -/
theorem Watched.beginBody (h : Watched v SwapPhase.Unbegun s)
    (hsettles : env.Settles Q v.digest v.delay) (hworld : Q s.world) (hnow : s.now = v.since)
    (session : Nat) :
    (∃ t call, s.beginBody env v.id v.completer session = (t, .waits (.syncing call)) ∧
      call.result = .ok () ∧ Watched v SwapPhase.Begun t ∧ ∃ j due steps,
        (j, .settlement session due steps) ∈ t.activities ∧ due ≤ v.deadline ∧
        Pays v.digest steps) ∨
    ∃ t, s.beginBody env v.id v.completer session = (t, .done (.ok ())) ∧
    Watched v (· = .done) t := by
  obtain ⟨job, hw, hdigest, hunbegun, hb⟩ := h.own
  cases hphase : job.phase with
  | waiting c =>
    rw [hphase] at hunbegun
    exact hunbegun.elim
  | done =>
    rw [hphase] at hunbegun
    exact hunbegun.elim
  | pending early =>
    rw [hphase] at hb
    cases early with
    | some r =>
      -- the resolution came first, and the body ends at once
      refine .inr ⟨_, ?_,
        (h.quiet (t := s.say "swap" .debug ("Swap job " ++ v.id.text ++ " waiting on " ++
        job.digest ++ " (status " ++ job.status ++ ")")) rfl rfl rfl List.prefix_rfl).settle hw
          (hb.2 r rfl)⟩
      simp only [Service.beginBody, hw, beginSwap, SwapJob.start, hphase]
    | none =>
      obtain ⟨message, he⟩ := BodyStrokes.beginBody_of_waits env v.completer session hw hphase
      let asked : Service W := ((s.say "swap" .debug message).setWork v.id
        (.swap { job with phase := .waiting v.completer })).note (.sync session v.id)
      have hasked : Watched v SwapPhase.Begun asked := by
        have hsaid : Watched v SwapPhase.Unbegun (s.say "swap" .debug message) :=
          h.quiet rfl rfl rfl List.prefix_rfl
        have hbacks : Backs v (s.say "swap" .debug message) (.waiting v.completer) := ⟨rfl, hb.1⟩
        refine Watched.note (hsaid.rework hw trivial hbacks ?_) _
        rintro _ ⟨⟩
        exact h.owns
      obtain ⟨later, hlater, hdelay, hpays⟩ := hsettles.settles session asked.world hworld
      obtain ⟨t, -, ht⟩ := askSync_eq env session hlater
      have hspawned : (t.begun, .settlement session (asked.now + later.delay) later.steps) ∈
          (asked.askSync env session).1.activities :=
        ht ▸ mem_begin.mpr (.inr ⟨rfl, rfl⟩)
      refine .inl ⟨(asked.askSync env session).1, (asked.askSync env session).2, he, ?_, ?_,
        _, _, _, hspawned, ?_, hpays⟩
      · exact hsettles.syncs session asked.world hworld
      · exact (eventStrokes_watched SwapPhase.lasts_begun).shows.askSync
          (fun _ _ _ h => h.quiet rfl rfl rfl List.prefix_rfl) session
          (hasked.quiet rfl rfl rfl List.prefix_rfl)
      · show s.now + later.delay ≤ v.since + v.delay
        omega

/-! ## The promise -/

/-- Where a job is that will be resolved in time. -/
inductive Promise (v : Vigil) (s : Service W) : Prop where
  /-- Its body is about to begin, and is the only one there is. -/
  | fresh {k : Nat} {connection : Connection} : s.now = v.since →
      (k, .body v.id v.completer connection .fresh) ∈ s.activities →
      (∀ j c connection stage, (j, .body v.id c connection stage) ∈ s.activities → j = k) →
      s.Attached connection → Watched v SwapPhase.Unbegun s → Promise v s
  /-- The settlement of its swap is on its way. -/
  | settling {k due : Nat} {connection : Connection} {steps : List (LogLine × Event)} :
      (k, .settlement connection.session due steps) ∈ s.activities → due ≤ v.deadline →
      Pays v.digest steps → s.Attached connection →
      (∀ j c connection stage, (j, .body v.id c connection stage) ∈ s.activities → stage.Synced) →
      Watched v SwapPhase.Begun s → Promise v s
  /-- It has been resolved. -/
  | done :
      (∀ j c connection stage, (j, .body v.id c connection stage) ∈ s.activities → stage.Synced) →
      Watched v (· = .done) s → Promise v s

/-- A job that will be resolved in time, in a service that cannot end before. -/
structure Promised (v : Vigil) (s : Service W) : Prop where
  promise : Promise v s
  alive : s.ending = false
  member : v.id ∈ s.jobs.ids
  reprieved : Reprieved v.since s
  tight : v.deadline < v.since + s.config.timeouts.serviceMs.toNat

theorem Promise.watched (h : Promise v s) : ∃ A, Watched v A s := by
  cases h with
  | fresh _ _ _ _ hw => exact ⟨_, hw⟩
  | settling _ _ _ _ _ hw => exact ⟨_, hw⟩
  | done _ hw => exact ⟨_, hw⟩

/-- What belongs to nobody's turn leaves the promise as it is. -/
theorem Promise.congr (h : Promise v s) (hnow : t.now = s.now)
    (hwatched : ∀ A, SwapPhase.Lasts A → Watched v A s → Watched v A t)
    (hattached : ∀ connection, s.Attached connection → t.Attached connection)
    (hstay : ∀ j a, (j, a) ∈ s.activities → (j, a) ∈ t.activities)
    (hbodies : ∀ j c connection stage, (j, .body v.id c connection stage) ∈ t.activities →
      (j, .body v.id c connection stage) ∈ s.activities) : Promise v t := by
  cases h with
  | fresh hsince hbody hunique hc hw =>
    exact .fresh (hnow.trans hsince) (hstay _ _ hbody)
      (fun j c connection stage hb => hunique j c connection stage (hbodies _ _ _ _ hb))
      (hattached _ hc) (hwatched _ SwapPhase.lasts_unbegun hw)
  | settling hs hdue hpays hc hsynced hw =>
    exact .settling (hstay _ _ hs) hdue hpays (hattached _ hc)
      (fun j c connection stage hb => hsynced j c connection stage (hbodies _ _ _ _ hb))
      (hwatched _ SwapPhase.lasts_begun hw)
  | done hsynced hw =>
    exact .done (fun j c connection stage hb => hsynced j c connection stage (hbodies _ _ _ _ hb))
      (hwatched _ SwapPhase.lasts_done hw)

/-! ### Steps -/

/-- The body of the job begins. -/
theorem Promise.begins (hsane : Sane s) (heq : Equipped Q s)
    (hsettles : env.Settles Q v.digest v.delay) {connection : Connection} (hnow : s.now = v.since)
    (hbody : (k, .body v.id v.completer connection .fresh) ∈ s.activities)
    (hunique : ∀ j c connection stage, (j, .body v.id c connection stage) ∈ s.activities → j = k)
    (hattached : s'.Attached connection) (hw : Watched v SwapPhase.Unbegun s)
    (hs : OpenStep env s k s') :
    Promise v s' := by
  have hsame : ∀ {a}, (k, a) ∈ s.activities → .body v.id v.completer connection .fresh = a :=
    fun ha => hsane.numbered.unique hbody ha
  cases hs with
  | listens ha | stops ha | trigger ha | reaper ha | settlement ha => cases hsame ha
  | @body id c connection' stage u r ha hu hstep =>
    cases hsame ha
    obtain ⟨entries, -, rfl⟩ := hu
    have hmem := workBlind_onlySettles.stable.resumeBody hstep (.of_same rfl)
    have hturn : Turn k _ r.1 := workStable_turn.resumeBody hstep .refl
    have hj : Joined s.scene r.1.scene := hturn.joined
    have hother : ∀ {j c connection stage}, (j, .body v.id c connection stage) ∈ r.1.activities →
        j = k :=
      fun hb => hunique _ _ _ _ ((hmem _ _ hb).resolve_right nofun)
    cases hstep
    -- the job waits for its sync, and its settlement comes by itself; or it has had its signal
    rcases Watched.beginBody (hw.quiet (t := { s with jobs := { s.jobs with entries } }) rfl rfl rfl
        List.prefix_rfl) hsettles heq.wired.world hnow connection.session with
      ⟨t, call, he, hcall, ht, j, due, steps, hj', hdue, hpays⟩ | ⟨t, he, ht⟩
    · rw [he] at hj hother hattached ⊢
      -- the settlement is an activity of its own, and not the body
      have hne : j ≠ k := by
        rintro rfl
        cases (hj.numbered hsane.numbered).unique (hj.stays hbody) hj'
      refine .settling (mem_put_of_ne hj' hne) hdue hpays hattached
        (fun i c connection stage hb => ?_) (ht.quiet rfl rfl rfl List.prefix_rfl)
      rcases mem_put hb with ⟨-, hb⟩ | ⟨hb, hi⟩
      · cases hb
        exact hcall
      · exact absurd (hother hb) hi
    · rw [he] at hother ⊢
      refine .done (fun i c connection stage hb => ?_) (ht.quiet rfl rfl rfl List.prefix_rfl)
      obtain ⟨hb, hi⟩ := mem_finish.mp hb
      exact absurd (hother hb) hi

/-- The jobs hear the session of a connection that is still the one of the live session. -/
theorem Wired.hears (h : Wired Q s) {connection : Connection} (hc : s.Attached connection) :
    ∃ number, ⟨connection.session, number, .jobs⟩ ∈ s.listeners := by
  obtain ⟨live, hlive, rfl⟩ := Option.map_eq_some_iff.mp (hc h.isOpen)
  exact ⟨live.listener, h.listens live hlive⟩

/-- **In every step the promise is kept, whoever takes it.** -/
theorem Promise.openStep (h : Promise v s) (hsane : Sane s) (hlives : Lives s) (heq : Equipped Q s)
    (hsettles : env.Settles Q v.digest v.delay) (hmember : v.id ∈ s.jobs.ids)
    (hhistory : s.history <+: s'.history)
    (hattached : ∀ connection, s.Attached connection → s'.Attached connection)
    (hs : OpenStep env s k s') : Promise v s' := by
  obtain ⟨-, hnow, hstay⟩ := hs.undisturbed
  cases h with
  | @fresh k₀ connection hsince hbody hunique hc hw =>
    -- only the body itself can begin, and it has not waited
    by_cases hk : k₀ = k
    · subst hk
      exact .begins hsane heq hsettles hsince hbody hunique (hattached _ hc) hw hs
    · obtain ⟨hw', hbodies⟩ := hw.openStep SwapPhase.lasts_unbegun heq hlives hhistory hs
        fun c connection stage hb => absurd (hunique _ _ _ _ hb).symm hk
      exact .fresh (hnow.trans hsince) (hstay _ _ hk hbody)
        (fun j c connection stage hb => hunique j c connection stage (hbodies _ _ _ _ hb))
        (hattached _ hc) hw'
  | @settling k₀ due connection steps hsettlement hdue hpays hc hsynced hw =>
    obtain ⟨hw', hbodies⟩ := hw.openStep SwapPhase.lasts_begun heq hlives hhistory hs (hsynced k)
    have hsynced' : ∀ j c connection stage, (j, .body v.id c connection stage) ∈ s'.activities →
        stage.Synced := fun j c connection stage hb => hsynced j c connection stage
          (hbodies _ _ _ _ hb)
    by_cases hk : k₀ = k
    · subst hk
      have hsame : ∀ {a}, (k₀, a) ∈ s.activities → .settlement connection.session due steps = a :=
        fun ha => hsane.numbered.unique hsettlement ha
      cases hs with
      | listens ha | stops ha | trigger ha | body ha | reaper ha => cases hsame ha
      | settlement ha _ =>
        cases hsame ha
        obtain ⟨number, hlistens⟩ := heq.wired.hears hc
        exact .done hsynced' ((hw.settleLater hmember hlistens hpays).quiet rfl rfl rfl
          List.prefix_rfl)
    · exact .settling (hstay _ _ hk hsettlement) hdue hpays (hattached _ hc) hsynced' hw'
  | done hsynced hw =>
    obtain ⟨hw', hbodies⟩ := hw.openStep SwapPhase.lasts_done heq hlives hhistory hs (hsynced k)
    exact .done (fun j c connection stage hb => hsynced j c connection stage (hbodies _ _ _ _ hb))
      hw'

/-- Whoever waits for the completer of a job that is watched waits for the one of the watch. -/
theorem Watched.completer_of_mem (hw : Watched v A s) (hm : Membership s) {c : Nat}
    (ha : (k, .reaper v.id c) ∈ s.activities) : c = v.completer := by
  obtain ⟨m, hm', hjob⟩ := hm.known _ (mem_reapers.mpr ⟨k, ha⟩)
  obtain ⟨o, ho⟩ := hw.owns
  exact hm.lives.alone _ _ _ _ hm' ho hjob

/-- A job whose completer has been used has been resolved. -/
theorem Watched.shown_of_used (hw : Watched v A s) {job : Identity} {o : JobOutcome}
    (hused : s.completers[v.completer]? = some ⟨job, some o⟩) : v.Shown s.history := by
  obtain ⟨job, -, -, -, hb⟩ := hw.own
  cases hphase : job.phase with
  | pending early =>
    rw [hphase] at hb
    cases hused.symm.trans hb.1
  | waiting c =>
    rw [hphase] at hb
    cases hused.symm.trans hb.2
  | done =>
    rw [hphase] at hb
    exact hb.2

namespace Promised

variable (hr : Reachable env s) (h : Promised v s)
include hr h

omit hr in
/-- The service cannot end while the job is there. -/
theorem not_closes : ¬Closes s k s' := by
  rintro ⟨-, ha, hidle, hdue | hempty⟩
  · obtain ⟨A, hw⟩ := h.promise.watched
    exact h.reprieved.not_due (listens_of_mem ha) hidle (Nat.lt_of_le_of_lt hw.late h.tight) hdue
  · have hmember := h.member
    rw [JobSet.ids, hempty] at hmember
    cases hmember

/-- **A step keeps the promise, or takes the job out in time.** -/
theorem openStep (heq : Equipped Q s) (hsettles : env.Settles Q v.digest v.delay)
    (hm : Move env s s') (hs : OpenStep env s k s') : Promised v s' ∨ v.Served s'.history := by
  have halive : s'.ending = false := hs.undisturbed.ending.trans h.alive
  have hsane := sane_reachable hr
  have hmembership := membership_reachable hr
  have hhistory := history_of_move hr hm
  obtain ⟨A, hw⟩ := h.promise.watched
  rcases hs.member h.member with hmember | ⟨c, job, o, ha, hc, he⟩
  · refine .inl ⟨?_, halive, hmember, h.reprieved.move hr hw.since hm halive, ?_⟩
    · exact h.promise.openStep hsane hmembership.lives heq hsettles h.member hhistory
        (fun connection hc => hc.deals (hsane.move hm).deals) hs
    · rw [(hr.course hm).config]
      exact h.tight
  · obtain rfl := hw.completer_of_mem hmembership ha
    obtain ⟨_, _, _, _, _, hremoved, -, hmem, -⟩ := removeJob_eq_with_of_mem h.member o
    refine .inr ⟨s'.history, List.prefix_rfl, (hw.shown_of_used hc).mono hhistory,
      ⟨s.now, o, ?_, hw.late⟩, unexpired_of_open (.move hr hm) halive⟩
    rw [he, hremoved]
    exact hmem

end Promised

end Service

end PushWake
