import PushWake.Proofs.Completers
import PushWake.Proofs.JobListeners

/-!
# A watch over a swap job

A swap job that waits holds its own completer and nobody else's (`Tied`). So while other jobs are
resolved and other bodies go on, a job that is watched (`Watched`) can only be resolved itself: then
it has shown what became of its swap, in the time of the watch, and its completer has been used.
Which phases the job may be in is a parameter: a job of which a certain phase is known can only have
gone on from there.
-/

namespace PushWake

/-- A watch over a swap job: its completer, the digest it waits for, when it was registered, and how
long it may take. -/
structure Vigil where
  id : Identity
  completer : Nat
  digest : String
  since : Nat
  delay : Nat

/-- When the job should be resolved at the latest. -/
def Vigil.deadline (v : Vigil) : Nat := v.since + v.delay

/-- The user has been shown in time what became of the swap. -/
def Vigil.Shown (v : Vigil) (os : List (Nat × Occurrence)) : Prop :=
  ∃ t n, (t, .notify v.id n) ∈ os ∧ v.since ≤ t ∧ t ≤ v.deadline ∧
    n ≠ Resolution.cancelled.notification

theorem Vigil.Shown.mono {v : Vigil} {os os' : List (Nat × Occurrence)} (h : v.Shown os)
    (hgrown : os <+: os') : v.Shown os' := by
  obtain ⟨t, n, hn, hrest⟩ := h
  exact ⟨t, n, hgrown.mem hn, hrest⟩

/-- Phases that a job stays in when it is resolved. -/
structure SwapPhase.Lasts (A : SwapPhase → Prop) : Prop where
  keep : ∀ r, A (.pending none) → A (.pending (some r))
  settle : ∀ c, A (.waiting c) → A .done

/-- The body has not begun. -/
def SwapPhase.Unbegun : SwapPhase → Prop
  | .pending _ => True
  | .waiting _ => False
  | .done => False

/-- The body has begun. -/
def SwapPhase.Begun : SwapPhase → Prop
  | .pending _ => False
  | .waiting _ => True
  | .done => True

theorem SwapPhase.lasts_unbegun : Lasts Unbegun := ⟨fun _ _ => trivial, nofun⟩

theorem SwapPhase.lasts_begun : Lasts Begun := ⟨nofun, fun _ _ => trivial⟩

theorem SwapPhase.lasts_done : Lasts (· = .done) := ⟨nofun, nofun⟩

namespace Service

variable {W : Type} {env : Collaborators W} {s t : Service W} {v : Vigil} {id : Identity} {c : Nat}
  {A B : SwapPhase → Prop} {job : SwapJob}

/-! ## The watch -/

/-- What goes with the phase of a job that is watched. -/
def Backs (v : Vigil) (s : Service W) : SwapPhase → Prop
  | .pending early => s.completers[v.completer]? = some ⟨v.id, none⟩ ∧ ∀ r ∈ early, r.IsNews
  | .waiting c => c = v.completer ∧ s.completers[v.completer]? = some ⟨v.id, none⟩
  | .done => (∃ o, s.completers[v.completer]? = some ⟨v.id, some o⟩) ∧ v.Shown s.history

/-- A job that is watched, and is in one of some phases. -/
structure Watched (v : Vigil) (A : SwapPhase → Prop) (s : Service W) : Prop where
  tied : Tied s
  since : v.since ≤ s.now
  late : s.now ≤ v.deadline
  own : ∃ job, s.work? v.id = some (.swap job) ∧ job.digest = v.digest ∧ A job.phase ∧
    Backs v s job.phase

theorem Backs.owns {phase : SwapPhase} (h : Backs v s phase) : s.Owns v.id v.completer := by
  cases phase with
  | pending early => exact ⟨none, h.1⟩
  | waiting c => exact ⟨none, h.2⟩
  | done =>
    obtain ⟨⟨o, ho⟩, -⟩ := h
    exact ⟨some o, ho⟩

/-- What a watch rests on is the completer and what has happened. -/
theorem Backs.congr {phase : SwapPhase} (h : Backs v s phase)
    (hcompleter : t.completers[v.completer]? = s.completers[v.completer]?)
    (hhistory : s.history <+: t.history) : Backs v t phase := by
  cases phase with
  | pending early => exact ⟨hcompleter.trans h.1, h.2⟩
  | waiting c => exact ⟨h.1, hcompleter.trans h.2⟩
  | done =>
    obtain ⟨⟨o, ho⟩, hshown⟩ := h
    exact ⟨⟨o, hcompleter.trans ho⟩, hshown.mono hhistory⟩

namespace Watched

theorem owns (h : Watched v A s) : s.Owns v.id v.completer := by
  obtain ⟨job, -, -, -, hb⟩ := h.own
  exact hb.owns

/-- More may be known of the phase. -/
theorem mono (h : Watched v A s) (hAB : ∀ phase, A phase → B phase) : Watched v B s := by
  obtain ⟨job, hw, hdigest, hA, hb⟩ := h.own
  exact ⟨h.tied, h.since, h.late, job, hw, hdigest, hAB _ hA, hb⟩

/-- What changes neither the work of the job nor its completer changes nothing. -/
theorem congr (h : Watched v A s) (htied : Tied t) (hnow : t.now = s.now)
    (hwork : t.work? v.id = s.work? v.id)
    (hcompleter : t.completers[v.completer]? = s.completers[v.completer]?)
    (hhistory : s.history <+: t.history) : Watched v A t := by
  obtain ⟨job, hw, hdigest, hA, hb⟩ := h.own
  exact ⟨htied, hnow ▸ h.since, hnow ▸ h.late, job, hwork.trans hw, hdigest, hA,
    hb.congr hcompleter hhistory⟩

theorem quiet (h : Watched v A s) (hnow : t.now = s.now) (hworks : t.works = s.works)
    (hcompleters : t.completers = s.completers) (hhistory : s.history <+: t.history) :
    Watched v A t :=
  h.congr (h.tied.quiet hworks hcompleters) hnow (by rw [work?, work?, hworks])
    (by rw [hcompleters]) hhistory

theorem note (h : Watched v A s) (o : Occurrence) : Watched v A (s.note o) :=
  h.quiet rfl rfl rfl (List.prefix_append _ _)

/-- Time passes, and not beyond the deadline. -/
theorem wait (h : Watched v A s) {time : Nat} (hlate : time ≤ v.deadline) :
    Watched v A (s.advanceTo time) := by
  obtain ⟨job, hw, hdigest, hA, hb⟩ := h.own
  exact ⟨h.tied.quiet rfl rfl, Nat.le_trans h.since (Nat.le_max_left _ _),
    Nat.max_le.mpr ⟨h.late, hlate⟩, job, hw, hdigest, hA, hb.congr rfl List.prefix_rfl⟩

/-- Another completer is used. -/
theorem complete (h : Watched v A s) (hne : c ≠ v.completer) (o : JobOutcome) :
    Watched v A (s.complete c o) := by
  have htied := h.tied.complete c o
  have hcompleter := complete_of_ne (s := s) o hne
  have hhistory := history_complete (s := s) (c := c) o
  obtain ⟨_, _, _, he⟩ := complete_eq_with (s := s) c o
  rw [he] at htied hcompleter hhistory ⊢
  exact h.congr htied rfl rfl hcompleter hhistory

/-- The completer of another job is another one. -/
theorem ne_of_owns (h : Watched v A s) (hid : id ≠ v.id) (ho : s.Owns id c) : c ≠ v.completer := by
  rintro rfl
  exact hid (ho.eq h.owns)

/-- Another job has other work. -/
theorem reworkOther (h : Watched v A s) (hid : id ≠ v.id) {phase : SwapPhase}
    (hown : ∀ c, phase = .waiting c → s.Owns id c) :
    Watched v A (s.setWork id (.swap { job with phase })) :=
  h.congr (h.tied.rework hown) rfl (work?_setWork_of_ne _ hid.symm) rfl List.prefix_rfl

/-- Another job is resolved. -/
theorem settleOther (h : Watched v A s) (hid : id ≠ v.id) (ho : s.Owns id c) (r : Resolution) :
    Watched v A ((s.setWork id (.swap { job with phase := .done })).settle id c r) :=
  complete (s := (s.setWork id _).note _)
    ((h.reworkOther hid fun _ hdone => by cases hdone).note _) (h.ne_of_owns hid ho) r.outcome

/-- The job itself comes to a phase. -/
theorem rework (h : Watched v A s) (hw : s.work? v.id = some (.swap job)) {phase : SwapPhase}
    (hB : B phase) (hb : Backs v s phase) (hown : ∀ c, phase = .waiting c → s.Owns v.id c) :
    Watched v B (s.setWork v.id (.swap { job with phase })) := by
  obtain ⟨job', hw', hdigest, -, -⟩ := h.own
  obtain rfl : job = job' := JobWork.swap.inj (Option.some.inj (hw.symm.trans hw'))
  exact ⟨h.tied.rework hown, h.since, h.late, _,
    work?_setWork _ (hw.trans_ne (Option.some_ne_none _)),
    hdigest, hB, hb.congr rfl List.prefix_rfl⟩

/-- The job itself is resolved: it has been shown what became of the swap, in time. -/
theorem settle (h : Watched v A s) (hw : s.work? v.id = some (.swap job)) {r : Resolution}
    (hr : r.IsNews) :
    Watched v (· = .done)
      ((s.setWork v.id (.swap { job with phase := .done })).settle v.id v.completer r) := by
  obtain ⟨job', hw', hdigest, -, hb⟩ := h.own
  obtain rfl : job = job' := JobWork.swap.inj (Option.some.inj (hw.symm.trans hw'))
  generalize hset : (s.setWork v.id (.swap { job with phase := .done })).note
    (.notify v.id r.notification) = noted
  have htied : Tied (noted.complete v.completer r.outcome) :=
    hset ▸ h.tied.settled v.completer r
  have howns : noted.Owns v.id v.completer := hset ▸ hb.owns
  have hused := used_complete r.outcome howns
  have hwork : noted.work? v.id = some (.swap { job with phase := .done }) :=
    hset ▸ work?_setWork _ (hw.trans_ne (Option.some_ne_none _))
  have hnow : noted.now = s.now := hset ▸ rfl
  have hshown : v.Shown (noted.complete v.completer r.outcome).history := by
    refine ⟨s.now, r.notification, (history_complete r.outcome).mem ?_, h.since, h.late, hr⟩
    rw [← hset]
    exact List.mem_append_right _ (List.mem_singleton_self _)
  have hsettle : (s.setWork v.id (.swap { job with phase := .done })).settle v.id v.completer r =
      noted.complete v.completer r.outcome := by rw [← hset]; rfl
  rw [hsettle]
  obtain ⟨_, _, _, he⟩ := complete_eq_with (s := noted) v.completer r.outcome
  rw [he] at htied hused hshown ⊢
  exact ⟨htied, hnow ▸ h.since, hnow ▸ h.late, _, hwork, hdigest, rfl, hused, hshown⟩

end Watched

/-- **Events only resolve a job that is watched.** -/
theorem eventStrokes_watched (hA : SwapPhase.Lasts A) : EventStrokes (Watched (W := W) v A) where
  quiet _ _ _ h := h.quiet rfl rfl rfl List.prefix_rfl
  note _ _ h := h.note _
  same {_ id _} hw h := h.congr (eventStrokes_tied.same hw h.tied) rfl
    (work?_setWork_same hw v.id) rfl List.prefix_rfl
  keep {s id job r} hw hphase hr h := by
    by_cases hid : id = v.id
    · subst hid
      obtain ⟨job', hw', -, hA', hb⟩ := h.own
      obtain rfl : job = job' := JobWork.swap.inj (Option.some.inj (hw.symm.trans hw'))
      rw [hphase] at hA' hb
      exact h.rework hw (hA.keep r hA') ⟨hb.1, by rintro r ⟨⟩; exact hr⟩ nofun
    · exact h.reworkOther hid nofun
  settle {s id job c r} hw hphase hr h := by
    by_cases hid : id = v.id
    · subst hid
      obtain ⟨job', hw', -, hA', hb⟩ := h.own
      obtain rfl : job = job' := JobWork.swap.inj (Option.some.inj (hw.symm.trans hw'))
      rw [hphase] at hA' hb
      obtain rfl : c = v.completer := hb.1
      refine (h.settle hw hr).mono ?_
      rintro _ rfl
      exact hA.settle _ hA'
    · exact h.settleOther hid (h.tied.held id job c hw hphase) r

/-- The body of another job, with a completer of its own, leaves a job that is watched alone. -/
theorem bodyStrokes_watched (env : Collaborators W) (hA : SwapPhase.Lasts A) (hid : id ≠ v.id)
    (c : Nat) :
    BodyStrokes env id c fun t => Watched v A t ∧ t.Owns id c where
  toEventStrokes := (eventStrokes_watched hA).and eventStrokes_owns
  ask _ h := ⟨h.1.quiet rfl rfl rfl List.prefix_rfl, h.2⟩
  sync _ h := ⟨h.1.note _, h.2⟩
  start _ _ h := ⟨h.1.reworkOther hid (by rintro _ ⟨⟩; exact h.2), h.2⟩
  early {_ _ r} _ _ h := ⟨h.1.settleOther hid h.2 r,
    Owns.complete (s := (Service.setWork _ _ _).note _) _ h.2⟩
  use o h := ⟨h.1.complete (h.1.ne_of_owns hid h.2) o, h.2.complete o⟩
  tell _ _ h := ⟨h.1.note _, h.2⟩

end Service

end PushWake
