import PushWake.Collaborators.Plan
import PushWake.Proofs.OneEnd

/-!
# Jobs are told first

A service that ends tells its jobs before anything else. Until then it has given nothing back but
what it could not keep: a session or a plugin whose listener was refused goes at once, and that has
nothing to do with the end. Who is told is decided when the set closes, and nobody is told before or
after; so the record of a run falls into three parts, and the signals are all in the middle one.
-/

namespace PushWake

/-- What may happen before a service ends. Only a session or a plugin whose listener has just been
refused is given back, and the host is told nothing. -/
def Early (os : List Occurrence) : Occurrence → Prop
  | .stopPlugin p => ∃ os' n, os = os' ++ [.pluginCreated p n, .addListener n]
  | .closeSession n => ∃ os', os = os' ++ [.sessionOpened n, .addListener n]
  | .hostShutdown _ => False
  | _ => True

/-! ## Splitting a record -/

section
variable {os os' before after : List Occurrence} {o : Occurrence}

/-- What did not happen later happened before. -/
theorem split_left (h : os ++ os' = before ++ o :: after) (ho : o ∉ os') :
    ∃ mid, os = before ++ o :: mid := by
  rcases List.append_eq_append_iff.mp h with ⟨mid, -, he⟩ | ⟨mid, he, hmid⟩
  · exact absurd (he ▸ List.mem_append_right _ List.mem_cons_self) ho
  · cases mid with
    | nil =>
      have hos : os' = o :: after := hmid.symm
      exact absurd (hos ▸ List.mem_cons_self) ho
    | cons x mid =>
      cases hmid
      exact ⟨mid, he⟩

/-- What did not happen before happened later. -/
theorem split_right (h : os ++ os' = before ++ o :: after) (ho : o ∉ os) :
    ∃ mid, before = os ++ mid ∧ os' = mid ++ o :: after := by
  rcases List.append_eq_append_iff.mp h with ⟨mid, he, hmid⟩ | ⟨mid, he, hmid⟩
  · exact ⟨mid, he, hmid⟩
  · cases mid with
    | nil => exact ⟨[], by simpa using he.symm, hmid.symm⟩
    | cons x mid =>
      cases hmid
      exact absurd (he ▸ List.mem_append_right _ List.mem_cons_self) ho

end

/-! ## Deals before the end -/

/-- Until its plugins are stopped for good, a service gives back what it cannot keep. -/
theorem Deal.early {h h' : Holdings} (hl : Ledger h) (hd : Deal h h')
    (hearly : h.stopped = false → Orderly Early h.record) :
    h'.stopped = false → Orderly Early h'.record := by
  cases hd with
  | ask => exact fun hs => (hearly hs).snoc trivial
  | «open» => exact fun hs => (hearly hs).snoc₃ trivial trivial trivial
  | abandon => exact fun hs => (hearly hs).snoc₃ trivial trivial ⟨_, rfl⟩
  | shut => exact hearly
  | close hlive hstopped =>
    intro hs
    cases hs.symm.trans hstopped
  | order => exact fun hs => (hearly hs).snoc trivial
  | create => exact fun hs => (hearly hs).snoc₃ trivial trivial trivial
  | discard => exact fun hs => (hearly hs).snoc₃ trivial trivial ⟨_, _, rfl⟩
  | halt => nofun
  | stop => nofun
  | tell reason hclosed =>
    intro hs
    cases hs.symm.trans (hl.stopped_of_closed hclosed)
  | @other o ho =>
    refine fun hs => (hearly hs).snoc ?_
    cases o <;> trivial

theorem Deals.early {h h' : Holdings} (hl : Ledger h) (hd : Deals h h')
    (hearly : h.stopped = false → Orderly Early h.record) :
    h'.stopped = false → Orderly Early h'.record := by
  induction hd with
  | refl => exact hearly
  | tail hd hlast ih => exact hlast.early (Deals.ledger hd hl) ih

namespace Service

variable {W : Type} {env : Collaborators W} {s s' t u v : Service W} {k : Nat}
  {reason : ShutdownReason}

/-! ## Before the end -/

/-- A service that is alive has not stopped its plugins. -/
theorem unstopped (h : Reachable env s) : s.ending = false → s.shelf.stopped = false := by
  induction h with
  | start hs =>
    obtain ⟨message, rfl⟩ := start_eq hs
    exact fun _ => rfl
  | @move s s' hr hm ih =>
    intro halive
    obtain ⟨os, -, ⟨-, -, hending, hstopped⟩ | ⟨reason, u, -, -, -, hending⟩⟩ :=
      (hr.course hm).record
    · rw [hending] at halive
      exact (hstopped halive).trans (ih halive)
    · rw [hending] at halive
      cases halive

/-- As long as it is alive, it gives back only what it cannot keep. -/
theorem early (h : Reachable env s) : s.ending = false → Orderly Early s.record := by
  -- deals know nothing of the end, but the end is what stops the plugins
  have hdeals : s.shelf.stopped = false → Orderly Early s.record := by
    induction h with
    | start hs =>
      obtain ⟨message, rfl⟩ := start_eq hs
      exact fun _ => .nil
    | move hr hm ih =>
      have hsane := sane_reachable hr
      exact Deals.early hsane.ledger (hsane.move hm).deals ih
  exact fun halive => hdeals (unstopped h halive)

/-- What has become of a service: nothing has begun to end it, or something has, once. -/
inductive Past (env : Collaborators W) (s : Service W) : Prop where
  | alive : s.jobs.closed = false → (∀ o ∈ s.record, o.isAlarm = false) → Past env s
  | ended {s₀ u : Service W} {reason : ShutdownReason} {os : List Occurrence} : Reachable env s₀ →
      (∀ o ∈ s₀.record, o.isAlarm = false) → Begins s₀ reason u → s.jobs.closed = true →
      s.record = u.record ++ os → (∀ o ∈ os, o.isAlarm = false) → Past env s

theorem past (h : Reachable env s) : Past env s := by
  induction h with
  | start hs =>
    obtain ⟨message, rfl⟩ := start_eq hs
    exact .alive rfl nofun
  | @move s s' hr hm ih =>
    obtain ⟨os, hno, ⟨hrecord, hclosed, -⟩ | ⟨reason, u, hb, hrecord, hjobs, -⟩⟩ :=
      (hr.course hm).record
    · cases ih with
      | alive hopen hnone =>
        refine .alive (hclosed.trans hopen) fun o ho => ?_
        rw [hrecord] at ho
        exact (List.mem_append.mp ho).elim (hnone o) (hno o)
      | @ended s₀ u reason os' hr₀ hnone hb hshut hos hno' =>
        have hboth : s'.record = u.record ++ (os' ++ os) := by rw [hrecord, hos, List.append_assoc]
        refine .ended hr₀ hnone hb (hclosed.trans hshut) hboth fun o ho => ?_
        exact (List.mem_append.mp ho).elim (hno' o) (hno o)
    · have hshut : s'.jobs.closed = true := by rw [hjobs, hb.onset.jobs]
      cases ih with
      | alive _ hnone => exact .ended hr hnone hb hshut hrecord hno
      | ended _ _ _ hclosed _ _ => cases hclosed.symm.trans hb.onset.isOpen

/-- Those who are told are the members of the set when it closes. -/
theorem Begins.signalled (h : Begins s reason u) (hnone : ∀ o ∈ s.record, o.isAlarm = false) :
    signalled u.record = s.jobs.ids := by
  obtain ⟨os, hos, hids, -⟩ := h.onset.record
  rw [hos, signalled_append, signalled_append, signalled_eq_nil hnone, hids]
  exact List.append_nil _

/-- Until then everything was as in a service that is alive. -/
theorem Begins.early (hr : Reachable env s) (h : Begins s reason u)
    (hnone : ∀ o ∈ s.record, o.isAlarm = false) {os before after : List Occurrence} {id : Identity}
    (hno : ∀ o ∈ os, o.isAlarm = false) (he : u.record ++ os = before ++ .jobShutdown id :: after) :
    Orderly Early before := by
  have hnot : ∀ {os : List Occurrence}, (∀ o ∈ os, o.isAlarm = false) → .jobShutdown id ∉ os := by
    intro os hno hmem
    cases hno _ hmem
  obtain ⟨os', hos, -, hall⟩ := h.onset.record
  -- the signals stand between the record so far and the beginning of the end
  obtain ⟨mid, hu⟩ := split_left he (hnot hno)
  rw [hos, List.append_assoc] at hu
  obtain ⟨pre, rfl, hpre⟩ := split_right hu (hnot hnone)
  obtain ⟨mid', hos'⟩ := split_left hpre (by simp)
  refine (Service.early hr h.onset.alive).append fun o ho os => ?_
  have honset : isOnset o = true := hall o (hos' ▸ List.mem_append_left _ ho)
  cases o <;> trivial

/-- Before a job is told, nothing has been given back but what could not be kept. -/
theorem early_before_signal (h : Reachable env s) {before after : List Occurrence} {id : Identity}
    (he : s.record = before ++ .jobShutdown id :: after) : Orderly Early before := by
  cases past h with
  | alive _ hnone => cases hnone _ (he ▸ List.mem_append_right _ List.mem_cons_self)
  | ended hr₀ hnone hb _ hos hno => exact hb.early hr₀ hnone hno (hos.symm.trans he)

/-- A beginning is the first, and its signals are the only ones. -/
theorem Begins.alone (h : Begins s reason u) (hnone : ∀ o ∈ s.record, o.isAlarm = false)
    {os : List Occurrence} (hno : ∀ o ∈ os, o.isAlarm = false) (he : t.record = u.record ++ os) :
    PushWake.signalled t.record = s.jobs.ids ∧ reasonsBegun t.record = [reason] := by
  rw [he, signalled_append, reasonsBegun_append, h.signalled hnone, h.onset.reasons.1,
    reasonsBegun_eq_nil hnone, signalled_eq_nil hno, reasonsBegun_eq_nil hno]
  simp

/-- What a move adds to the record, and to whom it speaks. -/
theorem told_by_move (h : Reachable env s) (hm : Move env s s') : ∃ os,
    s'.record = s.record ++ os ∧
      ((s'.jobs.closed = s.jobs.closed ∧ signalled os = []) ∨
      (s.jobs.closed = false ∧ s'.jobs = { s.jobs with closed := true } ∧
        signalled os = s.jobs.ids)) := by
  obtain ⟨os, hno, ⟨hrecord, hclosed, -⟩ | ⟨reason, u, hb, hrecord, hjobs, -⟩⟩ :=
    (h.course hm).record
  · exact ⟨os, hrecord, .inl ⟨hclosed, signalled_eq_nil hno⟩⟩
  · obtain ⟨os', hos, hids, -⟩ := hb.onset.record
    refine ⟨os' ++ .teardownStarted reason :: os, ?_,
      .inr ⟨hb.onset.isOpen, hjobs.trans hb.onset.jobs, ?_⟩⟩
    · simp [hrecord, hos]
    · have hrest : signalled (.teardownStarted reason :: os) = signalled os := rfl
      rw [signalled_append, hids, hrest, signalled_eq_nil hno, List.append_nil]

/-- A set that has closed only loses members. -/
theorem dwindles_later (h : Reachable env s) (hclosed : s.jobs.closed = true)
    (hl : Later env s s') : s'.jobs.closed = true ∧ entered s'.record = entered s.record ∧
      s'.jobs.ids.Sublist s.jobs.ids := by
  have hover := over_later h ((steered_reachable h).closed.symm.trans hclosed) hl
  refine ⟨hover.closed, hover.entered, ?_⟩
  -- whoever has left is gone for good
  have hgone : departed s.record <+: departed s'.record :=
    ((sane_reachable h).later hl).deals.grows.filterMap _
  rw [(membership_reachable h).ids, (membership_reachable (h.later hl)).ids, hover.entered]
  refine List.monotone_filter_right _ fun id hid => ?_
  simp only [Bool.not_eq_true', List.contains_eq_mem, decide_eq_false_iff_not] at hid ⊢
  exact fun hmem => hid (hgone.mem hmem)

/-- **Jobs are told first, and once.** No job is told twice. Those who are told are the members of
the set when it closes, and they stay in it; no other move tells anybody. Before a job is told,
nothing has been given back but a plugin or a session whose listener had just been refused, and the
host has been told nothing. A service that ends for having nothing to do tells nobody, and once the
set has closed no job enters it. -/
theorem jobs_are_told_first (h : Reachable env s) :
    (signalled s.record).Nodup ∧
    (∀ s', Move env s s' → ∃ os, s'.record = s.record ++ os ∧
      ((s'.jobs.closed = s.jobs.closed ∧ signalled os = []) ∨
      (s.jobs.closed = false ∧ s'.jobs = { s.jobs with closed := true } ∧
        signalled os = s.jobs.ids))) ∧
    (∀ before id after, s.record = before ++ .jobShutdown id :: after → Orderly Early before) ∧
    ((.teardownStarted .emptyDelay ∈ s.record ∨ .hostShutdown .emptyDelay ∈ s.record) →
      signalled s.record = []) ∧
    (s.jobs.closed = true → ∀ s', Later env s s' → s'.jobs.closed = true ∧
      entered s'.record = entered s.record ∧ s'.jobs.ids.Sublist s.jobs.ids) := by
  refine ⟨?_, fun s' hm => told_by_move h hm, fun before id after he => early_before_signal h he,
    fun hidle => ?_, fun hclosed s' hl => dwindles_later h hclosed hl⟩
  · -- nobody is told before the end begins, and then it is the members of the set
    cases past h with
    | alive _ hnone => simp [signalled_eq_nil hnone]
    | ended hr₀ hnone hb _ hos hno =>
      rw [(hb.alone hnone hno hos).1]
      exact (membership_reachable hr₀).nodup
  · have hbegun : .emptyDelay ∈ reasonsBegun s.record := by
      rcases hidle with hmem | hmem
      · exact mem_reasonsBegun.mpr hmem
      · have htold := mem_reasonsTold.mpr hmem
        rw [(steered_reachable h).told] at htold
        rw [(steered_reachable h).begun]
        exact List.mem_append_right _ htold
    cases past h with
    | alive _ hnone =>
      rw [reasonsBegun_eq_nil hnone] at hbegun
      cases hbegun
    | ended hr₀ hnone hb _ hos hno =>
      obtain ⟨hids, hreason⟩ := hb.alone hnone hno hos
      rw [hreason] at hbegun
      cases List.mem_singleton.mp hbegun
      rw [hids]
      cases hb with
      | idle _ _ _ hempty => simp [JobSet.ids, hempty]

/-- A service whose wallet refuses the relay a listener; the trigger gets its job all the same, and
then the host ends the service. -/
def refusedRun : Option (Service Plan) :=
  playFrom Plan.collaborators { plugins := { nwc := some ⟨["wss://relay.example"], none⟩ } } true
    { addListener := [.ok (), .error (.generic "refused")] }
    [.trigger swapMessage, .turn 1, .turn 1, .turn 1, .turn 1, .shutdown, .turn 4]

/-- The relay that was refused a listener is stopped before the job is told. -/
theorem refused_relay_stops_first : ¬∀ (s : Service Plan), Reachable Plan.collaborators s →
    ∀ before id after, s.record = before ++ .jobShutdown id :: after →
    ∀ p, .stopPlugin p ∉ before := by
  intro hclaim
  have hrun : refusedRun.isSome = true := rfl
  refine hclaim _ (reachable_of_playFrom (Option.some_get hrun).symm)
    ((refusedRun.get hrun).record.take 13) ⟨1⟩ ((refusedRun.get hrun).record.drop 14) rfl 0 ?_
  exact List.mem_of_getElem? (i := 9) rfl

/-- Nothing else is stopped, and the job of that run is told before the host. -/
theorem refused_relay_is_early : ∃ (s : Service Plan) (before after : List Occurrence),
    refusedRun = some s ∧ s.record = before ++ .jobShutdown ⟨1⟩ :: after ∧
    .stopPlugin 0 ∈ before ∧ Orderly Early before ∧ (signalled s.record).Nodup ∧
    s.jobs.closed = true ∧ .teardownStarted .requested ∈ after := by
  have hrun : refusedRun.isSome = true := rfl
  obtain ⟨honce, -, hfirst, -⟩ :=
    jobs_are_told_first (reachable_of_playFrom (Option.some_get hrun).symm)
  refine ⟨refusedRun.get hrun, (refusedRun.get hrun).record.take 13,
    (refusedRun.get hrun).record.drop 14, (Option.some_get hrun).symm, rfl, ?_, ?_, honce, rfl, ?_⟩
  · exact List.mem_of_getElem? (i := 9) rfl
  · exact hfirst _ ⟨1⟩ _ rfl
  · exact List.mem_of_getElem? (i := 1) rfl

end Service

end PushWake
