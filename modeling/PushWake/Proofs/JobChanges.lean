import PushWake.Proofs.WorkStable

/-!
# The work of jobs, stroke by stroke

What becomes of the events of a session, and what the body of one job does, in the smallest changes
that leave the jobs and their completers in step: a swap job that waits is done, has shown its
resolution and has used its completer in one stroke, and only a body can leave its own completer
with a job. A property that sees how phases and completers go together is kept by such strokes,
where it would not be kept if any phase could change by itself.
-/

namespace PushWake

/-- A resolution says what became of a swap, and not that nobody knows. -/
def Resolution.IsNews (r : Resolution) : Prop :=
  r.notification ≠ Resolution.cancelled.notification

/-- What an event resolves a swap to is news: it shows that the swap was paid, or that it failed. -/
theorem Resolution.isNews_of_ofEvent? {e : Event} {r : Resolution} (h : ofEvent? e = some r) :
    r.IsNews := by
  intro hcancelled
  have htitle : r.notification.title = "Swap still pending" :=
    congrArg Notification.title hcancelled
  cases e with
  | synced => cases h
  | waitingConfirmation =>
    cases h
    exact absurd htitle (by decide)
  | succeeded =>
    cases h
    exact absurd (show "Payment succeeded" = "Swap still pending" from htitle) (by decide)
  | failed =>
    cases h
    exact absurd (show "Swap failed" = "Swap still pending" from htitle) (by decide)

theorem Resolution.isNews_unsynced (e : SdkError) : (unsynced e).IsNews := by
  intro hcancelled
  have htitle : "Swap update failed" = "Swap still pending" :=
    congrArg Notification.title hcancelled
  exact absurd htitle (by decide)

namespace Service

variable {W : Type} {env : Collaborators W} {s : Service W} {P : Service W → Prop} {id : Identity}
  {c session : Nat} {job : SwapJob}

/-! ## Resolutions -/

/-- A property that is kept where a swap job takes a resolution. -/
structure ResolutionStable (r : Resolution) (P : Service W → Prop) : Prop where
  log : ∀ {s : Service W} (log : List (Nat × LogLine)), P s → P { s with log }
  /-- A job that has a resolution already takes no other one. -/
  same : ∀ {s : Service W} {id : Identity} {work : JobWork}, s.work? id = some work → P s →
    P (s.setWork id work)
  /-- A job whose body has not begun keeps its first resolution. -/
  keep : ∀ {s : Service W} {id : Identity} {job : SwapJob}, s.work? id = some (.swap job) →
    job.phase = .pending none → P s →
    P (s.setWork id (.swap { job with phase := .pending (some r) }))
  /-- A job that waits is resolved. -/
  settle : ∀ {s : Service W} {id : Identity} {job : SwapJob} {c : Nat},
    s.work? id = some (.swap job) → job.phase = .waiting c → P s →
    P ((s.setWork id (.swap { job with phase := .done })).settle id c r)

/-- Whatever the job of a swap is at, to resolve it is one of the strokes. -/
theorem ResolutionStable.resolveSwap {r : Resolution} (hP : ResolutionStable r P)
    (hw : s.work? id = some (.swap job)) (h : P s) : P (s.resolveSwap id job r) := by
  unfold Service.resolveSwap
  extract_lets said
  have hsaid : P said ∧ said.work? id = some (.swap job) := by
    simp only [said]
    split
    · exact ⟨hP.log _ h, hw⟩
    · exact ⟨h, hw⟩
  obtain ⟨hsaid, hw⟩ := hsaid
  cases hphase : job.phase with
  | pending early =>
    cases early with
    | none =>
      simp only [SwapJob.resolve, hphase]
      exact hP.keep hw hphase hsaid
    | some early =>
      simp only [SwapJob.resolve, hphase]
      exact hP.same hw hsaid
  | waiting c =>
    simp only [SwapJob.resolve, hphase]
    exact hP.settle hw hphase hsaid
  | done =>
    simp only [SwapJob.resolve, hphase]
    exact hP.same hw hsaid

/-- A swap job takes the signal of the end for a resolution; the others only hear of it. -/
theorem ResolutionStable.signalJob (hP : ResolutionStable .cancelled P)
    (h : P (s.note (.jobShutdown id))) : P (s.signalJob id) := by
  unfold Service.signalJob
  extract_lets noted
  split
  · rename_i job hw
    exact hP.resolveSwap hw h
  · exact hP.log _ h
  · exact hP.log _ h
  · exact h

/-! ## Events -/

/-- A property that is kept by the strokes in which jobs see events. -/
structure EventStrokes (P : Service W → Prop) : Prop where
  /-- What nobody else reads. -/
  quiet : ∀ {s : Service W} (log : List (Nat × LogLine)) (wakes : List Nat) (dispatched : Nat),
    P s → P { s with log, wakes, dispatched }
  note : ∀ {s : Service W} {o : Occurrence}, o.isWork = true → o.isMilestone = false → P s →
    P (s.note o)
  /-- Nothing changes about a job. -/
  same : ∀ {s : Service W} {id : Identity} {work : JobWork}, s.work? id = some work → P s →
    P (s.setWork id work)
  /-- A job whose body has not begun keeps its first resolution. -/
  keep : ∀ {s : Service W} {id : Identity} {job : SwapJob} {r : Resolution},
    s.work? id = some (.swap job) → job.phase = .pending none → r.IsNews → P s →
    P (s.setWork id (.swap { job with phase := .pending (some r) }))
  /-- A job that waits is resolved. -/
  settle : ∀ {s : Service W} {id : Identity} {job : SwapJob} {c : Nat} {r : Resolution},
    s.work? id = some (.swap job) → job.phase = .waiting c → r.IsNews → P s →
    P ((s.setWork id (.swap { job with phase := .done })).settle id c r)

namespace EventStrokes

variable (hP : EventStrokes P)
include hP

theorem say (tag : String) (level : LogLevel) (message : String) (h : P s) :
    P (s.say tag level message) :=
  hP.quiet _ _ _ h

theorem resolutions {r : Resolution} (hr : r.IsNews) : ResolutionStable r P where
  log _ h := hP.quiet _ _ _ h
  same hw h := hP.same hw h
  keep hw hphase h := hP.keep hw hphase hr h
  settle hw hphase h := hP.settle hw hphase hr h

theorem sayResolution (id : Identity) (e : Event) (h : P s) : P (s.sayResolution id e) := by
  cases e with
  | synced => exact h
  | waitingConfirmation | succeeded | failed => exact hP.say _ _ _ h

/-- A job that is shown an event is resolved with news, or stays as it is. -/
theorem showJob (e : Event) (id : Identity) (h : P s) : P (s.showJob e id) := by
  have hn : P (s.note (.jobEvent id e)) := hP.note rfl rfl h
  obtain he | ⟨job, r, hw, hr, he⟩ := s.showJob_cases e id
  · rw [he]
    exact hn
  · have hnews : r.IsNews := by
      rw [SwapJob.resolution?, Option.ite_none_right_eq_some] at hr
      exact Resolution.isNews_of_ofEvent? hr.2
    rw [he]
    exact (hP.resolutions hnews).resolveSwap hw (hP.sayResolution _ _ hn)

/-- So it is for all who are shown an event. -/
theorem shows : ShowStable P where
  quiet _ _ _ h := hP.quiet _ _ _ h
  note ho h := hP.note (Occurrence.isWork_of_isEcho ho).1 (Occurrence.isWork_of_isEcho ho).2 h
  showJob e id h := hP.showJob e id h

theorem emit (session : Nat) (e : Event) (h : P s) : P (s.emit env session e) :=
  hP.shows.emit session e h

/-- A settlement is events, one after the other. -/
theorem settleLater (session : Nat) (steps : List (LogLine × Event)) (h : P s) :
    P (settleLater env session s steps) :=
  hP.shows.settleLater session steps h

theorem and {Q : Service W → Prop} (hQ : EventStrokes Q) : EventStrokes fun t => P t ∧ Q t where
  quiet log wakes dispatched h :=
    ⟨hP.quiet log wakes dispatched h.1, hQ.quiet log wakes dispatched h.2⟩
  note ho hno h := ⟨hP.note ho hno h.1, hQ.note ho hno h.2⟩
  same hw h := ⟨hP.same hw h.1, hQ.same hw h.2⟩
  keep hw hphase hr h := ⟨hP.keep hw hphase hr h.1, hQ.keep hw hphase hr h.2⟩
  settle hw hphase hr h := ⟨hP.settle hw hphase hr h.1, hQ.settle hw hphase hr h.2⟩

end EventStrokes

/-! ## The body of a job -/

/-- A property that is kept by the strokes of the body of one job, which has been given
a completer. -/
structure BodyStrokes (env : Collaborators W) (id : Identity) (c : Nat) (P : Service W → Prop) :
    Prop extends EventStrokes P where
  ask : ∀ {s : Service W} {world : W}, env.Asked s.world world → P s → P { s with world }
  sync : ∀ {s : Service W} (session : Nat), P s → P (s.note (.sync session id))
  /-- The body leaves its completer with a swap job, which waits. -/
  start : ∀ {s : Service W} {job : SwapJob}, s.work? id = some (.swap job) →
    job.phase = .pending none → P s → P (s.setWork id (.swap { job with phase := .waiting c }))
  /-- The body finds a resolution that came early. -/
  early : ∀ {s : Service W} {job : SwapJob} {r : Resolution}, s.work? id = some (.swap job) →
    job.phase = .pending (some r) → P s →
    P ((s.setWork id (.swap { job with phase := .done })).settle id c r)
  use : ∀ {s : Service W} (o : JobOutcome), P s → P (s.complete c o)
  /-- A job that could not reply has failed. -/
  tell : ∀ {s : Service W} (n : Notification), s.OwesReply id → P s → P (s.note (.notify id n))

namespace BodyStrokes

variable (hP : BodyStrokes env id c P)
include hP

/-- After its first turn a body goes on in the strokes that are common to all bodies. -/
theorem bodies : BodyStable env id c P where
  log _ h := hP.quiet _ _ _ h
  ask ha h := hP.ask ha h
  note ho h :=
    hP.note (Occurrence.isWork_of_isErrandOf ho).1 (Occurrence.isWork_of_isErrandOf ho).2 h
  use o h := hP.use o h
  unsynced e hw h := (hP.resolutions (Resolution.isNews_unsynced e)).resolveSwap hw h
  tell n hw h := hP.tell n hw h

/-- A body that has begun goes on. -/
theorem goOn {stage : BodyStage} {r : Service W × BodyProgress} (hbegun : stage ≠ .fresh)
    (hr : s.resumeBody env id c session stage = some r) (h : P s) : P r.1 :=
  hP.bodies.resumeBody (fun hfresh => absurd hfresh hbegun) hr h

/-! ### The first turn -/

omit hP in
/-- A swap job of which nothing is known yet waits for its sync. -/
theorem beginBody_of_waits (env : Collaborators W) (c session : Nat)
    (hw : s.work? id = some (.swap job)) (hphase : job.phase = .pending none) :
    ∃ message, s.beginBody env id c session =
      ((s.say "swap" .debug message).setWork id
        (.swap { job with phase := .waiting c })).beginSync env id session := by
  refine ⟨"Swap job " ++ id.text ++ " waiting on " ++ job.digest ++ " (status " ++ job.status ++
    ")", ?_⟩
  simp only [Service.beginBody, hw, beginSwap, SwapJob.start, hphase]

/-- Any other body begins without a sync. -/
theorem beginBody_of_known
    (hknown : ∀ job, s.work? id = some (.swap job) → job.phase ≠ .pending none) (h : P s) :
    P (s.beginBody env id c session).1 := by
  refine hP.bodies.beginBody (fun job hw => ?_) h
  unfold Service.beginSwap
  extract_lets said
  have hsaid : P said := hP.say _ _ _ h
  cases hphase : job.phase with
  | pending early =>
    cases early with
    | none => exact absurd hphase (hknown job hw)
    | some r =>
      simp only [SwapJob.start, hphase]
      exact hP.early hw hphase hsaid
  | waiting | done =>
    simp only [SwapJob.start, hphase]
    exact hP.bodies.dropCompleter (hP.say _ _ _ hsaid)

section
variable (hsettlement : ∀ {s : Service W} (session due : Nat) (steps : List (LogLine × Event)),
  P s → P (s.begin (.settlement session due steps)))
include hsettlement

theorem beginSync (session : Nat) (h : P s) : P (s.beginSync env id session).1 :=
  hP.shows.askSync (s := s.note (.sync session id)) hsettlement session
    (hP.ask (.sync session) (hP.sync session h))

/-- A body begins with a sync if its job still waits for a signal, and like any other
body if not. -/
theorem beginBody (session : Nat) (h : P s) : P (s.beginBody env id c session).1 := by
  by_cases hwaits : ∃ job, s.work? id = some (.swap job) ∧ job.phase = .pending none
  case neg => exact hP.beginBody_of_known (fun job hw hphase => hwaits ⟨job, hw, hphase⟩) h
  case pos =>
    obtain ⟨job, hw, hphase⟩ := hwaits
    obtain ⟨message, he⟩ := beginBody_of_waits env c session hw hphase
    rw [he]
    exact hP.beginSync hsettlement session (hP.start hw hphase (hP.say _ _ _ h))

/-- **A body keeps in every stage what its strokes keep.** -/
theorem resumeBody {stage : BodyStage} {r : Service W × BodyProgress}
    (hr : s.resumeBody env id c session stage = some r) (h : P s) : P r.1 := by
  by_cases hfresh : stage = .fresh
  · subst hfresh
    cases hr
    exact hP.beginBody hsettlement session h
  · exact hP.goOn hfresh hr h

end

end BodyStrokes

end Service

end PushWake
