import PushWake.Proofs.SwapNotices

/-!
# The first signal resolves a swap job

A swap job is told of events, is told that the service ends, and learns that its sync has
failed, in any order and wherever its body begins. Whatever comes first resolves it: the user is
shown one notification and the completer is used once, as the first signal has it, as soon as
the body has begun. Everything that comes later is passed over. `Stands` says how the phase of
the job, its completer and the record go with the signals so far; every signal and every step of
the body keep it.
-/

namespace PushWake

/-! ## Signals -/

/-- What resolves a swap job. -/
inductive SwapSignal where
  | succeeded (amountSat : UInt64)
  | waitingConfirmation
  | failed (reason : String)
  /-- The service ends. -/
  | shutdown
  /-- The sync of the body has failed. -/
  | unsynced (error : SdkError)
deriving DecidableEq, Repr, Inhabited

namespace SwapSignal

/-- What the user is shown. -/
def notification : SwapSignal → Notification
  | succeeded amount =>
    ⟨"Payment succeeded", "Swap of " ++ toString amount.toNat ++ " sat completed"⟩
  | waitingConfirmation =>
    ⟨"Payment waiting confirmation", "Your swap is waiting for on-chain confirmation"⟩
  | failed reason => ⟨"Swap failed", reason⟩
  | shutdown => ⟨"Swap still pending", "Open the app to finish processing the swap"⟩
  | unsynced _ => ⟨"Swap update failed", "Could not sync the wallet"⟩

/-- What becomes of the job. -/
def outcome : SwapSignal → JobOutcome
  | succeeded _ => .completed
  | waitingConfirmation => .completed
  | failed reason => .failed reason
  | shutdown => .failed "cancelled by shutdown"
  | unsynced e => .failed e.message

/-- The resolution that a signal stands for. -/
def resolution (x : SwapSignal) : Resolution := ⟨x.notification, x.outcome⟩

/-- The signal in an event about the swap. -/
def ofEvent? : Event → Option SwapSignal
  | .synced => none
  | .waitingConfirmation _ => some waitingConfirmation
  | .succeeded _ amount => some (succeeded amount)
  | .failed _ reason => some (failed reason)

theorem resolution_ofEvent? (e : Event) : Resolution.ofEvent? e = (ofEvent? e).map resolution := by
  cases e <;> rfl

end SwapSignal

/-- The signal that a job of a request gets: a payment whose swap has the digest of the request, in
lower case, or the end of the service. -/
def Occurrence.signal? (r : SwapUpdatedRequest) (id : Identity) : Occurrence → Option SwapSignal
  | .jobEvent job e =>
    if job = id ∧ e.swapId?.map Digest.sha256 = some (Text.lower r.id) then SwapSignal.ofEvent? e
    else none
  | .jobShutdown job => if job = id then some .shutdown else none
  | _ => none

/-- The signals that a job has been told. -/
def toldSignals (r : SwapUpdatedRequest) (id : Identity) (os : List Occurrence) : List SwapSignal :=
  os.filterMap (Occurrence.signal? r id)

/-- The sessions that a job has asked to bring themselves up to date. -/
def syncs (id : Identity) (os : List Occurrence) : List Nat :=
  os.filterMap fun o =>
    match o with
    | .sync session job => if job = id then some session else none
    | _ => none

/-- The uses of a completer. -/
def completions (c : Nat) (os : List Occurrence) : List JobOutcome :=
  os.filterMap fun o =>
    match o with
    | .jobCompleted _ c' outcome => if c' = c then some outcome else none
    | _ => none

/-- Whether something is about a job, or about a completer. -/
def Occurrence.regards (id : Identity) : Occurrence → Bool
  | .sync _ job => job == id
  | .notify job _ => job == id
  | .jobEvent job _ => job == id
  | .jobShutdown job => job == id
  | .jobCompleted _ _ _ => true
  | _ => false

section
variable {r : SwapUpdatedRequest} {id : Identity} {c : Nat} {os os' : List Occurrence}
  {o : Occurrence}

@[simp] theorem toldSignals_append :
    toldSignals r id (os ++ os') = toldSignals r id os ++ toldSignals r id os' :=
  List.filterMap_append

@[simp] theorem syncs_append : syncs id (os ++ os') = syncs id os ++ syncs id os' :=
  List.filterMap_append

@[simp] theorem completions_append :
    completions c (os ++ os') = completions c os ++ completions c os' :=
  List.filterMap_append

theorem notices_of_regards (ho : o.regards id = false) : notices id [o] = [] := by
  cases o with
  | notify job n =>
    have hne : job ≠ id := by simpa [Occurrence.regards] using ho
    simp [notices, hne]
  | _ => rfl

theorem toldSignals_of_regards (ho : o.regards id = false) : toldSignals r id [o] = [] := by
  cases o with
  | jobEvent job e =>
    have hne : job ≠ id := by simpa [Occurrence.regards] using ho
    simp [toldSignals, Occurrence.signal?, hne]
  | jobShutdown job =>
    have hne : job ≠ id := by simpa [Occurrence.regards] using ho
    simp [toldSignals, Occurrence.signal?, hne]
  | _ => rfl

theorem syncs_of_regards (ho : o.regards id = false) : syncs id [o] = [] := by
  cases o with
  | sync session job =>
    have hne : job ≠ id := by simpa [Occurrence.regards] using ho
    simp [syncs, hne]
  | _ => rfl

theorem completions_of_regards (ho : o.regards id = false) : completions c [o] = [] := by
  cases o with
  | jobCompleted => cases ho
  | _ => rfl

theorem completions_of_ne {job : Identity} {c' : Nat} {x : JobOutcome} (h : c' ≠ c) :
    completions c [.jobCompleted job c' x] = [] := by
  simp [completions, h]

theorem resolution?_eq (r : SwapUpdatedRequest) (id : Identity) {j : SwapJob}
    (hj : j.digest = Text.lower r.id) (e : Event) :
    j.resolution? e = ((Occurrence.jobEvent id e).signal? r id).map SwapSignal.resolution := by
  rw [SwapJob.resolution?, SwapJob.concerns, hj, SwapSignal.resolution_ofEvent?]
  cases he : e.swapId? with
  | none => simp [Occurrence.signal?, he]
  | some swap =>
    by_cases hd : Digest.sha256 swap = Text.lower r.id
    · simp [Occurrence.signal?, he, hd]
    · simp [Occurrence.signal?, he, hd]

end

/-- The phase of a swap job that has been given a completer, or none yet, and has got signals. -/
def SwapPhase.after (given : Option Nat) (signals : List SwapSignal) : SwapPhase :=
  match given, signals with
  | none, signals => .pending (signals.head?.map SwapSignal.resolution)
  | some c, [] => .waiting c
  | some _, _ :: _ => .done

/-- The job of a request in a phase. -/
def SwapJob.inPhase (r : SwapUpdatedRequest) (phase : SwapPhase) : SwapJob :=
  { SwapJob.ofRequest r with phase }

namespace Service

variable {W : Type} {env : Collaborators W} {s t : Service W} {r : SwapUpdatedRequest}
  {id id' : Identity} {given : Option Nat} {asked : List Nat} {signals told : List SwapSignal}
  {job : SwapJob} {c : Nat}

/-! ## Between any two changes -/

/-- How a swap job stands that has got these signals, of which it was told some, was given a
completer or not, and has asked these sessions for a sync. -/
structure Stands (r : SwapUpdatedRequest) (id : Identity) (given : Option Nat) (asked : List Nat)
    (signals told : List SwapSignal) (s : Service W) : Prop where
  work : s.work? id = some (.swap (.inPhase r (.after given signals)))
  told : toldSignals r id s.record = told
  asked : syncs id s.record = asked
  shown : notices id s.record = (given.bind fun _ =>
    signals.head?.map SwapSignal.notification).toList
  /-- The completer is used as the first signal has it. -/
  completer : ∀ c ∈ given,
    s.completers[c]? = some ⟨id, signals.head?.map SwapSignal.outcome⟩ ∧
      completions c s.record = (signals.head?.map SwapSignal.outcome).toList
  /-- Other jobs have other completers. -/
  others : ∀ id' job c, id' ≠ id → s.work? id' = some (.swap job) → job.phase = .waiting c →
    c < s.completers.length ∧ c ∉ given
  /-- A completer is not used before it is made. -/
  unmade : ∀ c, s.completers.length ≤ c → completions c s.record = []

namespace Stands

/-- What is nothing to jobs, completers and the record changes nothing. -/
theorem quiet (h : Stands r id given asked signals told s) (hworks : t.works = s.works)
    (hcompleters : t.completers = s.completers) (hhistory : t.history = s.history) :
    Stands r id given asked signals told t := by
  have hwork : ∀ id, t.work? id = s.work? id := fun id => by rw [work?, work?, hworks]
  have hrecord : t.record = s.record := by rw [record, record, hhistory]
  constructor
  · rw [hwork]
    exact h.work
  · rw [hrecord]
    exact h.told
  · rw [hrecord]
    exact h.asked
  · rw [hrecord]
    exact h.shown
  · rw [hcompleters, hrecord]
    exact h.completer
  · intro id' job c hne hw
    rw [hwork] at hw
    rw [hcompleters]
    exact h.others id' job c hne hw
  · rw [hcompleters, hrecord]
    exact h.unmade

/-- Something is noted that is no notification of the job and no use of a completer. -/
theorem noted (h : Stands r id given asked signals told s) {o : Occurrence}
    (hshown : notices id [o] = []) (hused : ∀ c, completions c [o] = []) :
    Stands r id given (asked ++ syncs id [o]) signals (told ++ toldSignals r id [o])
    (s.note o) := by
  constructor
  · exact h.work
  · rw [record_note, toldSignals_append, h.told]
  · rw [record_note, syncs_append, h.asked]
  · rw [record_note, notices_append, hshown, List.append_nil]
    exact h.shown
  · intro c hc
    rw [record_note, completions_append, hused, List.append_nil]
    exact h.completer c hc
  · exact h.others
  · intro c hc
    rw [record_note, completions_append, hused, List.append_nil]
    exact h.unmade c hc

/-- What is about other jobs, and about no completer, is no news. -/
theorem note (h : Stands r id given asked signals told s) {o : Occurrence}
    (ho : o.regards id = false) : Stands r id given asked signals told (s.note o) := by
  have hn := h.noted (notices_of_regards ho) fun _ => completions_of_regards ho
  rwa [syncs_of_regards ho, toldSignals_of_regards ho, List.append_nil, List.append_nil] at hn

/-- The job is told of an event, or of the end. -/
theorem tell (h : Stands r id given asked signals told s) {o : Occurrence}
    (ho : o = .jobShutdown id ∨ ∃ e, o = .jobEvent id e) :
    Stands r id given asked signals (told ++ (o.signal? r id).toList) (s.note o) := by
  have htold : toldSignals r id [o] = (o.signal? r id).toList := by
    rw [toldSignals, List.filterMap_cons]
    cases o.signal? r id <;> rfl
  rcases ho with rfl | ⟨e, rfl⟩
  · have hn := h.noted (o := .jobShutdown id) rfl fun _ => rfl
    rwa [htold, show syncs id [.jobShutdown id] = [] from rfl, List.append_nil] at hn
  · have hn := h.noted (o := .jobEvent id e) rfl fun _ => rfl
    rwa [htold, show syncs id [.jobEvent id e] = [] from rfl, List.append_nil] at hn

/-- The body asks a session for a sync. -/
theorem sync (h : Stands r id given asked signals told s) (session : Nat) :
    Stands r id given (asked ++ [session]) signals told (s.note (.sync session id)) := by
  have hn := h.noted (o := .sync session id) rfl fun _ => rfl
  have hasked : syncs id [.sync session id] = [session] := by simp [syncs]
  rwa [hasked, show toldSignals r id [.sync session id] = [] from rfl, List.append_nil] at hn

/-- Another phase of the job, of which nothing is seen yet. -/
theorem rework (h : Stands r id given asked signals told s) (signals' : List SwapSignal)
    (hhead : ∀ c ∈ given, signals'.head? = signals.head?) :
    Stands r id given asked signals' told
      (s.setWork id (.swap (.inPhase r (.after given signals')))) := by
  have hknown : s.work? id ≠ none := by
    rw [h.work]
    exact Option.some_ne_none _
  constructor
  · exact work?_setWork _ hknown
  · exact h.told
  · exact h.asked
  · have hshown : notices id s.record = _ := h.shown
    show notices id s.record = _
    rw [hshown]
    cases given with
    | none => rfl
    | some c =>
      have he : signals'.head? = signals.head? := hhead c rfl
      simp only [Option.bind_some, he]
  · intro c hc
    rw [hhead c hc]
    exact h.completer c hc
  · intro id' job c hne hw
    rw [work?_setWork_of_ne _ hne] at hw
    exact h.others id' job c hne hw
  · exact h.unmade

end Stands

/-- A job that is settled by a signal shows it and uses its completer, and nothing else changes. -/
theorem settle_eq (x : SwapSignal) (hc : s.completers[c]? = some ⟨id, none⟩) :
    (∀ id', (s.settle id c x.resolution).work? id' = s.work? id') ∧
    (s.settle id c x.resolution).completers = s.completers.set c ⟨id, some x.outcome⟩ ∧
    (s.settle id c x.resolution).record =
      s.record ++ [.notify id x.notification] ++ [.jobCompleted id c x.outcome] := by
  have hc' : (s.note (.notify id x.notification)).completers[c]? = some ⟨id, none⟩ := hc
  obtain ⟨wakes, he⟩ := complete_eq hc' x.outcome
  have hsettle : s.settle id c x.resolution =
      { s.note (.notify id x.notification) with
        completers := s.completers.set c ⟨id, some x.outcome⟩, wakes }.note
          (.jobCompleted id c x.outcome) := he
  rw [hsettle]
  refine ⟨fun id' => rfl, rfl, ?_⟩
  rw [record_note]
  show (s.note (.notify id x.notification)).record ++ _ = _
  rw [record_note]

namespace Stands

/-- Somebody else's completer is used. -/
theorem complete (h : Stands r id given asked signals told s) (hc : c ∉ given) (o : JobOutcome) :
    Stands r id given asked signals told (s.complete c o) := by
  obtain he | ⟨owner, wakes, hfound, he⟩ := s.complete_cases c o
  · rw [he]
    exact h
  have hlt : c < s.completers.length := (List.getElem?_eq_some_iff.mp hfound).1
  have hrecord : (s.complete c o).record = s.record ++ [.jobCompleted owner c o] := by
    rw [he]
    exact record_note _
  have hcompleters : (s.complete c o).completers = s.completers.set c ⟨owner, some o⟩ := by
    rw [he]
    rfl
  have hwork : ∀ id', (s.complete c o).work? id' = s.work? id' := by
    rw [he]
    exact fun _ => rfl
  constructor
  · exact (hwork id).trans h.work
  · rw [hrecord, toldSignals_append]
    exact (List.append_nil _).trans h.told
  · rw [hrecord, syncs_append]
    exact (List.append_nil _).trans h.asked
  · rw [hrecord, notices_append]
    exact (List.append_nil _).trans h.shown
  · intro c' hc'
    have hne : c ≠ c' := by
      rintro rfl
      exact hc hc'
    rw [hrecord, completions_append, completions_of_ne hne, List.append_nil, hcompleters,
      List.getElem?_set_ne hne]
    exact h.completer c' hc'
  · intro id' job c' hne hw hphase
    rw [hcompleters, List.length_set]
    exact h.others id' job c' hne ((hwork id').symm.trans hw) hphase
  · intro c' hc'
    rw [hcompleters, List.length_set] at hc'
    rw [hrecord, completions_append, completions_of_ne (by omega), List.append_nil]
    exact h.unmade c' hc'

/-- A job that waited for its first signal shows it and uses its completer. -/
theorem settle (h : Stands r id (some c) asked [] told s) (x : SwapSignal) (rest : List SwapSignal)
    (hown : t.work? id = some (.swap (.inPhase r .done)))
    (hothers : ∀ id', id' ≠ id → t.work? id' = s.work? id')
    (hcompleters : t.completers = s.completers) (hrecord : t.record = s.record) :
    Stands r id (some c) asked (x :: rest) told (t.settle id c x.resolution) := by
  obtain ⟨hfound, hunused⟩ := h.completer c rfl
  have hlt : c < s.completers.length := (List.getElem?_eq_some_iff.mp hfound).1
  rw [← hcompleters] at hfound
  obtain ⟨hwork, hset, hnew⟩ := settle_eq x hfound
  rw [hcompleters] at hset
  rw [hrecord] at hnew
  constructor
  · rw [hwork]
    exact hown
  · rw [hnew, toldSignals_append, toldSignals_append]
    exact (List.append_nil _).trans ((List.append_nil _).trans h.told)
  · rw [hnew, syncs_append, syncs_append]
    exact (List.append_nil _).trans ((List.append_nil _).trans h.asked)
  · have hnone : notices id s.record = [] := h.shown
    rw [hnew, notices_append, notices_append, hnone, notices_notify]
    rfl
  · -- this is the first use of its completer
    rintro c' ⟨⟩
    have hnone : completions c s.record = [] := hunused
    rw [hset, hnew, List.getElem?_set_self hlt, completions_append, completions_append, hnone]
    refine ⟨rfl, ?_⟩
    simp [completions]
  · intro id' job c' hne hw hphase
    rw [hwork, hothers id' hne] at hw
    rw [hset, List.length_set]
    exact h.others id' job c' hne hw hphase
  · intro c' hc'
    rw [hset, List.length_set] at hc'
    rw [hnew, completions_append, completions_append, h.unmade c' hc', completions_of_ne (by omega)]
    rfl

/-- The job gets a signal. -/
theorem resolve (h : Stands r id given asked signals told s) (x : SwapSignal)
    (hw : s.work? id = some (.swap job)) :
    Stands r id given asked (signals ++ [x]) told (s.resolveSwap id job x.resolution) := by
  obtain rfl : job = .inPhase r (.after given signals) := by
    have he := hw.symm.trans h.work
    simpa using he
  cases given with
  | none =>
    cases signals with
    | nil =>
      -- the body has not begun: the resolution is kept
      exact (h.quiet (t := s.say _ _ _) rfl rfl rfl).rework [x] nofun
    | cons y ys => exact h.rework (y :: ys ++ [x]) nofun
  | some c =>
    cases signals with
    | nil =>
      have hknown : s.work? id ≠ none := by
        rw [h.work]
        exact Option.some_ne_none _
      exact h.settle x [] (work?_setWork _ hknown) (fun _ hne => work?_setWork_of_ne _ hne) rfl rfl
    | cons y ys => exact h.rework (y :: ys ++ [x]) fun _ _ => rfl

/-- Another job has other work. -/
theorem reworkOther (h : Stands r id given asked signals told s) (hne : id' ≠ id) (work : JobWork)
    (hwaits : ∀ job c, work = .swap job → job.phase = .waiting c →
      c < s.completers.length ∧ c ∉ given) :
    Stands r id given asked signals told (s.setWork id' work) := by
  constructor
  · rw [work?_setWork_of_ne _ hne.symm]
    exact h.work
  · exact h.told
  · exact h.asked
  · exact h.shown
  · exact h.completer
  · intro other job c hother hw hphase
    by_cases he : other = id'
    · rw [he, work?_setWork_eq] at hw
      obtain ⟨w, -, hwork⟩ := Option.map_eq_some_iff.mp hw
      rw [if_pos rfl] at hwork
      exact hwaits job c hwork hphase
    · rw [work?_setWork_of_ne _ he] at hw
      exact h.others other job c hother hw hphase
  · exact h.unmade

/-- Another job is resolved. -/
theorem resolveOther (h : Stands r id given asked signals told s) (hne : id' ≠ id) (x : Resolution)
    (hw : s.work? id' = some (.swap job)) :
    Stands r id given asked signals told (s.resolveSwap id' job x) := by
  have hwaits := h.others id' job
  unfold resolveSwap
  extract_lets said
  have hsaid : Stands r id given asked signals told said ∧ said.completers = s.completers := by
    simp only [said]
    split
    · exact ⟨h.quiet rfl rfl rfl, rfl⟩
    · exact ⟨h, rfl⟩
  obtain ⟨hsaid, hcompleters⟩ := hsaid
  -- the other job comes to wait on no completer but the one that it waits on
  have hrework : ∀ phase : SwapPhase, (∀ c, phase = .waiting c → job.phase = .waiting c) →
      Stands r id given asked signals told (said.setWork id' (.swap { job with phase })) := by
    intro phase hphase
    refine hsaid.reworkOther hne _ ?_
    rintro job' c ⟨⟩ hc
    rw [hcompleters]
    exact hwaits c hne hw (hphase c hc)
  cases hphase : job.phase with
  | pending early =>
    cases early with
    | none =>
      simp only [SwapJob.resolve, hphase]
      refine hrework _ ?_
      rintro c ⟨⟩
    | some early =>
      simp only [SwapJob.resolve, hphase]
      exact hrework job.phase fun _ hc => hc
  | waiting c =>
    simp only [SwapJob.resolve, hphase]
    have hregards : (Occurrence.notify id' x.notification).regards id = false := by
      simpa [Occurrence.regards] using hne
    have hdone : ∀ c, SwapPhase.done = .waiting c → job.phase = .waiting c := by
      rintro c ⟨⟩
    exact ((hrework .done hdone).note hregards).complete (hwaits c hne hw hphase).2 _
  | done =>
    simp only [SwapJob.resolve, hphase]
    exact hrework job.phase fun _ hc => hc

theorem sayResolution (h : Stands r id given asked signals told s) (id' : Identity) (e : Event) :
    Stands r id given asked signals told (s.sayResolution id' e) := by
  cases e with
  | synced => exact h
  | waitingConfirmation | succeeded | failed => exact h.quiet rfl rfl rfl

/-- The job is shown an event, which may be a signal. -/
theorem showJob_self (h : Stands r id given asked signals told s) (e : Event) :
    Stands r id given asked (signals ++ ((Occurrence.jobEvent id e).signal? r id).toList)
      (told ++ ((Occurrence.jobEvent id e).signal? r id).toList) (s.showJob e id) := by
  have htold := h.tell (o := .jobEvent id e) (.inr ⟨e, rfl⟩)
  have hresolution : SwapJob.resolution? (.inPhase r (.after given signals)) e = _ :=
    resolution?_eq r id rfl e
  have hwork : (s.note (.jobEvent id e)).work? id = _ := h.work
  simp only [Service.showJob, hwork, hresolution]
  cases hx : (Occurrence.jobEvent id e).signal? r id with
  | none =>
    rw [hx] at htold
    simpa using htold
  | some x =>
    rw [hx] at htold
    exact (htold.sayResolution id e).resolve x ((work?_sayResolution id id e).trans hwork)

/-- A job is shown an event. If it is another one, that is no signal. -/
theorem showJob (h : Stands r id given asked signals told s) (e : Event) (id' : Identity) :
    ∃ more, Stands r id given asked (signals ++ more) (told ++ more) (s.showJob e id') := by
  by_cases hid : id' = id
  · subst hid
    exact ⟨_, h.showJob_self e⟩
  · have hregards : (Occurrence.jobEvent id' e).regards id = false := by
      simpa [Occurrence.regards] using hid
    have hn := h.note hregards
    refine ⟨[], ?_⟩
    rw [List.append_nil, List.append_nil]
    obtain he | ⟨job, r, hw, -, he⟩ := s.showJob_cases e id'
    · rw [he]
      exact hn
    · rw [he]
      exact (hn.sayResolution id' e).resolveOther hid r hw

/-- The job is told that the service ends. -/
theorem signalJob (h : Stands r id given asked signals told s) :
    Stands r id given asked (signals ++ [.shutdown]) (told ++ [.shutdown]) (s.signalJob id) := by
  have htold := h.tell (o := .jobShutdown id) (.inl rfl)
  have hsignal : (Occurrence.jobShutdown id).signal? r id = some .shutdown := if_pos rfl
  have hwork : (s.note (.jobShutdown id)).work? id = _ := h.work
  rw [hsignal] at htold
  simp only [Service.signalJob, hwork]
  exact htold.resolve .shutdown hwork

end Stands

/-- Whatever becomes of the events of a session, the job stands with the signals that it
was told of. -/
theorem eventStable_stands : EventStable fun t : Service W =>
    ∃ more, Stands r id given asked (signals ++ more) (told ++ more) t where
  quiet _ _ _ _ := fun ⟨more, h⟩ => ⟨more, h.quiet rfl rfl rfl⟩
  note {_ o} ho := fun ⟨more, h⟩ => ⟨more, h.note (by cases o <;> first | rfl | cases ho)⟩
  showJob e id' := fun ⟨more, h⟩ => by
    obtain ⟨more', h'⟩ := h.showJob e id'
    rw [List.append_assoc, List.append_assoc] at h'
    exact ⟨more ++ more', h'⟩
  settlement _ _ _ := fun ⟨more, h⟩ => ⟨more, h.quiet rfl rfl rfl⟩

/-! ## The body -/

namespace Stands

/-- The job is given a new completer, and waits. -/
theorem wait (h : Stands r id none asked signals told s) :
    Stands r id (some s.completers.length) asked [] told ((s.newCompleter id).1.setWork id
      (.swap (.inPhase r (.waiting s.completers.length)))) := by
  have hknown : (s.newCompleter id).1.work? id ≠ none := by
    show s.work? id ≠ none
    rw [h.work]
    exact Option.some_ne_none _
  constructor
  · exact work?_setWork _ hknown
  · exact h.told
  · exact h.asked
  · exact h.shown
  · rintro c ⟨⟩
    refine ⟨?_, h.unmade _ (Nat.le_refl _)⟩
    show (s.completers ++ [⟨id, none⟩])[s.completers.length]? = _
    exact List.getElem?_concat_length
  · intro id' job c hne hw hphase
    rw [work?_setWork_of_ne _ hne] at hw
    obtain ⟨hlt, -⟩ := h.others id' job c hne hw hphase
    have hlen : ((s.newCompleter id).1).completers.length = s.completers.length + 1 :=
      List.length_append
    refine ⟨?_, fun he => ?_⟩
    · show c < (s.newCompleter id).1.completers.length
      omega
    · cases he
      omega
  · intro c hc
    have hlen : s.completers.length + 1 ≤ c := by
      simpa [setWork, newCompleter] using hc
    exact h.unmade c (by omega)

end Stands

/-- How far a body can have come that found these signals: it waits for its sync, or it
has come back. -/
def Ran (early : List SwapSignal) (synced : Except SdkError Unit) (progress : BodyProgress) :
    Prop :=
  (early = [] ∧ ∃ due, progress = .waits (.syncing ⟨due, synced⟩)) ∨
    progress = .done (if early = [] then synced.mapError .sdk else .ok ())

/-- A body that begins asks for a sync if there has been no signal, and else resolves the job. -/
theorem stands_beginBody (env : Collaborators W) (session : Nat)
    (h : Stands r id none [] signals told s) :
    let begun := (s.newCompleter id).1.beginBody env id s.completers.length session
    (∃ more, Stands r id (some s.completers.length) (if signals = [] then [session] else [])
      (signals ++ more) (told ++ more) begun.1) ∧
    Ran signals (env.sync session s.world).1.answer.result begun.2 := by
  have hwork : (s.newCompleter id).1.work? id = _ := h.work
  simp only [beginBody, hwork]
  cases signals with
  | nil =>
    refine ⟨?_, .inl ⟨rfl, _, rfl⟩⟩
    have hsynced := h.wait.sync session
    rw [← List.append_nil told] at hsynced
    exact eventStable_stands.askSync session ⟨[], hsynced.quiet rfl rfl rfl⟩
  | cons x rest =>
    refine ⟨⟨[], ?_⟩, .inr rfl⟩
    rw [List.append_nil, List.append_nil]
    have hknown : (s.newCompleter id).1.work? id ≠ none := by
      rw [hwork]
      exact Option.some_ne_none _
    refine h.wait.settle x rest (work?_setWork _ hknown) (fun id' hne => ?_) rfl rfl
    rw [work?_setWork_of_ne _ hne, work?_setWork_of_ne _ hne]
    rfl

/-- What a sync that has come back with an error signals. -/
def failureAt (now : Nat) : BodyStage → List SwapSignal
  | .syncing call =>
    match call.result? now with
    | some (.error e) => [.unsynced e]
    | _ => []
  | _ => []

/-- A body whose sync has come back ends, with the error of the sync if there is one. The error is a
signal. -/
theorem stands_resumeBody {early : List SwapSignal} {synced : Except SdkError Unit}
    {stage : BodyStage} {b : Service W × BodyProgress} {session : Nat}
    (h : Stands r id given asked signals told s) (hran : Ran early synced (.waits stage))
    (hb : s.resumeBody env id c session stage = some b) :
    Stands r id given asked (signals ++ failureAt s.now stage) told b.1 ∧ Ran early synced b.2 := by
  obtain ⟨hearly, due, hstage⟩ | hdone := hran
  case inr => cases hdone
  case inl =>
    obtain rfl : stage = .syncing ⟨due, synced⟩ := Progress.waits.inj hstage
    obtain ⟨result, hresult, rfl⟩ := Option.map_eq_some_iff.mp hb
    obtain ⟨-, he⟩ := Option.ite_none_right_eq_some.mp hresult
    obtain rfl : synced = result := Option.some.inj he
    cases synced with
    | ok =>
      refine ⟨?_, .inr ?_⟩
      · simp only [failureAt, hresult, List.append_nil]
        exact h
      · rw [if_pos hearly]
        rfl
    | error e =>
      have hsaid : Stands r id given asked signals told
          (s.say "swap" .warn ("Swap job " ++ id.text ++ " sync failed: " ++ e.message)) :=
        h.quiet rfl rfl rfl
      simp only [failureAt, hresult, afterSync, hsaid.work]
      refine ⟨hsaid.resolve (.unsynced e) hsaid.work, .inr ?_⟩
      rw [if_pos hearly]
      rfl

end Service

end PushWake
