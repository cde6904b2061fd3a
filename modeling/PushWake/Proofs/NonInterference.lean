import PushWake.Proofs.Completers
import PushWake.Proofs.PayRequests

/-!
# What others leave alone

While the body of a job waits, others do what they like: time passes, sessions report events,
triggers and reapers come and go, the scheduler ends the service, other bodies go on. They leave
alone what the job has to do, its completer, the settings of its replies and its share of the record
(`Keeps`). That takes no more than that the job owes a reply, so that it is no swap job, and that
nobody else has its completer (`Spares`), which others keep as well.
-/

namespace PushWake

namespace Service

variable {W : Type} {env : Collaborators W} {s s' t u : Service W} {id id' : Identity}
  {c c' session : Nat}

/-- Others may have done what they like, but for what a job has to do, its completer, its share of
the record, and the settings of its replies. -/
structure Keeps (id : Identity) (c : Nat) (s t : Service W) : Prop where
  work : t.work? id = s.work? id
  completer : t.completers[c]? = s.completers[c]?
  lnurl : t.config.lnurl = s.config.lnurl
  share : share id c t.record = share id c s.record

theorem OwesReply.congr (h : t.OwesReply id) (hwork : u.work? id = t.work? id) :
    u.OwesReply id := by
  obtain ⟨work, hw, hno⟩ := h
  exact ⟨work, hwork.trans hw, hno⟩

/-- Others have kept to themselves: the job owes a reply and has its completer, and whoever's
completer it was, it still is. -/
structure Spares (id : Identity) (c : Nat) (s t : Service W) : Prop extends Keeps id c s t where
  owes : t.OwesReply id
  owns : t.Owns id c
  tied : Tied t
  others : ∀ id' c', s.Owns id' c' → t.Owns id' c'

namespace Spares

variable {job : SwapJob}

/-- A swap job is another job. -/
theorem ne_of_swap (h : Spares id c s t) (hw : t.work? id' = some (.swap job)) : id ≠ id' := by
  rintro rfl
  obtain ⟨work, hwork, hno⟩ := h.owes
  exact hno job (Option.some.inj (hwork.symm.trans hw))

/-- Another job has another completer. -/
theorem ne_of_owns (h : Spares id c s t) (hne : id ≠ id') (ho : t.Owns id' c') : c' ≠ c := by
  rintro rfl
  exact hne (h.owns.eq ho)

/-- What is nothing to any job and its completer changes nothing. -/
theorem of_work (h : Spares id c s t) (hwork : ∀ id', u.work? id' = t.work? id')
    (hcompleters : u.completers = t.completers) (hhistory : u.history = t.history)
    (hconfig : u.config = t.config) : Spares id c s u where
  work := (hwork id).trans h.work
  completer := by
    rw [hcompleters]
    exact h.completer
  lnurl := by
    rw [hconfig]
    exact h.lnurl
  share := by
    rw [record, hhistory]
    exact h.share
  owes := h.owes.congr (hwork id)
  owns := by
    rw [Owns, hcompleters]
    exact h.owns
  tied := h.tied.of_work hwork fun id' c' ho => by
    rw [Owns, hcompleters]
    exact ho
  others id' c' ho := by
    rw [Owns, hcompleters]
    exact h.others id' c' ho

theorem quiet (h : Spares id c s t) (hworks : u.works = t.works)
    (hcompleters : u.completers = t.completers) (hhistory : u.history = t.history)
    (hconfig : u.config = t.config) : Spares id c s u :=
  h.of_work (fun id' => by rw [work?, work?, hworks]) hcompleters hhistory hconfig

theorem note (h : Spares id c s t) {o : Occurrence} (ho : o.serves id c = false) :
    Spares id c s (t.note o) where
  work := h.work
  completer := h.completer
  lnurl := h.lnurl
  share := by
    rw [record_note, share_append, share_of_not_serves ho, List.append_nil]
    exact h.share
  owes := h.owes
  owns := h.owns
  tied := h.tied.quiet rfl rfl
  others := h.others

/-- Another completer is used. -/
theorem complete (h : Spares id c s t) (hne : c' ≠ c) (o : JobOutcome) :
    Spares id c s (t.complete c' o) := by
  have hwork : ∀ id', (t.complete c' o).work? id' = t.work? id' := by
    obtain ⟨_, _, _, he⟩ := complete_eq_with (s := t) c' o
    rw [he]
    exact fun _ => rfl
  refine ⟨⟨(hwork id).trans h.work, (complete_of_ne o hne).trans h.completer, ?_, ?_⟩,
    h.owes.congr (hwork id), h.owns.complete o, h.tied.complete c' o,
    fun id' c'' ho => (h.others id' c'' ho).complete o⟩
  · obtain ⟨_, _, _, he⟩ := complete_eq_with (s := t) c' o
    rw [he]
    exact h.lnurl
  · obtain he | ⟨owner, wakes, -, he⟩ := t.complete_cases c' o
    · rw [he]
      exact h.share
    · have hserves : (Occurrence.jobCompleted owner c' o).serves id c = false := by
        simpa [Occurrence.serves] using hne
      rw [he, record_note, share_append, share_of_not_serves hserves, List.append_nil]
      exact h.share

/-- Another completer goes away. -/
theorem dropCompleter (h : Spares id c s t) (hne : c' ≠ c) :
    Spares id c s (t.dropCompleter c') := by
  unfold Service.dropCompleter
  split
  · exact complete (t := t.say _ _ _) (h.quiet rfl rfl rfl rfl) hne _
  · exact h

/-- A swap job comes to a phase in which it does not wait, or waits with its own completer. -/
theorem rework (h : Spares id c s t) (hw : t.work? id' = some (.swap job)) {phase : SwapPhase}
    (hown : ∀ c', phase = .waiting c' → t.Owns id' c') :
    Spares id c s (t.setWork id' (.swap { job with phase })) where
  work := (work?_setWork_of_ne _ (h.ne_of_swap hw)).trans h.work
  completer := h.completer
  lnurl := h.lnurl
  share := h.share
  owes := h.owes.congr (work?_setWork_of_ne _ (h.ne_of_swap hw))
  owns := h.owns
  tied := h.tied.rework hown
  others := h.others

/-- A swap job is resolved, and uses its own completer. -/
theorem settle (h : Spares id c s t) (hw : t.work? id' = some (.swap job)) (ho : t.Owns id' c')
    (r : Resolution) :
    Spares id c s ((t.setWork id' (.swap { job with phase := .done })).settle id' c' r) := by
  have hne := h.ne_of_swap hw
  have hdone : Spares id c s (t.setWork id' (.swap { job with phase := .done })) :=
    h.rework hw nofun
  have hnotice : (Occurrence.notify id' r.notification).serves id c = false := by
    simpa [Occurrence.serves] using hne.symm
  exact (hdone.note hnotice).complete (h.ne_of_owns hne ho) r.outcome

theorem resolutions (r : Resolution) : ResolutionStable r fun t : Service W => Spares id c s t where
  log _ h := h.quiet rfl rfl rfl rfl
  same hw h := h.of_work (work?_setWork_same hw) rfl rfl rfl
  keep hw _ h := h.rework hw nofun
  settle hw hphase h := h.settle hw (h.tied.held _ _ _ hw hphase) r

theorem showJob (h : Spares id c s t) (e : Event) (id' : Identity) :
    Spares id c s (t.showJob e id') := by
  have hnoted := h.note (o := .jobEvent id' e) rfl
  obtain he | ⟨job, r, hw, -, he⟩ := t.showJob_cases e id'
  · rw [he]
    exact hnoted
  · rw [he]
    refine (resolutions r).resolveSwap hw ?_
    exact hnoted.of_work (fun id => work?_sayResolution id id' e) (by cases e <;> rfl)
      (by cases e <;> rfl) (by cases e <;> rfl)

theorem signalJob (h : Spares id c s t) (id' : Identity) : Spares id c s (t.signalJob id') :=
  (resolutions .cancelled).signalJob (h.note rfl)

/-- Events reach whom they reach. -/
theorem events : EventStable fun t : Service W => Spares id c s t where
  quiet _ _ _ _ h := h.quiet rfl rfl rfl rfl
  note {_ o} ho h := h.note (by cases o <;> first | rfl | cases ho)
  showJob e id' h := h.showJob e id'
  settlement _ _ _ h := h.quiet rfl rfl rfl rfl

/-! ### Other bodies -/

/-- The body of another job goes on. -/
theorem bodies (env : Collaborators W) (hne : id ≠ id') (ho : s.Owns id' c') :
    BodyStable env id' c' fun t : Service W => Spares id c s t where
  log _ h := h.quiet rfl rfl rfl rfl
  ask _ h := h.quiet rfl rfl rfl rfl
  note {_ o} hasked h := by
    refine h.note ?_
    cases o with
    | receiveLimits session job | receivePayment session job | reply job =>
      obtain rfl : job = id' := of_decide_eq_true hasked
      simpa [Occurrence.serves] using hne.symm
    | _ => cases hasked
  use o h := h.complete (h.ne_of_owns hne (h.others id' c' ho)) o
  unsynced e hw h := (resolutions _).resolveSwap hw h
  tell _ _ h := h.note (by simpa [Occurrence.serves] using hne.symm)

theorem beginSwap (h : Spares id c s t) (hne : id ≠ id') (ho : s.Owns id' c') (session : Nat)
    (hw : t.work? id' = some (.swap job)) :
    Spares id c s (t.beginSwap env id' c' session job).1 := by
  unfold Service.beginSwap
  extract_lets said
  have hsaid : Spares id c s said := h.quiet rfl rfl rfl rfl
  cases hphase : job.phase with
  | pending early =>
    cases early with
    | none =>
      simp only [SwapJob.start, hphase]
      -- the body leaves its completer with the job, which is another one
      have hwaits : Spares id c s (said.setWork id' (.swap { job with phase := .waiting c' })) := by
        refine hsaid.rework hw ?_
        rintro _ ⟨⟩
        exact h.others id' c' ho
      exact events.askSync session (hwaits.note (o := .sync session id') rfl)
    | some early =>
      simp only [SwapJob.start, hphase]
      exact hsaid.settle hw (h.others id' c' ho) early
  | waiting | done =>
    simp only [SwapJob.start, hphase]
    exact (bodies env hne ho).dropCompleter (hsaid.quiet (u := said.say _ _ _) rfl rfl rfl rfl)

theorem resumeBody (h : Spares id c s t) (hne : id ≠ id') (ho : s.Owns id' c') {stage : BodyStage}
    {r : Service W × BodyProgress} (hr : t.resumeBody env id' c' session stage = some r) :
    Spares id c s r.1 :=
  (bodies env hne ho).resumeBody
    (fun _ => (bodies env hne ho).beginBody (fun _ hw => h.beginSwap hne ho session hw) h) hr h

/-! ### Everybody else -/

/-- A job that is prepared has a completer of its own. -/
theorem prepared (h : Spares id c s t) (trigger : Trigger) :
    Spares id c s (t.prepared (.ofTrigger trigger)) := by
  obtain ⟨work, hw, -⟩ := h.owes
  have hwork : (t.prepared (.ofTrigger trigger)).work? id = t.work? id :=
    (work?_prepared hw).trans hw.symm
  have hcompleter : (t.prepared (.ofTrigger trigger)).completers[c]? = t.completers[c]? :=
    List.getElem?_append_left h.owns.lt
  exact ⟨⟨hwork.trans h.work, hcompleter.trans h.completer, h.lnurl, h.share⟩, h.owes.congr hwork,
    h.owns.prepared _, h.tied.prepared trigger, fun id' c' ho => (h.others id' c' ho).prepared _⟩

theorem sessions : SessionStable fun t : Service W => Spares id c s t where
  quiet _ _ _ _ _ _ _ h := h.quiet rfl rfl rfl rfl
  draw h := h.quiet rfl rfl rfl rfl
  hub _ _ h := h.quiet rfl rfl rfl rfl
  note {_ o} ho h := h.note (by cases o <;> first | rfl | cases ho)

theorem desk : DeskStable fun t : Service W => Spares id c s t where
  desk _ _ h := h.quiet rfl rfl rfl rfl
  note {_ o} ho h := h.note (by cases o <;> first | rfl | cases ho)
  start h := (h.note (o := .teardownStarted .emptyDelay) rfl).quiet rfl rfl rfl rfl

end Spares

end Service

end PushWake
