import PushWake.Proofs.FirstSignal

/-!
# The course of a swap job

A swap job is driven from outside: it is shown events, it is told that the service ends, a session
reports events to whoever listens, time passes, and its body begins and goes on. A course is any
sequence of these moves from a job that has just been made. It keeps the list of the signals that
have come, in their order, and every course ends as the first of them has it.
-/

namespace PushWake

/-- The start of a body: the completer it was given, the signals that had come before, what its sync
answers, and how far it has come. -/
structure SwapStart where
  completer : Nat
  early : List SwapSignal
  synced : Except SdkError Unit
  progress : Service.BodyProgress

/-- The service around a swap job, the start of its body, and the signals that have
come, in order. -/
structure SwapCourse (W : Type) where
  service : Service W
  start : Option SwapStart := none
  signals : List SwapSignal := []

/-- What can happen to a swap job. -/
inductive SwapMove where
  /-- The job is shown an event. -/
  | event (e : Event)
  /-- The job is told that the service ends. -/
  | shutdown
  /-- A session reports an event to whoever listens. -/
  | report (session : Nat) (e : Event)
  | wait (t : Nat)
  /-- The body begins, which it does once. -/
  | start
  /-- The body goes on. -/
  | goOn

namespace SwapCourse

open Service

variable {W : Type}

/-- The course goes on with a service in which the job may have been told more. -/
def hear (r : SwapUpdatedRequest) (id : Identity) (c : SwapCourse W) (s : Service W) :
    SwapCourse W :=
  { c with
    service := s
    signals := c.signals ++
      (toldSignals r id s.record).drop (toldSignals r id c.service.record).length }

/-- Makes a move, if it can be made. -/
def move (env : Collaborators W) (r : SwapUpdatedRequest) (id : Identity) (session : Nat)
    (c : SwapCourse W) : SwapMove → Option (SwapCourse W)
  | .event e => some (c.hear r id (c.service.showJob e id))
  | .shutdown => some (c.hear r id (c.service.signalJob id))
  | .report other e => some (c.hear r id (c.service.emit env other e))
  | .wait t => some { c with service := c.service.advanceTo t }
  | .start =>
    match c.start with
    | some _ => none
    | none =>
      let (s, completer) := c.service.newCompleter id
      let (s, progress) := s.beginBody env id completer session
      let synced := (env.sync session c.service.world).1.answer.result
      some { c.hear r id s with start := some ⟨completer, c.signals, synced, progress⟩ }
  | .goOn =>
    match c.start with
    | some ⟨completer, early, synced, .waits stage⟩ =>
      (c.service.resumeBody env id completer session stage).map fun (s, progress) =>
        { service := s
          start := some ⟨completer, early, synced, progress⟩
          signals := (c.hear r id s).signals ++ failureAt c.service.now stage }
    | _ => none

/-- Makes some moves, one after the other. -/
def play (env : Collaborators W) (r : SwapUpdatedRequest) (id : Identity) (session : Nat) :
    List SwapMove → SwapCourse W → Option (SwapCourse W)
  | [], c => some c
  | m :: ms, c => (c.move env r id session m).bind (play env r id session ms)

variable {env : Collaborators W} {r : SwapUpdatedRequest} {id : Identity} {session : Nat}
  {c c' : SwapCourse W}

/-- The sessions that the body has asked for a sync. -/
def asked (session : Nat) (c : SwapCourse W) : List Nat :=
  c.start.elim [] fun st => if st.early = [] then [session] else []

/-- How the job stands in its course. -/
structure Sound (r : SwapUpdatedRequest) (id : Identity) (session : Nat) (c : SwapCourse W) :
    Prop where
  stands : Stands r id (c.start.map SwapStart.completer) (c.asked session) c.signals
    (toldSignals r id c.service.record) c.service
  ran : ∀ st ∈ c.start, Ran st.early st.synced st.progress

/-- What the job has been told meanwhile is what is heard. -/
theorem signals_hear {given : Option Nat} {asked : List Nat} {more : List SwapSignal}
    {s : Service W} (h : Stands r id given asked (c.signals ++ more)
      (toldSignals r id c.service.record ++ more) s) :
    (c.hear r id s).signals = c.signals ++ more := by
  rw [hear, h.told, List.drop_left]

theorem stands_hear {given : Option Nat} {asked : List Nat} {s : Service W}
    (h : ∃ more, Stands r id given asked (c.signals ++ more)
      (toldSignals r id c.service.record ++ more) s) :
    Stands r id given asked (c.hear r id s).signals (toldSignals r id s.record) s := by
  obtain ⟨more, h⟩ := h
  rw [signals_hear h, h.told]
  exact h

/-- **An event that the job is shown adds its signal, if it is one, and nothing else.** -/
theorem signals_event (env : Collaborators W) (h : c.Sound r id session) (e : Event) :
    (c.move env r id session (.event e)).map signals =
      some (c.signals ++ ((Occurrence.jobEvent id e).signal? r id).toList) :=
  congrArg some (signals_hear (h.stands.showJob_self e))

/-- **The end that the job is told of is a signal, wherever the job is in its course.** -/
theorem signals_shutdown (env : Collaborators W) (h : c.Sound r id session) :
    (c.move env r id session .shutdown).map signals = some (c.signals ++ [.shutdown]) :=
  congrArg some (signals_hear h.stands.signalJob)

theorem sound_move (h : c.Sound r id session) {m : SwapMove}
    (hm : c.move env r id session m = some c') :
    c'.Sound r id session := by
  cases m with
  | event e =>
    cases hm
    exact ⟨stands_hear (h.stands.showJob e id), h.ran⟩
  | shutdown =>
    cases hm
    exact ⟨stands_hear ⟨[.shutdown], h.stands.signalJob⟩, h.ran⟩
  | report other e =>
    cases hm
    refine ⟨stands_hear (eventStable_stands.emit other e ⟨[], ?_⟩), h.ran⟩
    rw [List.append_nil, List.append_nil]
    exact h.stands
  | wait t =>
    cases hm
    exact ⟨h.stands.quiet rfl rfl rfl, h.ran⟩
  | start =>
    cases hstart : c.start with
    | some st => simp [move, hstart] at hm
    | none =>
      have hstands := h.stands
      simp only [asked, hstart, Option.map_none, Option.elim_none] at hstands
      obtain ⟨hbegun, hran⟩ := stands_beginBody env session hstands
      simp only [move, hstart, Option.some.injEq] at hm
      subst hm
      refine ⟨stands_hear hbegun, ?_⟩
      rintro st ⟨⟩
      exact hran
  -- there is such a move only for a body that waits
  | goOn =>
    obtain ⟨s, start, signals⟩ := c
    match start, h, hm with
    | some ⟨completer, early, synced, .waits stage⟩, h, hm =>
      obtain ⟨b, hb, rfl⟩ := Option.map_eq_some_iff.mp hm
      obtain ⟨hstands, hran⟩ := stands_resumeBody h.stands (h.ran _ rfl) hb
      have htold := hstands.told
      refine ⟨?_, ?_⟩
      · simp only [hear, htold, List.drop_length, List.append_nil]
        exact hstands
      · rintro st ⟨⟩
        exact hran

theorem sound_play (h : c.Sound r id session) {ms : List SwapMove}
    (hms : play env r id session ms c = some c') : c'.Sound r id session := by
  induction ms generalizing c with
  | nil =>
    cases hms
    exact h
  | cons m ms ih =>
    obtain ⟨next, hnext, hms⟩ := Option.bind_eq_some_iff.mp hms
    exact ih (sound_move h hnext) hms

/-- A body that waits for its sync goes on when the answer has come. -/
theorem goOn_of_waits (env : Collaborators W) (r : SwapUpdatedRequest) (id : Identity)
    (session : Nat) {c : SwapCourse W} {completer : Nat} {early : List SwapSignal}
    {synced : Except SdkError Unit} {due : Nat}
    (hstart : c.start = some ⟨completer, early, synced, .waits (.syncing ⟨due, synced⟩)⟩)
    (hdue : due ≤ c.service.now) : ∃ c' st result, c.move env r id session .goOn = some c' ∧
      c'.start = some st ∧ st.progress = .done result := by
  have hresult : (⟨due, synced⟩ : Pending (Except SdkError Unit)).result? c.service.now =
      some synced := if_pos hdue
  simp only [move, hstart, resumeBody, hresult, Option.map_some]
  cases synced with
  | ok => exact ⟨_, _, _, rfl, rfl, rfl⟩
  | error e =>
    simp only [afterSync]
    split
    · exact ⟨_, _, _, rfl, rfl, rfl⟩
    · exact ⟨_, _, _, rfl, rfl, rfl⟩

/-- A job that has just been made, and of which nothing is known yet. -/
theorem stands_fresh {s : Service W} (hworks : s.works = [(id, .swap (.ofRequest r))])
    (hhistory : s.history = []) : Stands r id none [] [] [] s := by
  have hrecord : s.record = [] := by rw [record, hhistory, List.map_nil]
  constructor
  · simp only [work?, hworks, List.find?_cons, beq_self_eq_true, Option.map_some]
    rfl
  · rw [hrecord]
    rfl
  · rw [hrecord]
    rfl
  · rw [hrecord]
    rfl
  · intro c hc
    cases hc
  · intro id' job c hne hw
    have hnone : s.work? id' = none := by simp [work?, hworks, Ne.symm hne]
    rw [hnone] at hw
    cases hw
  · intro c _
    rw [hrecord]
    rfl

/-- **A swap job resolves once, by its first signal, wherever its body begins.** Take any course of
a job that begins fresh: events that it is shown, directly or by a session that reports them, also
while its sync is under way, signals of the end, and one start of its body, in any order. As long as
the body has not begun, nothing is shown. Once it has, one notification has been shown and the
completer has been used once, both as the first signal has it, or neither if there has been no
signal. The body asks for a sync, once, exactly if no signal came before it began; it waits for
nothing else, and it fails exactly if that sync does. The signals are those of the calls: an event
that the job is shown adds its own, if it is a payment of the swap, and the end of the service
always adds one. -/
theorem first_signal_resolves_once {s : Service W} (hfresh : Stands r id none [] [] [] s)
    {ms : List SwapMove} (hms : play env r id session ms ⟨s, none, []⟩ = some c) :
    (c.start = none → notices id c.service.record = [] ∧ syncs id c.service.record = []) ∧
    (∀ st, c.start = some st →
      notices id c.service.record = (c.signals.head?.map SwapSignal.notification).toList ∧
      completions st.completer c.service.record =
        (c.signals.head?.map SwapSignal.outcome).toList ∧
      syncs id c.service.record = (if st.early = [] then [session] else []) ∧
      (∀ result, st.progress = .done result →
        result = if st.early = [] then st.synced.mapError .sdk else .ok ()) ∧
      ∀ stage, st.progress = .waits stage → st.early = [] ∧
        ∃ due, stage = .syncing ⟨due, st.synced⟩ ∧
          ∃ c' st' result, play env r id session [.wait due, .goOn] c = some c' ∧
            c'.start = some st' ∧ st'.progress = .done result) ∧
    (∀ e, (c.move env r id session (.event e)).map signals =
      some (c.signals ++ ((Occurrence.jobEvent id e).signal? r id).toList)) ∧
    (c.move env r id session .shutdown).map signals = some (c.signals ++ [.shutdown]) := by
  have hbegin : Sound r id session ⟨s, none, []⟩ := by
    refine ⟨?_, nofun⟩
    show Stands r id none [] [] (toldSignals r id s.record) s
    rw [hfresh.told]
    exact hfresh
  have hsound := sound_play hbegin hms
  have hstands := hsound.stands
  have hran := hsound.ran
  refine ⟨fun hstart => ?_, fun st hstart => ?_, signals_event env hsound,
    signals_shutdown env hsound⟩
  · have hshown := hstands.shown
    have hasked := hstands.asked
    rw [hstart] at hshown
    rw [SwapCourse.asked, hstart] at hasked
    exact ⟨hshown, hasked⟩
  · have hshown := hstands.shown
    have hasked := hstands.asked
    have hused := hstands.completer st.completer (by rw [hstart]; rfl)
    rw [hstart] at hshown
    rw [SwapCourse.asked, hstart] at hasked
    refine ⟨hshown, hused.2, hasked, fun result hdone => ?_, fun stage hwaits => ?_⟩
    · obtain ⟨-, due, hwaits⟩ | hresult := hran st hstart
      · rw [hwaits] at hdone
        cases hdone
      · rw [hresult] at hdone
        exact (Progress.done.inj hdone).symm
    · obtain ⟨hearly, due, hwaits'⟩ | hresult := hran st hstart
      · obtain rfl : stage = .syncing ⟨due, st.synced⟩ :=
          Progress.waits.inj (hwaits.symm.trans hwaits')
        -- once the sync is due the body can go on, and that is its last step
        obtain ⟨completer, early, synced, progress⟩ := st
        obtain rfl : progress = .waits (.syncing ⟨due, synced⟩) := hwaits
        obtain ⟨c', st', result, hgo, hc', hst'⟩ := goOn_of_waits env r id session
          (c := { c with service := c.service.advanceTo due }) hstart (Nat.le_max_right _ _)
        refine ⟨hearly, due, rfl, c', st', result, ?_, hc', hst'⟩
        simp only [play, move, Option.bind_some]
        exact congrArg (·.bind some) hgo
      · rw [hresult] at hwaits
        cases hwaits

/-- A service around a swap job, in a world where a sync fails. -/
def troubled : Service Plan :=
  { bare {} false { sync := [.error (.generic "down")] } with
    works := [(⟨7⟩, .swap (.ofRequest ⟨"AB", "x"⟩))] }

/-- The body begins and its sync fails, and then the service ends. -/
def troubledCourse : Option (SwapCourse Plan) :=
  play Plan.collaborators ⟨"AB", "x"⟩ ⟨7⟩ 0 [.start, .goOn, .shutdown, .shutdown]
    ⟨troubled, none, []⟩

/-- The failed sync comes first, and is what counts. -/
theorem failed_sync_resolves_before_end : ∃ c st, troubledCourse = some c ∧ c.start = some st ∧
    notices ⟨7⟩ c.service.record = [⟨"Swap update failed", "Could not sync the wallet"⟩] ∧
    completions st.completer c.service.record = [.failed "SDK call failed: down"] ∧
    syncs ⟨7⟩ c.service.record = [0] := by
  have hcourse : troubledCourse.isSome = true := rfl
  have hstart : (troubledCourse.get hcourse).start = some ⟨0, [], .error (.generic "down"),
      .done (.error (.sdk (.generic "down")))⟩ := rfl
  have hsignals : (troubledCourse.get hcourse).signals =
      [.unsynced (.generic "down"), .shutdown, .shutdown] := rfl
  obtain ⟨-, hstarted, -⟩ :=
    first_signal_resolves_once (stands_fresh rfl rfl) (Option.some_get hcourse).symm
  obtain ⟨hshown, hused, hasked, -⟩ := hstarted _ hstart
  rw [hsignals] at hshown hused
  exact ⟨_, _, (Option.some_get hcourse).symm, hstart, hshown, hused, hasked⟩

end SwapCourse

end PushWake
