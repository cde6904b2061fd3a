import PushWake.Proofs.AsideFromEnd

/-!
# The signal of the end

Whoever ends a service closes the set first and tells its members. The record shows who was told,
and why the service began to end and was said to be down. `Signals` is what there is between a
service and the same service with some jobs told: each of them has been told in turn, and beyond
that they have only done what jobs do.
-/

namespace PushWake

/-! ## What the record says -/

/-- The jobs that were told that the service ends, in their order. -/
def signalled (os : List Occurrence) : List Identity :=
  os.filterMap fun o =>
    match o with
    | .jobShutdown id => some id
    | _ => none

/-- Why the service began to end. -/
def reasonsBegun (os : List Occurrence) : List ShutdownReason :=
  os.filterMap fun o =>
    match o with
    | .teardownStarted reason => some reason
    | _ => none

/-- Why the host was told that the service is down. -/
def reasonsTold (os : List Occurrence) : List ShutdownReason :=
  os.filterMap fun o =>
    match o with
    | .hostShutdown reason => some reason
    | _ => none

section
variable (os os' : List Occurrence)

@[simp] theorem signalled_append : signalled (os ++ os') = signalled os ++ signalled os' :=
  List.filterMap_append

@[simp] theorem reasonsBegun_append :
    reasonsBegun (os ++ os') = reasonsBegun os ++ reasonsBegun os' :=
  List.filterMap_append

@[simp] theorem reasonsTold_append : reasonsTold (os ++ os') = reasonsTold os ++ reasonsTold os' :=
  List.filterMap_append

end

/-- Whoever was told is in the list, which is in the order of the record. -/
theorem mem_signalled {os : List Occurrence} {id : Identity} :
    id ∈ signalled os ↔ .jobShutdown id ∈ os :=
  mem_view fun o _ => by cases o <;> simp

theorem mem_reasonsBegun {os : List Occurrence} {reason : ShutdownReason} :
    reason ∈ reasonsBegun os ↔ .teardownStarted reason ∈ os :=
  mem_view fun o _ => by cases o <;> simp

theorem mem_reasonsTold {os : List Occurrence} {reason : ShutdownReason} :
    reason ∈ reasonsTold os ↔ .hostShutdown reason ∈ os :=
  mem_view fun o _ => by cases o <;> simp

/-- Whether something tells a job, or says for all, that the service ends. -/
def Occurrence.isAlarm : Occurrence → Bool
  | .jobShutdown _ => true
  | .teardownStarted _ => true
  | _ => false

/-- Where nothing alarming has happened nobody was told. -/
theorem signalled_eq_nil {os : List Occurrence} (h : ∀ o ∈ os, o.isAlarm = false) :
    signalled os = [] := by
  rw [List.eq_nil_iff_forall_not_mem]
  intro id hid
  cases h _ (mem_signalled.mp hid)

theorem reasonsBegun_eq_nil {os : List Occurrence} (h : ∀ o ∈ os, o.isAlarm = false) :
    reasonsBegun os = [] := by
  rw [List.eq_nil_iff_forall_not_mem]
  intro reason hreason
  cases h _ (mem_reasonsBegun.mp hreason)

/-- Whether something may happen while the members are told: jobs work, and completers are used. -/
def Occurrence.isReaction : Occurrence → Bool
  | .jobCompleted _ _ _ => true
  | o => o.isWork

namespace Service

variable {W : Type} {s t u : Service W}

/-! ## The signal -/

/-- Some jobs have been told, and have made of it what they do. -/
structure Signals (s : Service W) (ids : List Identity) (t : Service W) : Prop where
  ending : t.ending = s.ending
  terminated : t.terminated = s.terminated
  jobs : t.jobs = s.jobs
  scheduler : t.scheduler = s.scheduler
  config : t.config = s.config
  now : t.now = s.now
  inboxOpen : t.inboxOpen = s.inboxOpen
  commands : t.commands = s.commands
  history : ∃ os, t.history = s.history ++ os ∧ signalled (os.map Prod.snd) = ids ∧
    ∀ o ∈ os, o.2.isReaction = true

namespace Signals

variable {ids : List Identity}

theorem refl : Signals s [] s :=
  ⟨rfl, rfl, rfl, rfl, rfl, rfl, rfl, rfl, [], by simp, rfl, nofun⟩

/-- What is left of a service but its end, its jobs and its deadlines changes nothing. -/
theorem congr (h : Signals s ids t) (hb : u.bearings = t.bearings) (hjobs : u.jobs = t.jobs) :
    Signals s ids u := by
  simp only [bearings, Prod.mk.injEq] at hb
  obtain ⟨hending, hterminated, -, -, hscheduler, hconfig, hnow, hinbox, hcommands, hhistory⟩ := hb
  exact ⟨hending.trans h.ending, hterminated.trans h.terminated, hjobs.trans h.jobs,
    hscheduler.trans h.scheduler, hconfig.trans h.config, hnow.trans h.now,
    hinbox.trans h.inboxOpen, hcommands.trans h.commands, hhistory ▸ h.history⟩

theorem said {tag : String} {level : LogLevel} {message : String} (h : Signals s ids t) :
    Signals s ids (t.say tag level message) :=
  h.congr rfl rfl

/-- What a job does when it is told adds nobody but itself to those who were told. -/
theorem note {o : Occurrence} (h : Signals s ids t) (ho : o.isReaction = true) :
    Signals s (ids ++ signalled [o]) (t.note o) := by
  obtain ⟨os, hos, hids, hall⟩ := h.history
  refine ⟨h.ending, h.terminated, h.jobs, h.scheduler, h.config, h.now, h.inboxOpen, h.commands,
    os ++ [(t.now, o)], ?_, ?_, ?_⟩
  · rw [← List.append_assoc, ← hos]
    rfl
  · simp [hids]
  · intro x hx
    rcases List.mem_append.mp hx with hx | hx
    · exact hall x hx
    · rw [List.mem_singleton.mp hx]
      exact ho

/-- What is no signal tells nobody. -/
theorem noted {o : Occurrence} (h : Signals s ids t) (ho : o.isReaction = true)
    (hno : ∀ id, o ≠ .jobShutdown id) : Signals s ids (t.note o) := by
  have hnone : signalled [o] = [] := by
    rw [List.eq_nil_iff_forall_not_mem]
    intro id hid
    exact hno id (List.mem_singleton.mp (mem_signalled.mp hid)).symm
  have hn := h.note ho
  rwa [hnone, List.append_nil] at hn

end Signals

/-- A job that is told may be resolved, use its completer and show something; it does not
begin the end. -/
theorem workStable_signals {ids : List Identity} : WorkStable fun t => Signals s ids t where
  quiet _ _ _ _ h := h.congr rfl rfl
  use _ _ h := Signals.noted (h.congr rfl rfl) rfl nofun
  note {_ o} ho hno h := h.noted (by cases o <;> first | rfl | cases ho)
    (by rintro id rfl; cases hno)
  settlement _ _ _ h := h.congr rfl rfl
  resolve r _ h := by
    unfold resolved
    split
    · exact h.congr rfl rfl
    · exact Signals.noted (h.congr rfl rfl) rfl nofun
  start c session _ h := by
    unfold started
    split
    · exact Signals.noted (h.congr rfl rfl) rfl nofun
    · exact Signals.noted (h.congr rfl rfl) rfl nofun
    · exact h
  fail _ _ h := h.noted rfl nofun

/-- Members are told one after the other, each once. -/
theorem signals_signalAll {done : List Identity} (h : Signals s done t) (ids : List Identity) :
    Signals s (done ++ ids) (ids.foldl signalJob t) := by
  induction ids generalizing t done with
  | nil => simpa using h
  | cons id ids ih =>
    have htold : Signals s (done ++ [id]) (t.note (.jobShutdown id)) :=
      h.note (o := .jobShutdown id) rfl
    have hall := ih (workStable_signals.signalJob htold)
    rwa [List.append_assoc, List.singleton_append] at hall

/-- A service whose set is closed. -/
def shut (s : Service W) : Service W := { s with jobs := { s.jobs with closed := true } }

/-- Whoever closes the set tells each of its members. -/
theorem signals_signalJobs (hopen : s.jobs.closed = false) :
    Signals s.shut s.jobs.ids s.signalJobs.1 := by
  have hclose : s.jobs.close = ⟨{ s.jobs with closed := true }, true, none⟩ := by
    simp [JobSet.close, hopen]
  simp only [signalJobs, hclose, if_true, change]
  split
  · exact signals_signalAll .refl _
  · exact signals_signalAll (Signals.said .refl) _

end Service

end PushWake
