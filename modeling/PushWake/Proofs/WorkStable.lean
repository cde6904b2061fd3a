import PushWake.Service.Step

/-!
# What the work of jobs leaves alone

Bodies, settlements and the signal of the end work through many functions, and what most invariants
need of them is only what they do not touch. A property is `WorkStable` if the few changes that work
is made of keep it: collaborators answer and log, a swap job is begun or resolved, a completer is
used for the first time, something is noted that only work notes, and a settlement begins. Each
function then keeps every such property, by one lemma. The signal of the end is kept apart: a
property may depend on who has been signalled. Most properties see nothing of what the jobs have to
do and of what is shown to the user; those are `WorkBlind`, and have less to show.

Which functions events go through, and which a body, is said once for all properties: `ShowStable`
is kept by whatever shows an event, and `BodyStable` by the body of one job once it has begun.
-/

namespace PushWake

/-- Whether something happens only while jobs work. -/
def Occurrence.isWork : Occurrence → Bool
  | .sync _ _ => true
  | .receiveLimits _ _ => true
  | .receivePayment _ _ _ _ => true
  | .notify _ _ => true
  | .reply _ _ _ => true
  | .pluginEvent _ _ => true
  | .listenerEvent _ _ => true
  | .jobEvent _ _ => true
  | .jobShutdown _ => true
  | _ => false

/-- Whether something shows how far a job has come: it began to wait for a swap, its user was told,
or it was told that the service ends. -/
def Occurrence.isMilestone : Occurrence → Bool
  | .sync _ _ => true
  | .notify _ _ => true
  | .jobShutdown _ => true
  | _ => false

/-- Whether something only says that somebody other than a job saw an event. -/
def Occurrence.isEcho : Occurrence → Bool
  | .pluginEvent _ _ => true
  | .listenerEvent _ _ => true
  | _ => false

/-- Whether something is what the body of a job asks for a payer. -/
def Occurrence.isErrandOf (id : Identity) : Occurrence → Bool
  | .receiveLimits _ job => decide (job = id)
  | .receivePayment _ job _ _ => decide (job = id)
  | .reply job _ _ => decide (job = id)
  | _ => false

/-- What others hear is noted by work, and is nobody's milestone. -/
theorem Occurrence.isWork_of_isEcho {o : Occurrence} (h : o.isEcho = true) :
    o.isWork = true ∧ o.isMilestone = false := by
  cases o with
  | pluginEvent | listenerEvent => exact ⟨rfl, rfl⟩
  | _ => cases h

theorem Occurrence.isWork_of_isErrandOf {id : Identity} {o : Occurrence}
    (h : o.isErrandOf id = true) :
    o.isWork = true ∧ o.isMilestone = false := by
  cases o with
  | receiveLimits | receivePayment | reply => exact ⟨rfl, rfl⟩
  | _ => cases h

/-- What a call of a collaborator may make of its state. -/
inductive Collaborators.Asked {W : Type} (env : Collaborators W) (w : W) : W → Prop where
  | loadCredentials : Asked env w (env.loadCredentials w).2
  | openSession (config : ConnectionConfig) (credentials : Credentials) :
      Asked env w (env.openSession config credentials w).2
  | addListener (session : Nat) : Asked env w (env.addListener session w).2
  | closeSession (session : Nat) : Asked env w (env.closeSession session w).2
  | sync (session : Nat) : Asked env w (env.sync session w).2
  | receiveLimits (session : Nat) : Asked env w (env.receiveLimits session w).2
  | receivePayment (session : Nat) (sat : UInt64) (description : String) :
      Asked env w (env.receivePayment session sat description w).2
  | reply (url : String) (body : Json) : Asked env w (env.reply url body w).2
  | createPlugin (connection : Connection) (config : NwcConfig) :
      Asked env w (env.createPlugin connection config w).2
  | stopPlugin (plugin : Nat) : Asked env w (env.stopPlugin plugin w).2

namespace Service

variable {W : Type} {env : Collaborators W} {s : Service W} {P : Service W → Prop}

/-! ## Events -/

/-- A property that is kept whoever is shown an event, as long as the jobs keep it that see one. -/
structure ShowStable (P : Service W → Prop) : Prop where
  /-- What nobody else reads. -/
  quiet : ∀ {s : Service W} (log : List (Nat × LogLine)) (wakes : List Nat) (dispatched : Nat),
    P s → P { s with log, wakes, dispatched }
  note : ∀ {s : Service W} {o : Occurrence}, o.isEcho = true → P s → P (s.note o)
  showJob : ∀ {s : Service W} (e : Event) (id : Identity), P s → P (s.showJob e id)

namespace ShowStable

variable (hP : ShowStable P)
include hP

theorem quote (lines : List LogLine) (h : P s) : P (s.quote lines) :=
  hP.quiet _ _ _ h

/-- Jobs are shown an event one after the other, in the order of the set. -/
theorem showAll (e : Event) (ids : List Identity) (h : P s) :
    P (ids.foldl (Service.showJob e) s) := by
  induction ids generalizing s with
  | nil => exact h
  | cons id ids ih => exact ih (hP.showJob e id h)

theorem fanOut (e : Event) (h : P s) : P (s.fanOut e) :=
  hP.showAll e _ (hP.quiet (s := s) _ _ _ h)

theorem showTarget (e : Event) (target : ListenerTarget) (h : P s) :
    P (s.showTarget env e target) := by
  cases target with
  | jobs => exact hP.fanOut e h
  | plugin p => exact hP.note rfl (hP.quote _ h)
  | host name => exact hP.note rfl h

/-- A session tells its listeners, which are fixed before the first of them is told. -/
theorem emit (session : Nat) (e : Event) (h : P s) : P (s.emit env session e) := by
  unfold Service.emit
  generalize s.listenersOf session = listeners
  -- the list was taken before, so the induction is on it and not on the service
  induction listeners generalizing s with
  | nil => exact h
  | cons l listeners ih => exact ih (hP.showTarget e l.target h)

theorem emitAll (session : Nat) (events : List Event) (h : P s) :
    P (events.foldl (Service.emit env session) s) := by
  induction events generalizing s with
  | nil => exact h
  | cons e events ih => exact ih (hP.emit session e h)

/-- A settlement that is due shows its events in order. -/
theorem settleLater (session : Nat) (steps : List (LogLine × Event)) (h : P s) :
    P (settleLater env session s steps) := by
  induction steps generalizing s with
  | nil => exact h
  | cons step steps ih => exact ih (hP.emit session step.2 (hP.quote _ h))

section
variable (hsettlement : ∀ {s : Service W} (session due : Nat) (steps : List (LogLine × Event)),
  P s → P (s.begin (.settlement session due steps)))
include hsettlement

theorem spawnSettlements (session : Nat) (later : List Settlement) (h : P s) :
    P (later.foldl (fun s (l : Settlement) =>
      s.spawn (.settlement session (s.now + l.delay) l.steps)) s) := by
  induction later generalizing s with
  | nil => exact h
  | cons l later ih =>
    exact ih (hP.quiet (s := s.begin _) _ _ _ (hsettlement _ _ _ h))

/-- Events that come with a sync are shown at once, and settlements begin. -/
theorem askSync (session : Nat) (h : P { s with world := (env.sync session s.world).2 }) :
    P (s.askSync env session).1 :=
  hP.spawnSettlements hsettlement _ _ (hP.emitAll session _ (hP.quote _ h))

end

end ShowStable

/-- A property that is kept whatever becomes of the events of a session, as long as the jobs keep it
that see one. -/
structure EventStable (P : Service W → Prop) : Prop where
  /-- What nobody else reads. -/
  quiet : ∀ {s : Service W} (world : W) (log : List (Nat × LogLine)) (wakes : List Nat)
    (dispatched : Nat), P s → P { s with world, log, wakes, dispatched }
  note : ∀ {s : Service W} {o : Occurrence}, o.isEcho = true → P s → P (s.note o)
  showJob : ∀ {s : Service W} (e : Event) (id : Identity), P s → P (s.showJob e id)
  settlement : ∀ {s : Service W} (session due : Nat) (steps : List (LogLine × Event)),
    P s → P (s.begin (.settlement session due steps))

namespace EventStable

variable (hP : EventStable P)
include hP

/-- Whoever keeps a property whatever becomes of events keeps it while they are shown. -/
theorem shows : ShowStable P where
  quiet _ _ _ h := hP.quiet _ _ _ _ h
  note ho h := hP.note ho h
  showJob e id h := hP.showJob e id h

theorem emit (session : Nat) (e : Event) (h : P s) : P (s.emit env session e) :=
  hP.shows.emit session e h

theorem settleLater (session : Nat) (steps : List (LogLine × Event)) (h : P s) :
    P (settleLater env session s steps) :=
  hP.shows.settleLater session steps h

theorem askSync (session : Nat) (h : P s) : P (s.askSync env session).1 :=
  hP.shows.askSync hP.settlement session (hP.quiet (s := s) _ _ _ _ h)

end EventStable

/-! ## Bodies -/

/-- Whether a job waits for a swap. -/
def AwaitsSwap (s : Service W) (id : Identity) : Prop := ∃ job, s.work? id = some (.swap job)

/-- Whether a job owes somebody a reply. -/
def OwesReply (s : Service W) (id : Identity) : Prop :=
  ∃ work, s.work? id = some work ∧ ∀ job, work ≠ .swap job

/-- A property that the body of a job keeps once it has begun: what it asks for, what it hears, and
how it uses the completer that it was given. -/
structure BodyStable (env : Collaborators W) (id : Identity) (c : Nat) (P : Service W → Prop) :
    Prop where
  log : ∀ {s : Service W} (log : List (Nat × LogLine)), P s → P { s with log }
  ask : ∀ {s : Service W} {world : W}, env.Asked s.world world → P s → P { s with world }
  note : ∀ {s : Service W} {o : Occurrence}, o.isErrandOf id = true → P s → P (s.note o)
  use : ∀ {s : Service W} (o : JobOutcome), P s → P (s.complete c o)
  /-- The sync of a swap job has failed. -/
  unsynced : ∀ {s : Service W} {job : SwapJob} (e : SdkError), s.work? id = some (.swap job) → P s →
    P (s.resolveSwap id job (.unsynced e))
  /-- A job that could not reply has failed. -/
  tell : ∀ {s : Service W} (n : Notification), s.OwesReply id → P s → P (s.note (.notify id n))

namespace BodyStable

variable {id : Identity} {c session : Nat} (hP : BodyStable env id c P)
include hP

theorem say (tag : String) (level : LogLevel) (message : String) (h : P s) :
    P (s.say tag level message) :=
  hP.log _ h

theorem call {α : Type} {reply : Answer α × W} (hr : env.Asked s.world reply.2) (h : P s) :
    P (s.ask reply).1 :=
  hP.log (s := { s with world := reply.2 }) _ (hP.ask hr h)

theorem dropCompleter (h : P s) : P (s.dropCompleter c) := by
  unfold Service.dropCompleter
  split
  · exact hP.use _ (hP.say _ _ _ h)
  · exact h

theorem beginLimits (session : Nat) (h : P s) : P (s.beginLimits env id session).1 :=
  hP.call (.receiveLimits session) (hP.note (decide_eq_true rfl) h)

theorem beginInvoice (session : Nat) (sat : UInt64) (h : P s) :
    P (s.beginInvoice env id session sat).1 :=
  hP.call (.receivePayment session sat _) (hP.note (decide_eq_true rfl) h)

theorem beginReply (url : String) (body : Json) (h : P s) : P (s.beginReply env id url body).1 :=
  hP.call (.reply url body) (hP.note (decide_eq_true rfl) h)

theorem beginApology (url : String) (error : JobError) (h : P s) :
    P (s.beginApology env id url error).1 :=
  hP.call (.reply url _) (hP.note (decide_eq_true rfl) h)

theorem endReplied (name : String) (h : P s) : P (s.endReplied id c name).1 :=
  hP.use _ (hP.say _ _ _ h)

theorem endFailed (title : String) (error : JobError) (hw : s.OwesReply id) (h : P s) :
    P (s.endFailed id c title error).1 :=
  hP.use _ (hP.tell _ hw h)

/-- A swap job goes on waiting after a sync, unless the sync has failed. -/
theorem afterSync (result : Except SdkError Unit) (h : P s) : P (s.afterSync id result).1 := by
  cases result with
  | ok => exact h
  | error e =>
    simp only [Service.afterSync]
    split
    · rename_i hw
      exact hP.unsynced e hw (hP.say _ _ _ h)
    · exact hP.say _ _ _ h

/-- What is asked for next depends on the limits and the work: an invoice, a reply or an apology. -/
theorem afterLimits (session : Nat) (work : JobWork) (limits : Except SdkError ReceiveLimits)
    (h : P s) : P (s.afterLimits env id session work limits).1 := by
  unfold Service.afterLimits
  split
  · exact hP.beginReply _ _ h
  · exact hP.beginApology _ _ h
  · split
    · exact hP.beginInvoice _ _ h
    · exact hP.beginApology _ _ h
  · exact hP.beginApology _ _ h
  · exact h

theorem afterInvoice (work : JobWork) (invoice : Except SdkError Invoice) (h : P s) :
    P (s.afterInvoice env id work invoice).1 := by
  unfold Service.afterInvoice
  split
  · exact hP.beginReply _ _ h
  · exact hP.beginApology _ _ h
  · exact h
  · exact h

/-- A body that has replied ends, and so does one that could not; only the second tells the user. -/
theorem afterReply {work : JobWork} (result : Except String Unit) (hw : s.work? id = some work)
    (h : P s) : P (s.afterReply id c work result).1 := by
  cases work with
  | swap job => exact h
  | payInfo | payInvoice =>
    have howes : s.OwesReply id := ⟨_, hw, nofun⟩
    cases result with
    | ok => exact hP.endReplied _ h
    | error => exact hP.endFailed _ _ howes h

/-- After an apology the job has failed, whether the payer got it or not. -/
theorem afterApology {work : JobWork} (error : JobError) (result : Except String Unit)
    (hw : s.work? id = some work) (h : P s) : P (s.afterApology id c error work result).1 := by
  cases work with
  | swap job => exact h
  | payInfo | payInvoice =>
    have howes : s.OwesReply id := ⟨_, hw, nofun⟩
    cases result with
    | ok => exact hP.endFailed _ _ howes h
    | error => exact hP.endFailed _ _ howes (hP.say _ _ _ h)

/-- How a swap job begins is left open. -/
theorem beginBody (hswap : ∀ job, s.work? id = some (.swap job) →
    P (s.beginSwap env id c session job).1) (h : P s) : P (s.beginBody env id c session).1 := by
  unfold Service.beginBody
  split
  · rename_i job hw
    exact hswap job hw
  · exact hP.beginLimits _ h
  · exact hP.beginLimits _ h
  · exact hP.dropCompleter h

/-- **A body that has begun goes on.** -/
theorem resumeBody {stage : BodyStage} {r : Service W × BodyProgress}
    (hbegin : stage = .fresh → P (s.beginBody env id c session).1)
    (hr : s.resumeBody env id c session stage = some r) (h : P s) : P r.1 := by
  cases stage with
  | fresh =>
    cases hr
    exact hbegin rfl
  | syncing call =>
    obtain ⟨result, -, rfl⟩ := Option.map_eq_some_iff.mp hr
    exact hP.afterSync _ h
  | askingLimits call =>
    obtain ⟨limits, -, hr⟩ := Option.bind_eq_some_iff.mp hr
    obtain ⟨work, -, hr⟩ := Option.bind_eq_some_iff.mp hr
    cases hr
    exact hP.afterLimits _ _ _ h
  | invoicing call =>
    obtain ⟨invoice, -, hr⟩ := Option.bind_eq_some_iff.mp hr
    obtain ⟨work, -, hr⟩ := Option.bind_eq_some_iff.mp hr
    cases hr
    exact hP.afterInvoice _ _ h
  | replying call =>
    obtain ⟨result, -, hr⟩ := Option.bind_eq_some_iff.mp hr
    obtain ⟨work, hw, hr⟩ := Option.bind_eq_some_iff.mp hr
    cases hr
    exact hP.afterReply _ hw h
  | apologizing error call =>
    obtain ⟨result, -, hr⟩ := Option.bind_eq_some_iff.mp hr
    obtain ⟨work, hw, hr⟩ := Option.bind_eq_some_iff.mp hr
    cases hr
    exact hP.afterApology _ _ hw h

end BodyStable

/-! ## Swaps -/

/-- A service with a swap job that has taken a resolution. A job that waits shows it. -/
def resolved (s : Service W) (id : Identity) (job : SwapJob) (r : Resolution) : Service W :=
  match job.resolve r with
  | (job, none) => s.setWork id (.swap job)
  | (job, some _) => (s.setWork id (.swap job)).note (.notify id r.notification)

/-- What is logged does not matter to a resolution. -/
theorem resolved_say (id : Identity) (job : SwapJob) (r : Resolution) (tag : String)
    (level : LogLevel) (message : String) : (s.say tag level message).resolved id job r =
      (s.resolved id job r).say tag level message := by
  unfold resolved
  split <;> rfl

/-- A service with a swap job whose body has begun. A resolution that came early is shown; a job
that waits has its session brought up to date. -/
def started (s : Service W) (id : Identity) (job : SwapJob) (c session : Nat) : Service W :=
  match job.start c with
  | (job, .waits) => (s.setWork id (.swap job)).note (.sync session id)
  | (job, .resolved r) => (s.setWork id (.swap job)).note (.notify id r.notification)
  | (_, .again) => s

/-- To say what became of a swap is no work on it. -/
theorem work?_sayResolution (id j : Identity) (e : Event) :
    (s.sayResolution j e).work? id = s.work? id := by
  cases e <;> rfl

/-- A job that is shown an event hears of it, and is resolved if it is about its own swap. -/
theorem showJob_cases (s : Service W) (e : Event) (id : Identity) :
    s.showJob e id = s.note (.jobEvent id e) ∨ ∃ job r,
      ((s.note (.jobEvent id e)).sayResolution id e).work? id = some (.swap job) ∧
      job.resolution? e = some r ∧
      s.showJob e id = ((s.note (.jobEvent id e)).sayResolution id e).resolveSwap id job r := by
  unfold Service.showJob
  extract_lets noted
  split
  · rename_i job hw
    split
    · rename_i r hr
      exact .inr ⟨job, r, (work?_sayResolution id id e).trans hw, hr, rfl⟩
    · exact .inl rfl
  · exact .inl rfl

/-- A property that the changes that work is made of keep. -/
structure WorkStable (P : Service W → Prop) : Prop where
  /-- What nobody else reads. -/
  quiet : ∀ {s : Service W} (world : W) (log : List (Nat × LogLine)) (wakes : List Nat)
    (dispatched : Nat), P s → P { s with world, log, wakes, dispatched }
  /-- The first use of a completer. -/
  use : ∀ {s : Service W} {c : Nat} {job : Identity} (o : JobOutcome),
    s.completers[c]? = some ⟨job, none⟩ → P s →
    P ({ s with completers := s.completers.set c ⟨job, some o⟩ }.note (.jobCompleted job c o))
  note : ∀ {s : Service W} {o : Occurrence}, o.isWork = true → o.isMilestone = false → P s →
    P (s.note o)
  settlement : ∀ {s : Service W} (session due : Nat) (steps : List (LogLine × Event)),
    P s → P (s.begin (.settlement session due steps))
  resolve : ∀ {s : Service W} {id : Identity} {job : SwapJob} (r : Resolution),
    s.work? id = some (.swap job) → P s → P (s.resolved id job r)
  start : ∀ {s : Service W} {id : Identity} {job : SwapJob} (c session : Nat),
    s.work? id = some (.swap job) → P s → P (s.started id job c session)
  /-- A job that could not reply has failed. -/
  fail : ∀ {s : Service W} {id : Identity} (n : Notification), s.OwesReply id → P s →
    P (s.note (.notify id n))

/-- A property that sees nothing of what the jobs have to do and of what they tell. -/
structure WorkBlind (P : Service W → Prop) : Prop where
  quiet : ∀ {s : Service W} (world : W) (log : List (Nat × LogLine)) (wakes : List Nat)
    (dispatched : Nat) (works : List (Identity × JobWork)),
    P s → P { s with world, log, wakes, dispatched, works }
  use : ∀ {s : Service W} {c : Nat} {job : Identity} (o : JobOutcome),
    s.completers[c]? = some ⟨job, none⟩ → P s →
    P ({ s with completers := s.completers.set c ⟨job, some o⟩ }.note (.jobCompleted job c o))
  note : ∀ {s : Service W} {o : Occurrence}, o.isWork = true → P s → P (s.note o)
  settlement : ∀ {s : Service W} (session due : Nat) (steps : List (LogLine × Event)),
    P s → P (s.begin (.settlement session due steps))

namespace WorkBlind

variable (hP : WorkBlind P)
include hP

theorem setWork (id : Identity) (work : JobWork) (h : P s) : P (s.setWork id work) :=
  hP.quiet _ _ _ _ _ h

/-- Whoever sees nothing of the jobs' work need not be asked about swaps. -/
theorem stable : WorkStable P where
  quiet _ _ _ _ h := hP.quiet _ _ _ _ _ h
  use o hc h := hP.use o hc h
  note ho _ h := hP.note ho h
  settlement _ _ _ h := hP.settlement _ _ _ h
  resolve {s id job} r _ h := by
    unfold resolved
    split
    · exact hP.setWork _ _ h
    · exact hP.note rfl (hP.setWork _ _ h)
  start {s id job} c session _ h := by
    unfold started
    split
    · exact hP.note rfl (hP.setWork _ _ h)
    · exact hP.note rfl (hP.setWork _ _ h)
    · exact h
  fail _ _ h := hP.note rfl h

end WorkBlind

namespace WorkStable

variable (hP : WorkStable P)
include hP

theorem say (tag : String) (level : LogLevel) (message : String) (h : P s) :
    P (s.say tag level message) :=
  hP.quiet _ _ _ _ h

theorem wake (k : Nat) (h : P s) : P (s.wake k) :=
  hP.quiet _ _ _ _ h

/-! ## Completers -/

theorem wakeReaper (c : Nat) (h : P s) : P (s.wakeReaper c) := by
  unfold Service.wakeReaper
  split
  · exact hP.wake _ h
  · exact h

/-- Only the first use of a completer counts, and it may wake a reaper. -/
theorem complete (c : Nat) (o : JobOutcome) (h : P s) : P (s.complete c o) := by
  unfold Service.complete
  split
  · rename_i hc
    exact hP.wakeReaper _ (hP.use o hc h)
  · exact h

theorem dropCompleter (c : Nat) (h : P s) : P (s.dropCompleter c) := by
  unfold Service.dropCompleter
  split
  · exact hP.complete _ _ (hP.say _ _ _ h)
  · exact h

/-! ## Jobs -/

/-- A job that is resolved while it waits uses its completer; a job that is resolved before keeps
the resolution. -/
theorem resolveSwap {id : Identity} {job : SwapJob} {r : Resolution} (h : P (s.resolved id job r)) :
    P (s.resolveSwap id job r) := by
  unfold Service.resolveSwap
  extract_lets said
  -- that a resolution comes before the body has begun is only logged
  have hr : P (said.resolved id job r) := by
    simp only [said]
    split
    · rw [resolved_say]
      exact hP.say _ _ _ h
    · exact h
  -- the job shows its resolution and holds a completer, or neither
  unfold resolved at hr
  split
  rename_i job' c he
  rw [he] at hr
  cases c with
  | none => exact hr
  | some c => exact hP.complete _ _ hr

theorem sayResolution (id : Identity) (e : Event) (h : P s) : P (s.sayResolution id e) := by
  cases e with
  | synced => exact h
  | waitingConfirmation | succeeded | failed => exact hP.say _ _ _ h

/-- Only a swap job makes something of an event, and only of one about its own swap. -/
theorem showJob (e : Event) (id : Identity) (h : P s) : P (s.showJob e id) := by
  have hn : P (s.note (.jobEvent id e)) := hP.note rfl rfl h
  obtain he | ⟨job, r, hw, -, he⟩ := s.showJob_cases e id
  · rw [he]
    exact hn
  · rw [he]
    exact hP.resolveSwap (hP.resolve r hw (hP.sayResolution _ _ hn))

/-- A swap job is resolved by the signal of the end; the others only hear of it. -/
theorem signalJob_of_swap {id : Identity} {job : SwapJob} (hw : s.work? id = some (.swap job))
    (h : P ((s.note (.jobShutdown id)).resolved id job .cancelled)) : P (s.signalJob id) := by
  have hnoted : (s.note (.jobShutdown id)).work? id = some (.swap job) := hw
  simp only [Service.signalJob, hnoted]
  exact hP.resolveSwap h

theorem signalJob_of_not_swap {id : Identity} (hw : ¬s.AwaitsSwap id)
    (h : P (s.note (.jobShutdown id))) : P (s.signalJob id) := by
  -- whoever owes a reply goes on with it, and a job without work hears nothing
  unfold Service.signalJob
  extract_lets noted
  split
  · rename_i job hj
    exact absurd ⟨job, hj⟩ hw
  · exact hP.say _ _ _ h
  · exact hP.say _ _ _ h
  · exact h

/-- What a job makes of the signal of the end. -/
theorem signalJob {id : Identity} (h : P (s.note (.jobShutdown id))) : P (s.signalJob id) := by
  by_cases hw : s.AwaitsSwap id
  · obtain ⟨job, hw⟩ := hw
    exact hP.signalJob_of_swap hw (hP.resolve _ hw h)
  · exact hP.signalJob_of_not_swap hw h

/-! ## Events and bodies -/

/-- Work includes whatever becomes of events. -/
theorem events : EventStable P where
  quiet _ _ _ _ h := hP.quiet _ _ _ _ h
  note ho h := hP.note (Occurrence.isWork_of_isEcho ho).1 (Occurrence.isWork_of_isEcho ho).2 h
  showJob e id h := hP.showJob e id h
  settlement _ _ _ h := hP.settlement _ _ _ h

theorem emit (session : Nat) (e : Event) (h : P s) : P (s.emit env session e) :=
  hP.events.emit session e h

theorem settleLater (session : Nat) (steps : List (LogLine × Event)) (h : P s) :
    P (settleLater env session s steps) :=
  hP.events.settleLater session steps h

theorem beginSync {id : Identity} (session : Nat) (h : P (s.note (.sync session id))) :
    P (s.beginSync env id session).1 :=
  hP.events.askSync session h

/-- Work includes the bodies of all jobs, whatever completers they use. -/
theorem bodies (env : Collaborators W) (id : Identity) (c : Nat) : BodyStable env id c P where
  log _ h := hP.quiet _ _ _ _ h
  ask _ h := hP.quiet _ _ _ _ h
  note ho h :=
    hP.note (Occurrence.isWork_of_isErrandOf ho).1 (Occurrence.isWork_of_isErrandOf ho).2 h
  use o h := hP.complete c o h
  unsynced _ hw h := hP.resolveSwap (hP.resolve _ hw h)
  tell n hw h := hP.fail n hw h

/-- The body of a swap job finds it waiting for its swap, resolved early, or begun before. -/
theorem beginSwap {id : Identity} {job : SwapJob} (c session : Nat)
    (hw : s.work? id = some (.swap job)) (h : P s) : P (s.beginSwap env id c session job).1 := by
  unfold Service.beginSwap
  extract_lets said
  have hs : P (said.started id job c session) := hP.start c session hw (hP.say _ _ _ h)
  unfold started at hs
  -- by what the start makes of the job, as `started` has it
  split
  · rename_i he
    rw [he] at hs
    exact hP.beginSync _ hs
  · rename_i he
    rw [he] at hs
    exact hP.complete _ _ hs
  · rename_i he
    rw [he] at hs
    exact hP.dropCompleter _ (hP.say _ _ _ hs)

theorem beginBody (id : Identity) (c session : Nat) (h : P s) :
    P (s.beginBody env id c session).1 :=
  (hP.bodies env id c).beginBody (fun _ hw => hP.beginSwap c session hw h) h

/-- **Every step of a body is work.** -/
theorem resumeBody {id : Identity} {c session : Nat} {stage : BodyStage}
    {r : Service W × BodyProgress} (hr : s.resumeBody env id c session stage = some r) (h : P s) :
    P r.1 :=
  (hP.bodies env id c).resumeBody (fun _ => hP.beginBody id c session h) hr h

end WorkStable

/-- Work is nothing to the set of jobs; members leave it by their reapers. -/
theorem workBlind_jobs {jobs : JobSet} : WorkBlind fun s : Service W => s.jobs = jobs :=
  ⟨fun _ _ _ _ _ h => h, fun _ _ h => h, fun _ h => h, fun _ _ _ h => h⟩

theorem WorkBlind.signal {P : Service W → Prop} (hP : WorkBlind P) (id : Identity) (h : P s) :
    P (s.signalJob id) :=
  hP.stable.signalJob (hP.note rfl h)

/-- Members are told one after the other, and stay members. -/
theorem signalAll {P : Service W → Prop}
    (hsignal : ∀ {s : Service W} (id : Identity), id ∈ s.jobs.ids → P s → P (s.signalJob id))
    (ids : List Identity) (hids : ∀ id ∈ ids, id ∈ s.jobs.ids) (h : P s) :
    P (ids.foldl Service.signalJob s) := by
  induction ids generalizing s with
  | nil => exact h
  | cons id ids ih =>
    have hjobs : (s.signalJob id).jobs = s.jobs := workBlind_jobs.signal id rfl
    refine ih (fun id' hid => ?_) (hsignal id (hids id List.mem_cons_self) h)
    rw [hjobs]
    exact hids id' (List.mem_cons_of_mem _ hid)

/-- The set is closed already, or closes; whoever closes it tells its members. -/
theorem signalJobs_of_signal
    (hsay : ∀ {s : Service W} (tag : String) (level : LogLevel) (message : String),
      P s → P (s.say tag level message))
    (hsignal : ∀ {s : Service W} (id : Identity), id ∈ s.jobs.ids → P s → P (s.signalJob id))
    (hdone : s.jobs.closed = true → P s)
    (hclose : s.jobs.closed = false → P { s with jobs := { s.jobs with closed := true } }) :
    P s.signalJobs.1 := by
  cases hc : s.jobs.closed with
  | true =>
    have he : s.signalJobs = (s, false) := by
      simp [Service.signalJobs, JobSet.close, hc, JobSet.unchanged]
    rw [he]
    exact hdone hc
  | false =>
    have he : s.jobs.close = ⟨{ s.jobs with closed := true }, true, none⟩ := by
      simp [JobSet.close, hc]
    simp only [Service.signalJobs, he, if_true, Service.change]
    -- who is there is fixed when the set closes
    split
    · exact signalAll hsignal _ (fun _ => id) (hclose hc)
    · exact signalAll hsignal _ (fun _ => id) (hsay _ _ _ (hclose hc))

theorem WorkStable.signalJobs (hP : WorkStable P)
    (hsignal : ∀ {s : Service W} (id : Identity), id ∈ s.jobs.ids → P s → P (s.signalJob id))
    (hdone : s.jobs.closed = true → P s)
    (hclose : s.jobs.closed = false → P { s with jobs := { s.jobs with closed := true } }) :
    P s.signalJobs.1 :=
  signalJobs_of_signal hP.say hsignal hdone hclose

end Service

end PushWake
