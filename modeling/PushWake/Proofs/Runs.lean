import PushWake.Service.Step

/-!
# Runs of a service

A run is any sequence of moves from the start of a service. A move is a step of one activity, a call
of the host, an event that a session reports on its own, the passing of time, or the host letting
go. Nothing restricts the order, so what holds of every reachable service holds of every
interleaving of its activities, whatever its collaborators answer and however long they take.

The only activities of such a run are the scheduler, triggers, shutdowns, bodies, reapers and
settlements; `OwnStep` lists what a step of each of them does.
-/

namespace PushWake.Service

variable {W : Type} {env : Collaborators W} {s s' : Service W} {k : Nat}

/-- What a host can call for. -/
inductive IsCall : Activity → Prop where
  | trigger (m : TriggerMessage) : IsCall (.trigger m .arriving)
  | shutdown : IsCall (.shutdown none)

/-- The moves of a run. -/
inductive Move (env : Collaborators W) : Service W → Service W → Prop where
  | act {s s' : Service W} {k : Nat} : s.step env k = some s' → Move env s s'
  | call {s : Service W} {a : Activity} :
      IsCall a → s.released = false → Move env s (s.begin a)
  | report {s : Service W} (session : Nat) (e : Event) : Move env s (s.emit env session e)
  | wait {s : Service W} (t : Nat) : Move env s (s.advanceTo t)
  | release {s : Service W} : Move env s s.release
  /-- Whoever hands out turns has taken note of the wake-ups. -/
  | rouse {s : Service W} (wakes : List Nat) : Move env s { s with wakes }

/-- The services that a run leads to. -/
inductive Reachable (env : Collaborators W) : Service W → Prop where
  | start {config : ServiceConfig} {makesPlugins : Bool} {world : W} {s : Service W} :
      Service.start config makesPlugins world = .ok s → Reachable env s
  | move {s s' : Service W} : Reachable env s → Move env s s' → Reachable env s'

/-- What comes later in a run. -/
inductive Later (env : Collaborators W) (s : Service W) : Service W → Prop where
  | refl : Later env s s
  | move {s₁ s₂ : Service W} : Later env s s₁ → Move env s₁ s₂ → Later env s s₂

theorem Reachable.later (h : Reachable env s) (hl : Later env s s') : Reachable env s' := by
  induction hl with
  | refl => exact h
  | move _ hm ih => exact .move ih hm

theorem Later.trans {s'' : Service W} (h : Later env s s') (h' : Later env s' s'') :
    Later env s s'' := by
  induction h' with
  | refl => exact h
  | move _ hm ih => exact .move ih hm

/-- A service that starts is the initial one but for its log. -/
theorem start_eq {config : ServiceConfig} {makesPlugins : Bool} {world : W}
    (h : Service.start config makesPlugins world = .ok s) :
    ∃ message, s = (initial config makesPlugins world).say "service" .info message := by
  unfold Service.start at h
  split at h
  · cases h
  · exact ⟨_, (Except.ok.inj h).symm⟩

/-! ## Runs that are written down -/

/-- A message about a swap. -/
def swapMessage : TriggerMessage :=
  ⟨"swap_updated", .object [("id", .string "ab"), ("status", .string "x")]⟩

/-- A message of a kind that nobody knows. -/
def strayMessage : TriggerMessage := ⟨"refund", .null⟩

/-- A move that can be written down. -/
inductive Cue where
  | turn (k : Nat)
  | trigger (m : TriggerMessage)
  | shutdown
  | wait (t : Nat)
  | release

/-- Makes a move, if it can be made. -/
def cue (env : Collaborators W) (s : Service W) : Cue → Option (Service W)
  | .turn k => s.step env k
  | .trigger m => if s.released then none else some (s.begin (.trigger m .arriving))
  | .shutdown => if s.released then none else some (s.begin (.shutdown none))
  | .wait t => some (s.advanceTo t)
  | .release => some s.release

/-- Makes some moves, one after the other. -/
def play (env : Collaborators W) : List Cue → Service W → Option (Service W)
  | [], s => some s
  | c :: cs, s => (s.cue env c).bind (play env cs)

/-- Whatever can be written down is a move. -/
theorem move_of_cue {c : Cue} (h : s.cue env c = some s') : Move env s s' := by
  cases c with
  | turn k => exact .act h
  | trigger m =>
    obtain ⟨hr, h⟩ := Option.ite_none_left_eq_some.mp h
    cases h
    exact .call (.trigger m) (Bool.eq_false_iff.mpr hr)
  | shutdown =>
    obtain ⟨hr, h⟩ := Option.ite_none_left_eq_some.mp h
    cases h
    exact .call .shutdown (Bool.eq_false_iff.mpr hr)
  | wait t =>
    cases h
    exact .wait t
  | release =>
    cases h
    exact .release

/-- To play cues is to go on in a run. -/
theorem later_of_play {cs : List Cue} (h : play env cs s = some s') : Later env s s' := by
  induction cs generalizing s with
  | nil =>
    cases h
    exact .refl
  | cons c cs ih =>
    obtain ⟨t, ht, h⟩ := Option.bind_eq_some_iff.mp h
    exact (Later.move .refl (move_of_cue ht)).trans (ih h)

/-- A run from the start. -/
def playFrom (env : Collaborators W) (config : ServiceConfig) (makesPlugins : Bool) (world : W)
    (cs : List Cue) : Option (Service W) :=
  match start config makesPlugins world with
  | .ok s => play env cs s
  | .error _ => none

theorem reachable_of_playFrom {config : ServiceConfig} {makesPlugins : Bool} {world : W}
    {cs : List Cue} (h : playFrom env config makesPlugins world cs = some s) : Reachable env s := by
  unfold playFrom at h
  split at h
  · rename_i hs
    exact (Reachable.start hs).later (later_of_play h)
  · cases h

/-! ## Activities by number -/

theorem mem_of_activity? {a : Activity} (h : s.activity? k = some a) : (k, a) ∈ s.activities := by
  obtain ⟨⟨j, b⟩, hf, rfl⟩ := Option.map_eq_some_iff.mp h
  have hj : j = k := by simpa using List.find?_some hf
  exact hj ▸ List.mem_of_find?_eq_some hf

/-- An activity that begins gets the next number. -/
theorem mem_begin {a b : Activity} {j : Nat} :
    (j, b) ∈ (s.begin a).activities ↔ (j, b) ∈ s.activities ∨ (j = s.begun ∧ b = a) := by
  simp [begin]

theorem mem_finish {b : Activity} {j : Nat} :
    (j, b) ∈ (s.finish k).activities ↔ (j, b) ∈ s.activities ∧ j ≠ k := by
  simp [finish]

/-- Whoever is there after an activity has moved is that activity, or was there before. -/
theorem mem_put {a b : Activity} {j : Nat} (h : (j, b) ∈ (s.put k a).activities) :
    (j = k ∧ b = a) ∨ ((j, b) ∈ s.activities ∧ j ≠ k) := by
  obtain ⟨⟨i, c⟩, hc, he⟩ := List.mem_map.mp h
  by_cases hi : i = k
  · rw [if_pos (by simpa using hi)] at he
    cases he
    exact .inl ⟨rfl, rfl⟩
  · rw [if_neg (by simpa using hi)] at he
    cases he
    exact .inr ⟨hc, hi⟩

theorem mem_put_of_ne {a b : Activity} {j : Nat} (h : (j, b) ∈ s.activities) (hj : j ≠ k) :
    (j, b) ∈ (s.put k a).activities :=
  List.mem_map.mpr ⟨(j, b), h, if_neg (by simpa using hj)⟩

theorem mem_put_self {a b : Activity} (h : (k, b) ∈ s.activities) :
    (k, a) ∈ (s.put k a).activities :=
  List.mem_map.mpr ⟨(k, b), h, if_pos (by simp)⟩

/-! ## The activities of a run -/

/-- Whether an activity belongs to a service as a whole. -/
def isOwn : Activity → Bool
  | .scheduler _ => true
  | .trigger _ _ => true
  | .shutdown _ => true
  | .body _ _ _ _ => true
  | .reaper _ _ => true
  | .settlement _ _ _ => true
  | _ => false

/-- What the scheduler does in a step: commands come first, the hard limit next, and the delay last;
and once it takes the service down it does nothing else. -/
inductive SchedulerTurn (env : Collaborators W) (s : Service W) (k : Nat) :
    SchedulerStage → Service W × SchedulerProgress → Prop where
  | obeys {command : SchedulerCommand} {rest : List SchedulerCommand} :
      s.commands = command :: rest →
      SchedulerTurn env s k .listening (obey { s with commands := rest } command)
  | limit : s.commands = [] → s.scheduler.due? s.now = some .service →
      SchedulerTurn env s k .listening (s.serviceOver env k)
  | delay : s.commands = [] → s.scheduler.due? s.now = some .empty →
      SchedulerTurn env s k .listening (s.emptyOver env k)
  | tearsDown {reason : ShutdownReason} {stage : TeardownStage}
      {r : Service W × TeardownProgress} : s.resumeTeardown env k reason stage = some r →
      SchedulerTurn env s k (.tearingDown reason stage) (afterTeardown reason r)

/-- What a step of one of its activities does to a service. -/
inductive OwnStep (env : Collaborators W) (s : Service W) (k : Nat) : Service W → Prop where
  | scheduler {stage : SchedulerStage} {r : Service W × SchedulerProgress} :
      (k, .scheduler stage) ∈ s.activities → s.resumeScheduler env k stage = some r →
      OwnStep env s k (follow k .scheduler (fun s _ => s.endScheduler k) r)
  | trigger {m : TriggerMessage} {stage : TriggerStage} {r : Service W × TriggerProgress} :
      (k, .trigger m stage) ∈ s.activities → s.resumeTrigger env k m stage = some r →
      OwnStep env s k (follow k (.trigger m)
        (fun s result => (s.answer k (.trigger result)).cancelIfUnheld) r)
  | enterShutdown :
      (k, .shutdown none) ∈ s.activities →
      OwnStep env s k (follow k (fun stage => .shutdown (some stage))
        (fun s _ => (s.answer k .shutDown).cancelIfUnheld) (s.enterShutdown env k))
  | shutdown {stage : TeardownStage} {r : Service W × TeardownProgress} :
      (k, .shutdown (some stage)) ∈ s.activities →
      s.resumeTeardown env k .requested stage = some r →
      OwnStep env s k (follow k (fun stage => .shutdown (some stage))
        (fun s _ => (s.answer k .shutDown).cancelIfUnheld) r)
  | freshBody {id : Identity} {completer : Nat} {connection : Connection} :
      (k, .body id completer connection .fresh) ∈ s.activities →
      OwnStep env s k (follow k (.body id completer connection)
        (fun s result => s.endBody k id result)
        ((s.markRunning id).1.beginBody env id completer connection.session))
  | body {id : Identity} {completer : Nat} {connection : Connection} {stage : BodyStage}
      {r : Service W × BodyProgress} :
      (k, .body id completer connection stage) ∈ s.activities →
      s.resumeBody env id completer connection.session stage = some r →
      OwnStep env s k (follow k (.body id completer connection)
        (fun s result => s.endBody k id result) r)
  | reaper {id job : Identity} {completer : Nat} {outcome : JobOutcome} :
      (k, .reaper id completer) ∈ s.activities →
      s.completers[completer]? = some ⟨job, some outcome⟩ →
      OwnStep env s k ((s.removeJob id outcome).1.finish k)
  | settlement {session due : Nat} {steps : List (LogLine × Event)} :
      (k, .settlement session due steps) ∈ s.activities → due ≤ s.now →
      OwnStep env s k ((settleLater env session s steps).finish k)

/-- **Every step of the scheduler is one of its turns.** -/
theorem schedulerTurn_of_resume {stage : SchedulerStage} {r : Service W × SchedulerProgress}
    (h : s.resumeScheduler env k stage = some r) : SchedulerTurn env s k stage r := by
  cases stage with
  | tearingDown reason stage =>
    obtain ⟨r, hr, rfl⟩ := Option.map_eq_some_iff.mp h
    exact .tearsDown hr
  | listening =>
    simp only [resumeScheduler] at h
    split at h
    · rename_i command rest hc
      cases h
      exact .obeys hc
    · rename_i hc
      split at h
      · rename_i hdue
        cases h
        exact .limit hc hdue
      · rename_i hdue
        cases h
        exact .delay hc hdue
      · cases h

/-- The end of a body is that it waits, or that it is there no more. -/
theorem followBody_eq (k : Nat) (id : Identity) (c : Nat) (connection : Connection)
    (r : Service W × BodyProgress) :
    (∃ stage, r.2 = .waits stage ∧
      follow k (.body id c connection) (fun s result => s.endBody k id result) r =
        r.1.put k (.body id c connection stage)) ∨
    ∃ result log, r.2 = .done result ∧
      follow k (.body id c connection) (fun s result => s.endBody k id result) r =
        { r.1 with log }.finish k := by
  obtain ⟨t, progress⟩ := r
  cases progress with
  | waits stage => exact .inl ⟨stage, rfl, rfl⟩
  | done result =>
    have hend : ∃ log, t.endBody k id result = { t with log }.finish k := by
      cases result with
      | ok => exact ⟨_, rfl⟩
      | error e =>
        simp only [endBody]
        split
        · exact ⟨_, rfl⟩
        · exact ⟨_, rfl⟩
    obtain ⟨log, he⟩ := hend
    exact .inr ⟨result, log, rfl, he⟩

/-- A step of a run is one of those listed. -/
theorem ownStep_of_step (hown : ∀ j a, (j, a) ∈ s.activities → isOwn a = true)
    (h : s.step env k = some s') : OwnStep env s k s' := by
  obtain ⟨a, ha, h⟩ := Option.bind_eq_some_iff.mp h
  have hmem := mem_of_activity? ha
  have hk := hown k a hmem
  cases a with
  | scheduler stage =>
    obtain ⟨r, hr, rfl⟩ := Option.map_eq_some_iff.mp h
    exact .scheduler hmem hr
  | trigger m stage =>
    obtain ⟨r, hr, rfl⟩ := Option.map_eq_some_iff.mp h
    exact .trigger hmem hr
  | shutdown stage =>
    obtain ⟨r, hr, rfl⟩ := Option.map_eq_some_iff.mp h
    cases stage with
    | none =>
      cases hr
      exact .enterShutdown hmem
    | some stage => exact .shutdown hmem hr
  | body id completer connection stage =>
    obtain ⟨r, hr, rfl⟩ := Option.map_eq_some_iff.mp h
    cases stage with
    | fresh =>
      cases hr
      exact .freshBody hmem
    | syncing _ | askingLimits _ | invoicing _ | replying _ | apologizing _ _ => exact .body hmem hr
  | reaper id completer =>
    obtain ⟨⟨job, o⟩, hc, h⟩ := Option.bind_eq_some_iff.mp h
    obtain ⟨outcome, rfl, h⟩ := Option.bind_eq_some_iff.mp h
    cases h
    exact .reaper hmem hc
  | settlement session due steps =>
    simp only [act] at h
    split at h
    · rename_i hdue
      cases h
      exact .settlement hmem hdue
    · cases h
  | connect _ _ _ | disconnect _ _ | current _ | startPlugin _ _ _ _ | stopPlugins _ | handle _
  | start _ _ _ _ => exact absurd hk (by simp [isOwn])

end PushWake.Service
