import PushWake.Proofs.VeiledSteps
import PushWake.Runner.Basic

/-!
# Runs behind the veil

The start of a service, the passing of time and the host's letting go commute with the veil, and so
does whoever hands out the turns: a runner sees no secret either, so it gives the same turns in the
same order and lets the same time pass. What can happen to a service from outside is written down as
a list of cues, and a run behind the veil is a run of the cues behind the veil.
-/

namespace PushWake

variable {W U : Type} {view : W → U} {env : Collaborators W} {picture : Collaborators U}

namespace Service

variable {s : Service W}

/-! ## Starts, time and the end of the host's interest -/

@[simp] theorem veiled_bare (config : ServiceConfig) (makesPlugins : Bool) (world : W) :
    (bare config makesPlugins world).veiled view =
      bare config.veiled makesPlugins (view world) := rfl

/-- A service starts behind the veil if it starts, and fails with the same error. -/
theorem veiled_start (config : ServiceConfig) (makesPlugins : Bool) (world : W) :
    (start config makesPlugins world).map (veiled view) =
      start config.veiled makesPlugins (view world) := by
  have hstarted : (initial config makesPlugins world).veiled view =
      initial config.veiled makesPlugins (view world) := by
    rw [initial, veiled_spawn, veiled_bare]
    rfl
  unfold start
  rw [ServiceConfig.validate_veiled, ← hstarted]
  cases config.validate <;> rfl

@[simp] theorem veiled_advanceTo (t : Nat) :
    (s.advanceTo t).veiled view = (s.veiled view).advanceTo t := rfl

@[simp] theorem veiled_release : s.release.veiled view = (s.veiled view).release :=
  veiled_cancelIfUnheld (s := { s with released := true })

/-- What an activity waits for does not depend on the secrets it was called with. -/
theorem due?_veiled (a : Activity) : (s.veiled view).due? a.veiled = s.due? a := by
  cases a with
  | scheduler stage => cases stage <;> rfl
  | trigger m stage => cases stage <;> rfl
  | shutdown | body | reaper | settlement | connect | disconnect | current | startPlugin
  | stopPlugins | handle | start => rfl

end Service

/-! ## Runners -/

theorem Await.isOver_veiled {s : Service W} (a : Await) :
    a.isOver (s.veiled view) = a.isOver s := by
  cases a with
  | calls ks =>
    have hover : ∀ k, ((s.veiled view).activity? k).isNone = (s.activity? k).isNone := by
      intro k
      rw [Service.activity?_veiled, Option.isNone_map]
    simp only [isOver, hover]
  | moment t => rfl
  | termination limit => rfl

namespace Runner

variable {r : Runner W} {a : Await}

/-- A runner behind the veil. -/
def veiled (view : W → U) (r : Runner W) : Runner U := ⟨r.service.veiled view, r.line⟩

@[simp] theorem service_veiled : (r.veiled view).service = r.service.veiled view := rfl

@[simp] theorem line_veiled : (r.veiled view).line = r.line := rfl

@[simp] theorem veiled_collect : (collect a r).veiled view = collect a (r.veiled view) := rfl

@[simp] theorem veiled_ofService (s : Service W) :
    (ofService s).veiled view = ofService (s.veiled view) := rfl

/-- A change that commutes with the veil is made behind it. -/
theorem veiled_modify {f : Service W → Service W} {g : Service U → Service U}
    (hfg : ∀ s, (f s).veiled view = g (s.veiled view)) :
    (r.modify f).veiled view = (r.veiled view).modify g := by
  rw [modify, veiled_collect, modify, service_veiled, ← hfg]
  rfl

theorem dueNow_veiled {s : Service W} : dueNow (s.veiled view) = dueNow s := by
  have hdue : ((fun b : Nat × Activity => Scheduler.isReached s.now ((s.veiled view).due? b.2)) ∘
      Prod.map id Activity.veiled) = fun b => Scheduler.isReached s.now (s.due? b.2) :=
    funext fun b => congrArg (Scheduler.isReached s.now) (Service.due?_veiled b.2)
  have hnow : (s.veiled view).now = s.now := rfl
  have hactivities : (s.veiled view).activities = s.activities.map (Prod.map id Activity.veiled) :=
    rfl
  rw [dueNow, hnow, hactivities, List.filter_map, List.map_map, hdue]
  rfl

/-- What is due next is due next behind the veil. -/
theorem next?_veiled {s : Service W} : next? a (s.veiled view) = next? a s := by
  have hactivities : (s.veiled view).activities = s.activities.map (Prod.map id Activity.veiled) :=
    rfl
  rw [next?, hactivities, List.foldl_map, next?]
  exact congrArg (List.foldl · a.deadline? s.activities)
    (funext fun t => funext fun b => congrArg (Scheduler.earlier t) (Service.due?_veiled b.2))

/-- A runner at a later time, with those in line whose moment has come. -/
def jumpTo (a : Await) (r : Runner W) (t : Nat) : Runner W :=
  collect a ⟨(dueNow (r.service.advanceTo t)).foldl Service.wake (r.service.advanceTo t), r.line⟩

theorem veiled_jumpTo (t : Nat) : (r.jumpTo a t).veiled view = (r.veiled view).jumpTo a t := by
  have hwoken : ((dueNow (r.service.advanceTo t)).foldl Service.wake
        (r.service.advanceTo t)).veiled view =
      (dueNow ((r.service.veiled view).advanceTo t)).foldl Service.wake
        ((r.service.veiled view).advanceTo t) := by
    rw [Service.veiled_foldl fun _ => Service.veiled_wake, ← Service.veiled_advanceTo,
      dueNow_veiled]
  rw [jumpTo, veiled_collect, jumpTo, service_veiled, ← hwoken]
  rfl

theorem veiled_jump : (jump a r).map (veiled view) = jump a (r.veiled view) := by
  have hjump : ∀ {V : Type} (r : Runner V), jump a r = (next? a r.service).map (r.jumpTo a) :=
    fun _ => rfl
  rw [hjump, hjump, service_veiled, next?_veiled, Option.map_map]
  exact congrArg (Option.map · _) (funext fun t => veiled_jumpTo t)

section
variable (h : LooksLike view env picture)
include h

/-- Behind the veil, an activity acts as long as it acts. -/
theorem veiled_act (k n : Nat) (s : Service W) :
    (act env k n s).veiled view = act picture k n (s.veiled view) := by
  induction n generalizing s with
  | zero => exact Service.veiled_wake k
  | succ n ih =>
    rw [act, act, ← Service.veiled_step h]
    cases s.step env k with
    | none => rfl
    | some t => exact ih t

/-- Whoever gets a turn gets the same one behind the veil. -/
theorem veiled_giveTurn (k : Nat) :
    (giveTurn env a r k).veiled view = giveTurn picture a (r.veiled view) k := by
  rw [giveTurn, veiled_collect, giveTurn, service_veiled, ← veiled_act h]
  rfl

theorem veiled_giveForeground :
    (giveForeground env a r).veiled view = giveForeground picture a (r.veiled view) := by
  have hturns : ∀ (ks : List Nat) (r : Runner W),
      (ks.foldl (giveTurn env a) r).veiled view = ks.foldl (giveTurn picture a)
        (r.veiled view) := by
    intro ks
    induction ks with
    | nil => exact fun _ => rfl
    | cons k ks ih =>
      intro r
      rw [List.foldl_cons, ih, veiled_giveTurn h, List.foldl_cons]
  exact hturns a.numbers r

/-- So it is until nobody can go on any more. -/
theorem veiled_settle (n : Nat) :
    (settle env a n r).veiled view = settle picture a n (r.veiled view) := by
  induction n generalizing r with
  | zero => rfl
  | succ n ih =>
    rw [settle, settle, line_veiled]
    cases r.line with
    | nil => rfl
    | cons k rest =>
      have hturn := veiled_giveTurn h (a := a) (r := { r with line := rest }) k
      exact ih.trans (congrArg (settle picture a n) hturn)

/-- Somebody can go on behind the veil if somebody can go on, and it is the same. -/
theorem ready?_veiled (s : Service W) : ready? picture (s.veiled view) = ready? env s := by
  have hready : ((fun b : Nat × Activity => ((s.veiled view).act picture b.1 b.2).isSome) ∘
      Prod.map id Activity.veiled) = fun b => (s.act env b.1 b.2).isSome := by
    refine funext fun b => ?_
    have hact := Service.veiled_act h (s := s) b.1 b.2
    exact (congrArg Option.isSome hact.symm).trans Option.isSome_map
  have hactivities : (s.veiled view).activities = s.activities.map (Prod.map id Activity.veiled) :=
    rfl
  rw [ready?, hactivities, List.find?_map, hready, Option.map_map]
  rfl

/-- A runner hands out the same turns behind the veil. -/
theorem veiled_loop (n : Nat) : (loop env a n r).veiled view = loop picture a n
    (r.veiled view) := by
  induction n generalizing r with
  | zero => rfl
  | succ n ih =>
    have hturn := veiled_giveForeground h (a := a) (r := r)
    rw [loop, loop, ← hturn, service_veiled, Await.isOver_veiled, ready?_veiled h, line_veiled]
    -- all that the runner decides on is the same on both sides by now
    generalize giveForeground env a r = r
    cases a.isOver r.service with
    | true => rfl
    | false =>
      cases hline : r.line with
      | cons k rest => exact ih.trans (congrArg (loop picture a n) (veiled_settle h n))
      | nil =>
        cases ready? env r.service with
        | some k => exact ih
        | none =>
          rw [← veiled_jump]
          cases jump a r with
          | none => rfl
          | some r' => exact ih

/-- A call is followed to its answer on both sides. -/
theorem veiled_call (activities : List Activity) (fuel : Nat) :
    (r.call env activities fuel).1.veiled view =
      ((r.veiled view).call picture (activities.map Activity.veiled) fuel).1 := by
  have hbegun : ∀ s : Service W, (activities.foldl Service.begin s).veiled view =
      (activities.map Activity.veiled).foldl Service.begin (s.veiled view) := by
    intro s
    rw [List.foldl_map]
    exact Service.veiled_foldl (fun _ a => Service.veiled_begin a) activities
  have hnumbers :
      List.range' (r.veiled view).service.begun (activities.map Activity.veiled).length =
        List.range' r.service.begun activities.length := by
    rw [List.length_map]
    rfl
  have hcalled := veiled_modify (r := r)
    (g := fun s => (activities.map Activity.veiled).foldl Service.begin s) hbegun
  simp only [call, hnumbers]
  rw [veiled_loop h, hcalled]

end

theorem veiled_background (a : Activity) :
    (r.background a).1.veiled view = ((r.veiled view).background a.veiled).1 := by
  have hspawned : ∀ s : Service W, (s.spawn a).veiled view = (s.veiled view).spawn a.veiled :=
    fun _ => Service.veiled_spawn a
  exact veiled_modify (g := (Service.spawn · a.veiled)) hspawned

/-! ## Cues -/

/-- What can happen to a service that a runner hands turns out for. -/
inductive Cue where
  /-- The host calls for activities and waits for their answers. -/
  | call (activities : List Activity) (fuel : Nat)
  /-- The host calls for an activity that runs in the background. -/
  | background (a : Activity)
  /-- The host calls for an activity, and nobody hands out turns yet. -/
  | begin (a : Activity)
  /-- The host waits. -/
  | await (a : Await) (fuel : Nat)
  /-- Those in line have their turns. -/
  | settle (fuel : Nat)
  /-- An activity takes a step, whoever would have its turn. -/
  | step (k : Nat)
  /-- A session reports an event. -/
  | report (session : Nat) (e : Event)
  /-- Time passes. -/
  | wait (t : Nat)
  /-- The host lets go of the service. -/
  | release

/-- A cue without the secrets that activities are called with. -/
def Cue.veiled : Cue → Cue
  | .call activities fuel => .call (activities.map Activity.veiled) fuel
  | .background a => .background a.veiled
  | .begin a => .begin a.veiled
  | c => c

/-- Follows a cue, if it can be followed. -/
def follow (env : Collaborators W) (r : Runner W) : Cue → Option (Runner W)
  | .call activities fuel => some (r.call env activities fuel).1
  | .background a => some (r.background a).1
  | .begin a => some (r.modify (Service.begin · a))
  | .await a fuel => some (loop env a fuel r)
  | .settle fuel => some (settle env (.calls []) fuel r)
  | .step k => (r.service.step env k).map fun s => { r with service := s }
  | .report session e => some (r.modify fun s => s.emit env session e)
  | .wait t => some (r.modify (Service.advanceTo · t))
  | .release => some (r.modify Service.release)

/-- Follows cues, one after the other. -/
def play (env : Collaborators W) : List Cue → Runner W → Option (Runner W)
  | [], r => some r
  | c :: cs, r => (r.follow env c).bind (play env cs)

section
variable (h : LooksLike view env picture)
include h

/-- **A cue is followed on both sides of the veil, or on neither.** -/
theorem veiled_follow (c : Cue) :
    (r.follow env c).map (veiled view) = (r.veiled view).follow picture c.veiled := by
  cases c with
  | call activities fuel => exact congrArg some (veiled_call h activities fuel)
  | background a => exact congrArg some (veiled_background a)
  | begin a => exact congrArg some (veiled_modify fun s => Service.veiled_begin a)
  | await a fuel => exact congrArg some (veiled_loop h fuel)
  | settle fuel => exact congrArg some (veiled_settle h fuel)
  | step k =>
    have hstep := Service.veiled_step h (s := r.service) k
    simp only [follow, Cue.veiled, service_veiled, ← hstep, Option.map_map]
    rfl
  | report session e => exact congrArg some (veiled_modify fun s => Service.veiled_emit h session e)
  | wait t => exact congrArg some (veiled_modify fun s => Service.veiled_advanceTo t)
  | release => exact congrArg some (veiled_modify fun s => Service.veiled_release)

/-- A run behind the veil is the run of the cues behind the veil. -/
theorem veiled_play (cs : List Cue) :
    (play env cs r).map (veiled view) = play picture (cs.map Cue.veiled) (r.veiled view) := by
  induction cs generalizing r with
  | nil => rfl
  | cons c cs ih =>
    rw [play, List.map_cons, play, ← veiled_follow h]
    cases r.follow env c with
    | none => rfl
    | some r' => exact ih

end

end Runner

end PushWake
