import PushWake.Service.Step
/-!
# Handing out turns

A service says who can go on; a runner decides who does, and when time passes. It keeps a line of
activities and gives them turns, first come, first served: an activity has its turn until it has to
wait, and gets in line again when it is woken. The foreground is whoever calls the service and waits
for it. The activities it called for act in its turns, which it has whenever the line is empty. Time
stands still as long as anybody can go on, and then jumps to the next moment that anybody waits for;
the foreground is the first to notice.
-/

namespace PushWake

/-- What the foreground waits for. -/
inductive Await where
  /-- The answers to its calls. -/
  | calls (numbers : List Nat)
  /-- A moment. -/
  | moment (t : Nat)
  /-- The end of the service, or a moment. -/
  | termination (limit : Option Nat)
deriving DecidableEq, Repr, Inhabited

namespace Await

variable {W : Type}

/-- The calls that act in the turns of the foreground. -/
def numbers : Await → List Nat
  | calls ks => ks
  | moment _ => []
  | termination _ => []

/-- The moment that the foreground waits for, if any. -/
def deadline? : Await → Option Nat
  | calls _ => none
  | moment t => some t
  | termination limit => limit

/-- Whether the wait is over. -/
def isOver (s : Service W) : Await → Bool
  | calls ks => ks.all fun k => (s.activity? k).isNone
  | moment t => decide (t ≤ s.now)
  | termination limit => s.terminated.isSome || Scheduler.isReached s.now limit

end Await

/-- A service, and the line of those who have been woken. -/
structure Runner (W : Type) where
  service : Service W
  line : List Nat := []

namespace Runner

variable {W : Type}

/-- Gets in line, once. -/
def enqueue (line : List Nat) (k : Nat) : List Nat :=
  if line.contains k then line else line ++ [k]

/-- Puts those in line whom the service has woken. The calls of the foreground have no
place in it. -/
def collect (a : Await) (r : Runner W) : Runner W :=
  ⟨{ r.service with wakes := [] },
    (r.service.wakes.filter fun k => !a.numbers.contains k).foldl enqueue r.line⟩

/-- The most steps of one turn; whoever could go on gets in line again. -/
def turnLength : Nat := 128

/-- Lets an activity act until it has to wait. -/
def act (env : Collaborators W) (k : Nat) : Nat → Service W → Service W
  | 0, s => s.wake k
  | n + 1, s =>
    match s.step env k with
    | some s => act env k n s
    | none => s

/-- Gives an activity a turn. -/
def giveTurn (env : Collaborators W) (a : Await) (r : Runner W) (k : Nat) : Runner W :=
  collect a { r with service := act env k turnLength r.service }

/-- Gives the foreground a turn: its calls act one after the other. -/
def giveForeground (env : Collaborators W) (a : Await) (r : Runner W) : Runner W :=
  a.numbers.foldl (giveTurn env a) r

/-- Lets those in line act until nobody is in line, while time stands still. -/
def settle (env : Collaborators W) (a : Await) : Nat → Runner W → Runner W
  | 0, r => r
  | n + 1, r =>
    match r.line with
    | k :: rest => settle env a n (giveTurn env a { r with line := rest } k)
    | [] => r

/-- Somebody who can go on. -/
def ready? (env : Collaborators W) (s : Service W) : Option Nat :=
  (s.activities.find? fun a => (s.act env a.1 a.2).isSome).map Prod.fst

/-- The next moment that anybody waits for. -/
def next? (a : Await) (s : Service W) : Option Nat :=
  s.activities.foldl (fun t b => Scheduler.earlier t (s.due? b.2)) a.deadline?

/-- Those whose moment has come. -/
def dueNow (s : Service W) : List Nat :=
  (s.activities.filter fun a => Scheduler.isReached s.now (s.due? a.2)).map Prod.fst

/-- Lets time pass until the next moment, and puts those in line who waited for it. -/
def jump (a : Await) (r : Runner W) : Option (Runner W) :=
  (next? a r.service).map fun t =>
    let s := r.service.advanceTo t
    collect a { r with service := (dueNow s).foldl Service.wake s }

/-- Hands out turns until the foreground finds that its wait is over, or that everybody waits
forever. Nobody is left who could go on when time passes, in line or not. -/
def loop (env : Collaborators W) (a : Await) : Nat → Runner W → Runner W
  | 0, r => r
  | n + 1, r =>
    let r := giveForeground env a r
    if a.isOver r.service then r
    else
      match r.line, ready? env r.service with
      | _ :: _, _ => loop env a n (settle env a n r)
      | [], some k => loop env a n { r with line := if a.numbers.contains k then [] else [k] }
      | [], none =>
        match jump a r with
        | some r => loop env a n r
        | none => r

/-- Changes the service from outside. -/
def modify (change : Service W → Service W) (r : Runner W) : Runner W :=
  collect (.calls []) { r with service := change r.service }

/-- Calls for activities and waits for their answers. Gives their numbers, too. -/
def call (env : Collaborators W) (activities : List Activity) (fuel : Nat) (r : Runner W) :
    Runner W × List Nat :=
  let numbers := List.range' r.service.begun activities.length
  let r := r.modify fun s => activities.foldl Service.begin s
  (loop env (.calls numbers) fuel r, numbers)

/-- Calls for an activity that runs in the background. Gives its number, too. -/
def background (a : Activity) (r : Runner W) : Runner W × Nat :=
  (r.modify (Service.spawn · a), r.service.begun)

/-- A runner for a service. -/
def ofService (s : Service W) : Runner W :=
  collect (.calls []) ⟨s, []⟩

end Runner

namespace Service

variable {W : Type}

/-- The answer to a call. -/
def answer? (s : Service W) (k : Nat) : Option CallAnswer :=
  s.history.findSome? fun o =>
    match o.2 with
    | .answered j a => if j == k then some a else none
    | _ => none

end Service

end PushWake
