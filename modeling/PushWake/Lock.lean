/-!
# Locks

A lock is held by one activity at a time. Activities that find it held wait in the order in which
they came, and a release hands the lock straight to the first of them: it never looks free in
between, so nobody who comes later can overtake.
-/

namespace PushWake

/-- A lock, with the number of the activity that holds it and of those that wait for it. -/
structure Lock where
  holder : Option Nat := none
  waiting : List Nat := []
deriving DecidableEq, Repr, Inhabited

namespace Lock

/-- Takes the lock if it is free, and queues for it otherwise. -/
def request (l : Lock) (k : Nat) : Lock :=
  match l.holder with
  | none => { l with holder := some k }
  | some _ => { l with waiting := l.waiting ++ [k] }

/-- Whether an activity holds the lock. -/
def isHeldBy (l : Lock) (k : Nat) : Bool :=
  l.holder == some k

/-- Hands the lock to the first that waits; it is free if nobody does. -/
def release (l : Lock) : Lock :=
  match l.waiting with
  | [] => {}
  | k :: rest => ⟨some k, rest⟩

end Lock

end PushWake
