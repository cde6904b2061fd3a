import PushWake.Config.Basic
import PushWake.Host.Basic
/-!
# When the service ends by itself

Two deadlines run side by side. The hard limit is counted from the latest trigger. The delay is
counted from the moment the last job left, and new work calls it off. Commands set the deadlines in
the order in which they were sent. The state that others see is published on its own: it changes
only when a command or a deadline has been dealt with.
-/

namespace PushWake

/-- What the scheduler is told. -/
inductive SchedulerCommand where
  /-- There is new work: the hard limit starts over, and the delay is called off. -/
  | reset
  /-- The last job is gone: the delay starts. -/
  | armEmptyDelay
  /-- Nobody is interested any more. -/
  | cancel
deriving DecidableEq, Repr, Inhabited

namespace SchedulerCommand

/-- The name of a command. -/
def name : SchedulerCommand → String
  | reset => "Reset"
  | armEmptyDelay => "ArmEmptyDelay"
  | cancel => "Cancel"

end SchedulerCommand

/-- What others see of the scheduler. -/
inductive SchedulerState where
  | idle
  | armed (service : Nat) (empty : Option Nat)
  | fired (reason : ShutdownReason)
  | cancelled
deriving DecidableEq, Repr, Inhabited

/-- The two deadlines, and the published state. -/
structure Scheduler where
  /-- The end of the hard limit. -/
  service : Option Nat := none
  /-- The end of the delay. -/
  empty : Option Nat := none
  state : SchedulerState := .idle
deriving DecidableEq, Repr, Inhabited

/-- The deadlines by name. -/
inductive Deadline where
  | service
  | empty
deriving DecidableEq, Repr, Inhabited

namespace Scheduler

/-- Publishes the deadlines, once the hard limit runs. -/
def publish (s : Scheduler) : Scheduler :=
  match s.service with
  | some service => { s with state := .armed service s.empty }
  | none => s

/-- Starts the hard limit over and calls the delay off. -/
def reset (t : Timeouts) (now : Nat) (s : Scheduler) : Scheduler :=
  publish { s with service := some (now + t.serviceMs.toNat), empty := none }

/-- Starts the delay, if the hard limit runs. -/
def arm (t : Timeouts) (now : Nat) (s : Scheduler) : Scheduler :=
  match s.service with
  | some _ => publish { s with empty := some (now + t.emptyDelayMs.toNat) }
  | none => s

/-- The state left behind by a cancelled scheduler. -/
def cancel (s : Scheduler) : Scheduler :=
  { s with state := .cancelled }

/-- Deals with a command. -/
def obey (t : Timeouts) (now : Nat) (s : Scheduler) : SchedulerCommand → Scheduler
  | .reset => s.reset t now
  | .armEmptyDelay => s.arm t now
  | .cancel => s.cancel

/-- Whether a deadline has been reached. -/
def isReached (now : Nat) : Option Nat → Bool
  | some t => decide (t ≤ now)
  | none => false

/-- The deadline to deal with; of two, the hard limit. -/
def due? (now : Nat) (s : Scheduler) : Option Deadline :=
  if isReached now s.service then some .service
  else if isReached now s.empty then some .empty
  else none

/-- The delay is over. -/
def forgetEmpty (s : Scheduler) : Scheduler :=
  { s with empty := none }

/-- Publishes why the service ends. -/
def fire (reason : ShutdownReason) (s : Scheduler) : Scheduler :=
  { s with state := .fired reason }

/-- The earlier of two times, where there are any. -/
def earlier : Option Nat → Option Nat → Option Nat
  | some a, some b => some (min a b)
  | some a, none => some a
  | none, b => b

/-- The next deadline. -/
def next? (s : Scheduler) : Option Nat :=
  earlier s.service s.empty

end Scheduler

end PushWake
