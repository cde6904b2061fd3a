import PushWake.Job.Basic
import PushWake.Scheduler.Basic
/-!
# The set of jobs

A job is in the set from its registration until its completer was used or went away. What a change
of the set means for the deadlines is decided in the same step as the change itself: a new job
starts the hard limit over, and the departure of the last one starts the delay. The set is closed
once the service begins to end. A closed set takes no job, and tells the scheduler nothing.
-/

namespace PushWake

/-- A member of the set. -/
structure JobEntry where
  id : Identity
  kind : JobKind
  state : JobState
deriving DecidableEq, Repr, Inhabited

/-- The jobs that are under way, in the order of their registration. -/
structure JobSet where
  entries : List JobEntry := []
  closed : Bool := false
deriving DecidableEq, Repr, Inhabited

namespace JobSet

/-- What an operation on the set leaves: the set, whether it did anything, and what the scheduler is
to be told. -/
structure Change where
  set : JobSet
  done : Bool
  command : Option SchedulerCommand := none
deriving DecidableEq, Repr, Inhabited

/-- Nothing happened. -/
def unchanged (s : JobSet) : Change := ⟨s, false, none⟩

/-- The member of an identity. -/
def find? (s : JobSet) (id : Identity) : Option JobEntry :=
  s.entries.find? fun e => e.id == id

/-- Registers a job. -/
def add (s : JobSet) (id : Identity) (kind : JobKind) : Change :=
  if s.closed then s.unchanged
  else ⟨{ s with entries := s.entries ++ [⟨id, kind, .pending⟩] }, true, some .reset⟩

/-- The entries with the first of an identity running, if it was pending. -/
def startFirst (id : Identity) : List JobEntry → Option (List JobEntry)
  | [] => none
  | e :: rest =>
    if e.id == id then
      if e.state == .pending then some ({ e with state := .running } :: rest) else none
    else (startFirst id rest).map (e :: ·)

/-- Notes that the body of a job has begun. -/
def markRunning (s : JobSet) (id : Identity) : Change :=
  match startFirst id s.entries with
  | some entries => ⟨{ s with entries }, true, none⟩
  | none => s.unchanged

/-- The command that an empty set asks for, as long as it is open. -/
def commandIfEmpty (s : JobSet) : Option SchedulerCommand :=
  if s.entries.isEmpty && !s.closed then some .armEmptyDelay else none

/-- Takes a job out. -/
def remove (s : JobSet) (id : Identity) : Change :=
  match s.find? id with
  | none => s.unchanged
  | some _ =>
    let left := { s with entries := s.entries.eraseP fun e => e.id == id }
    ⟨left, true, left.commandIfEmpty⟩

/-- Starts the delay if there is no job. -/
def armIfEmpty (s : JobSet) : Change :=
  match s.commandIfEmpty with
  | some command => ⟨s, true, some command⟩
  | none => s.unchanged

/-- Closes the set. Whoever closes it owes its members a signal. -/
def close (s : JobSet) : Change :=
  if s.closed then s.unchanged else ⟨{ s with closed := true }, true, none⟩

/-- Closes the set if it has no members. -/
def closeIfEmpty (s : JobSet) : Change :=
  if s.closed || !s.entries.isEmpty then s.unchanged
  else ⟨{ s with closed := true }, true, none⟩

/-- The identities of the members. -/
def ids (s : JobSet) : List Identity := s.entries.map JobEntry.id

end JobSet

end PushWake
