import PushWake.Proofs.SetOperations

/-!
# The deadlines to come

The scheduler deals with its commands one by one and some time after they were sent. What it will
hold in the end is decided when they are sent: whether a deadline is set depends on the commands and
not on when they are dealt with. So the deadlines to come can be followed through a run as if every
command took effect at once, and the scheduler itself changes nothing of them.
-/

namespace PushWake

/-! ## Whether deadlines are set -/

/-- Which of the two deadlines are set. -/
structure Marks where
  service : Bool
  empty : Bool
deriving DecidableEq, Repr

/-- Which deadlines a scheduler holds. -/
def Scheduler.marks (s : Scheduler) : Marks := ⟨s.service.isSome, s.empty.isSome⟩

/-- What a command does to the deadlines, whenever it is dealt with. -/
def SchedulerCommand.mark : SchedulerCommand → Marks → Marks
  | .reset, _ => ⟨true, false⟩
  | .armEmptyDelay, m => ⟨m.service, m.empty || m.service⟩
  | .cancel, m => m

@[simp] theorem Scheduler.publish_service (s : Scheduler) : s.publish.service = s.service := by
  unfold publish
  split <;> rfl

@[simp] theorem Scheduler.publish_empty (s : Scheduler) : s.publish.empty = s.empty := by
  unfold publish
  split <;> rfl

/-- The delay that runs out is one that was set. -/
theorem Scheduler.reached_of_due {s : Scheduler} {now : Nat} (h : s.due? now = some .empty) :
    ∃ d, s.empty = some d ∧ d ≤ now := by
  unfold due? at h
  split at h
  · cases h
  · split at h
    · rename_i hreached
      unfold isReached at hreached
      split at hreached
      · rename_i d hd
        exact ⟨d, hd, of_decide_eq_true hreached⟩
      · cases hreached
    · cases h

theorem Scheduler.marks_obey (s : Scheduler) (t : Timeouts) (now : Nat) (c : SchedulerCommand) :
    (s.obey t now c).marks = c.mark s.marks := by
  cases c with
  | reset => simp [obey, reset, marks, SchedulerCommand.mark]
  | armEmptyDelay =>
    cases hs : s.service with
    | none => simp [obey, arm, marks, SchedulerCommand.mark, hs]
    | some d => simp [obey, arm, marks, SchedulerCommand.mark, hs]
  | cancel => rfl

namespace Service

variable {W : Type} {env : Collaborators W} {s s' : Service W} {k : Nat}

/-- The scheduler once it has dealt with the commands that wait for it, if it did so now. -/
def foreseen (s : Service W) : Scheduler :=
  s.commands.foldl (fun scheduler c => scheduler.obey s.config.timeouts s.now c) s.scheduler

/-- Which deadlines will be set. -/
def outlook (s : Service W) : Marks :=
  s.commands.foldl (fun m c => c.mark m) s.scheduler.marks

theorem marks_foreseen : s.foreseen.marks = s.outlook := by
  unfold foreseen outlook
  generalize s.scheduler = scheduler
  induction s.commands generalizing scheduler with
  | nil => rfl
  | cons c cs ih => rw [List.foldl_cons, List.foldl_cons, ih, Scheduler.marks_obey]

/-! ## Sending -/

theorem send_commands (c : SchedulerCommand) (h : s.inboxOpen = true) :
    (s.send c).commands = s.commands ++ [c] := by
  obtain ⟨_, _, he⟩ := s.send_eq c
  rw [he]
  exact if_pos h

/-- A command takes effect on the outlook when it is sent. -/
theorem outlook_send (c : SchedulerCommand) (h : s.inboxOpen = true) :
    (s.send c).outlook = c.mark s.outlook := by
  obtain ⟨_, _, he⟩ := s.send_eq c
  unfold outlook
  rw [send_commands c h, List.foldl_append]
  rw [he]
  rfl

/-! ## Dealing with commands -/

/-- Dealing with a command brings nothing that was not to be expected. -/
theorem outlook_obey {c : SchedulerCommand} {rest : List SchedulerCommand}
    (hc : s.commands = c :: rest) (hrest : s'.commands = rest)
    (hs : s'.scheduler = s.scheduler.obey s.config.timeouts s.now c) : s'.outlook = s.outlook := by
  rw [outlook, outlook, hrest, hs, hc, List.foldl_cons, Scheduler.marks_obey]

/-- With nothing left to deal with, the outlook is what the scheduler holds. -/
theorem outlook_of_nil (hc : s.commands = []) : s.outlook = s.scheduler.marks := by
  rw [outlook, hc, List.foldl_nil]

end Service

end PushWake
