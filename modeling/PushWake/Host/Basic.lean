import PushWake.Json.Decode
import PushWake.Json.Printer
/-!
# The host

What the host is asked to show, and why it is told to let the process end.
-/

namespace PushWake

open Json

/-- A message shown to the user. -/
structure Notification where
  title : String
  body : String
deriving DecidableEq, Repr, Inhabited

namespace Notification

/-- The notification as JSON. -/
def toJson (n : Notification) : Json :=
  .object [("title", .string n.title), ("body", .string n.body)]

/-- The notification under way. -/
structure Draft where
  title : Option String := none
  body : Option String := none

/-- The fields of a notification. -/
def fields : List (Decode.Field Draft) :=
  [⟨"title", fun d => d.title.isSome,
      fun node d => do pure { d with title := some (← Decode.string node) }, none⟩,
    ⟨"body", fun d => d.body.isSome,
      fun node d => do pure { d with body := some (← Decode.string node) }, none⟩]

/-- Reads a notification. -/
def decode : Decoder Notification :=
  Decode.record "struct Notification" fields {} fun d =>
    match d.title, d.body with
    | none, _ => .error "title"
    | _, none => .error "body"
    | some a, some b => .ok ⟨a, b⟩

end Notification

/-- Why the service ends. -/
inductive ShutdownReason where
  /-- The hard limit since the latest trigger is over. -/
  | serviceTimeout
  /-- There has been no job for the whole delay. -/
  | emptyDelay
  /-- The host asked for it. -/
  | requested
deriving DecidableEq, Repr, Inhabited

namespace ShutdownReason

/-- The name of a reason. -/
def name : ShutdownReason → String
  | serviceTimeout => "ServiceTimeout"
  | emptyDelay => "EmptyDelay"
  | requested => "Requested"

/-- The reason in words. -/
def text : ShutdownReason → String
  | serviceTimeout => "service timeout"
  | emptyDelay => "empty delay"
  | requested => "requested"

/-- The reasons by name. -/
def named : List (String × ShutdownReason) :=
  [("ServiceTimeout", serviceTimeout), ("EmptyDelay", emptyDelay), ("Requested", requested)]

/-- Reads a reason. -/
def decode : Decoder ShutdownReason := Decode.name named

end ShutdownReason

end PushWake
