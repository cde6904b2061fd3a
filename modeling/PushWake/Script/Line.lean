import PushWake.Text.Blank
import PushWake.Trigger.Basic
import PushWake.Wallet.Event
/-!
# Lines of a script

A script drives a simulated run line by line. Blank lines and comments say nothing. Any other line
is a JSON value, which is set aside and then taken for the first of three things that it fits: a
sleep, an event of the wallet, or a trigger.
-/

namespace PushWake

open Json

/-- What a line of a script says. -/
inductive ScriptLine where
  | sleep (milliseconds : UInt64)
  | event (event : Event)
  | trigger (message : TriggerMessage)
deriving Repr, Inhabited, BEq

namespace ScriptLine

/-- The one field of a sleep. -/
def sleepFields : List (Decode.Field (Option UInt64)) :=
  [⟨"sleep_ms", Option.isSome, fun node _ => do pure (some (← Decode.uint64 node)), none⟩]

/-- Reads a sleep. -/
def decodeSleep : Decoder UInt64 :=
  Decode.record "struct variant ScriptLine::Sleep" sleepFields none
    (Option.elim · (.error "sleep_ms") .ok)

/-- The one field of an event. -/
def eventFields : List (Decode.Field (Option Event)) :=
  [⟨"event", Option.isSome, fun node _ => do pure (some (← Event.decode node)), none⟩]

/-- Reads an event. -/
def decodeEvent : Decoder Event :=
  Decode.record "struct variant ScriptLine::Event" eventFields none
    (Option.elim · (.error "event") .ok)

/-- Whether a node is an object. -/
def isObject : Node → Bool
  | .object .. => true
  | _ => false

/-- What a node set aside says: the first thing that it fits. -/
def ofBuffered? (node : Node) : Option ScriptLine :=
  let sleep? := if isObject node then (decodeSleep node).toOption else none
  let event? := if isObject node then (decodeEvent node).toOption else none
  match sleep?, event?, (TriggerMessage.decode node).toOption with
  | some ms, _, _ => some (sleep ms)
  | none, some e, _ => some (event e)
  | none, none, some m => some (trigger m)
  | none, none, none => none

/-- Reads what a line says. -/
def decode : Decoder ScriptLine := fun node => do
  let node ← node.buffered
  match ofBuffered? node with
  | some line => pure line
  | none => .error ⟨.noVariantFits "ScriptLine", none⟩

/-- A line that could not be read, without the blanks around it. -/
structure Error where
  line : String
  cause : DecodeError
deriving DecidableEq, Repr, Inhabited

namespace Error

/-- The error in words, with its cause. -/
def message (e : Error) : String :=
  "Unrecognized script line: " ++ e.line ++ ": " ++ e.cause.message

end Error

/-- Reads a line; blank lines and comments say nothing. -/
def ofText (line : String) : Except Error (Option ScriptLine) :=
  match Text.trimChars line.toList with
  | [] => .ok none
  | '#' :: _ => .ok none
  | cs =>
    let line := String.ofList cs
    match Decode.text decode line with
    | .ok parsed => .ok (some parsed)
    | .error e => .error ⟨line, e⟩

end ScriptLine

end PushWake
