import PushWake.Json.Decode
/-!
# Log lines

Every part of the service tells what it does in lines of text. A line carries a level and the tag of
the part that it comes from. Structured events become lines too: the message comes first, the other
fields follow as `name=value`.
-/

namespace PushWake

open Text Json

/-- How grave a line is. -/
inductive LogLevel where
  | error
  | warn
  | info
  | debug
  | trace
deriving DecidableEq, Repr, Inhabited

namespace LogLevel

/-- The level in capitals, as it is shown. -/
def text : LogLevel → String
  | error => "ERROR"
  | warn => "WARN"
  | info => "INFO"
  | debug => "DEBUG"
  | trace => "TRACE"

/-- The name of a level. -/
def name : LogLevel → String
  | error => "Error"
  | warn => "Warn"
  | info => "Info"
  | debug => "Debug"
  | trace => "Trace"

/-- The levels by name, the gravest first. -/
def named : List (String × LogLevel) :=
  [("Error", error), ("Warn", warn), ("Info", info), ("Debug", debug), ("Trace", trace)]

/-- Reads a level. -/
def decode : Decoder LogLevel := Decode.name named

end LogLevel

/-- A line of the log. -/
structure LogLine where
  tag : String
  level : LogLevel
  message : String
deriving DecidableEq, Repr, Inhabited

/-- The value of a field of a structured event. -/
inductive FieldValue where
  /-- Taken as it is. -/
  | plain (s : String)
  /-- Written as a structured value first. -/
  | structured (s : String)
  /-- A floating-point number. -/
  | float (x : Decimal.Binary64)
  /-- Declared and never given. -/
  | missing
deriving DecidableEq, Repr, Inhabited

namespace FieldValue

/-- Floats are written out from `0.0001` up to sixteen digits before the point. -/
def floatFormat : Decimal.FloatFormat := ⟨-4, 15, .bare⟩

/-- The text of a value, if it has one. -/
def text? : FieldValue → Option String
  | plain s => some s
  | structured s => some (quoted s)
  | float x => some (floatFormat.render x)
  | missing => none

end FieldValue

/-- A structured event: the path of its origin, and its fields in order. -/
structure LogEvent where
  target : String
  level : LogLevel
  fields : List (String × FieldValue)
deriving Repr, Inhabited

namespace LogEvent

/-- What stands after the last `::` of a path, from its characters in reverse. -/
def lastSegment : List Char → List Char → List Char
  | segment, [] => segment
  | segment, ':' :: ':' :: _ => segment
  | segment, c :: rest => lastSegment (c :: segment) rest

/-- The last segment of a path whose segments are set off by `::`. -/
def tagOf (target : String) : String :=
  String.ofList (lastSegment [] target.toList.reverse)

/-- The last value given for the message; empty if there is none. -/
def messageOf (fields : List (String × FieldValue)) : String :=
  fields.foldl (fun message field =>
    if field.1 == "message" then field.2.text?.getD message else message) ""

/-- The other fields that have a value, as `name=value`. -/
def pairsOf (fields : List (String × FieldValue)) : List String :=
  fields.filterMap fun field =>
    if field.1 == "message" then none else field.2.text?.map fun v => field.1 ++ "=" ++ v

/-- The line of an event. -/
def toLine (e : LogEvent) : LogLine :=
  let message := messageOf e.fields
  let pairs := pairsOf e.fields
  let text :=
    if pairs.isEmpty then message
    else if message.isEmpty then String.intercalate " " pairs
    else message ++ " " ++ String.intercalate " " pairs
  ⟨tagOf e.target, e.level, text⟩

end LogEvent

end PushWake
