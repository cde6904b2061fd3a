import PushWake.Host.Basic
import PushWake.Json.Printer
import PushWake.Log.Basic
/-!
# The console as a host

What the host shows on a terminal without colours: notifications, replies to addresses that nobody
can be reached at, the end of the service, and lines of the log.
-/

namespace PushWake.Console

/-- A notification. -/
def notification (n : Notification) : String :=
  "🔔 " ++ n.title ++ ": " ++ n.body

/-- A reply. -/
def reply (url : String) (body : Json) : String :=
  "↩ " ++ url ++ " " ++ body.compact

/-- The end of the service. -/
def shutdown (reason : ShutdownReason) : String :=
  "■ Service stopped (" ++ reason.text ++ ")"

/-- A text with blanks after it, up to a length. -/
def padded (length : Nat) (s : String) : String :=
  s ++ String.ofList (List.replicate (length - s.length) ' ')

/-- A line of the log, with its end. -/
def logLine (line : LogLine) : String :=
  padded 5 line.level.text ++ " [" ++ line.tag ++ "] " ++ line.message ++ "\n"

end PushWake.Console
