import PushWake.Identity
import PushWake.Lock
import PushWake.Text.Quoted
/-!
# The shared connection

There is at most one live session. Whoever wants it takes the slot's lock first, so the check
whether there is a session and the opening of one belong together, and of several who ask at once
only the first opens it.
-/

namespace PushWake

open Text

/-- A handle to a session. Two handles are the same if their identities are. -/
structure Connection where
  id : Identity
  session : Nat
deriving DecidableEq, Repr, Inhabited

namespace Connection

/-- The connection as a structured value. -/
def debug (c : Connection) : String :=
  record "Connection" [("id", c.id.text)]

end Connection

/-- How the connection stands. -/
inductive ConnectionState where
  | disconnected
  | connecting
  | connected
deriving DecidableEq, Repr, Inhabited

namespace ConnectionState

/-- The name of a state. -/
def name : ConnectionState → String
  | disconnected => "Disconnected"
  | connecting => "Connecting"
  | connected => "Connected"

end ConnectionState

/-- A live session with the listener that was registered on it. -/
structure LiveSession where
  connection : Connection
  listener : Nat
deriving DecidableEq, Repr, Inhabited

/-- The slot of the shared session. -/
structure ConnectionHub where
  live : Option LiveSession := none
  /-- A closed hub opens nothing. -/
  closed : Bool := false
  state : ConnectionState := .disconnected
  lock : Lock := {}
  /-- How many sessions have been opened. -/
  opened : Nat := 0
deriving DecidableEq, Repr, Inhabited

end PushWake
