import PushWake.Connection.Basic
import PushWake.Plugin.Basic
/-!
# The plugins that run

One plugin of a kind runs at a time. Starting and stopping take the shelf's lock. Once the shelf has
been stopped nothing starts again.
-/

namespace PushWake

open Text

/-- A plugin that runs: its number, the connection it was made for, and its listener there. -/
structure PluginHandle where
  plugin : Nat
  connection : Connection
  listener : Nat
deriving DecidableEq, Repr, Inhabited

namespace PluginHandle

/-- The kind of a plugin. -/
def kind (_ : PluginHandle) : PluginKind := .nwc

/-- Whether two handles are for one plugin. -/
def isSame (a b : PluginHandle) : Bool := a.plugin == b.plugin

/-- The handle as a structured value, given how listeners are called. -/
def debug (listenerName : Nat → String) (h : PluginHandle) : String :=
  record "PluginHandle" [("kind", h.kind.name), ("connection", h.connection.debug),
    ("listener_id", quoted (listenerName h.listener))]

end PluginHandle

/-- The plugins that run. -/
structure PluginShelf where
  running : Option PluginHandle := none
  stopped : Bool := false
  lock : Lock := {}
  /-- How many plugins have been made. -/
  created : Nat := 0
deriving DecidableEq, Repr, Inhabited

end PushWake
