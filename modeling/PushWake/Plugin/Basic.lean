import PushWake.Json.Decode
import PushWake.Wallet.Error
/-!
# Plugins

Services beside the jobs that live as long as the connection. There is one kind: the relay of a
wallet-connect protocol.
-/

namespace PushWake

open Text Json

/-- The kinds of plugins. -/
inductive PluginKind where
  | nwc
deriving DecidableEq, Repr, Inhabited

namespace PluginKind

/-- The name of a kind in lines of text. -/
def text : PluginKind → String
  | nwc => "nwc"

/-- The name of a kind as a value. -/
def name : PluginKind → String
  | nwc => "Nwc"

/-- The kinds by name. -/
def named : List (String × PluginKind) := [("Nwc", nwc)]

/-- Reads a kind. -/
def decode : Decoder PluginKind := Decode.name named

end PluginKind

/-- Why a plugin failed. -/
inductive PluginError where
  | start (reason : String)
  | listener (error : SdkError)
deriving DecidableEq, Repr, Inhabited

namespace PluginError

/-- The error in words. -/
def message : PluginError → String
  | start reason => "Plugin start failed: " ++ reason
  | listener e => "Listener registration failed: " ++ e.message

/-- The error as a structured value. -/
def debug : PluginError → String
  | start reason => wrapped "Start" [quoted reason]
  | listener e => wrapped "Listener" [e.debug]

end PluginError

end PushWake
