import PushWake.Config.Basic
import PushWake.Connection.Error
import PushWake.Trigger.Basic
/-!
# Why the service refuses
-/

namespace PushWake

open Text

/-- Why the service did not start, or did not take a trigger. -/
inductive ServiceError where
  | config (error : ConfigError)
  | trigger (error : TriggerError)
  | connection (error : ConnectionError)
  | shutDown
deriving DecidableEq, Repr, Inhabited

namespace ServiceError

/-- The error in words. -/
def message : ServiceError → String
  | config e => "Invalid configuration: " ++ e.message
  | trigger e => e.message
  | connection e => "Connection unavailable: " ++ e.message
  | shutDown => "Service is shut down"

/-- The error as a structured value. -/
def debug : ServiceError → String
  | config e => wrapped "Config" [e.debug]
  | trigger e => wrapped "Trigger" [e.debug]
  | connection e => wrapped "Connection" [e.debug]
  | shutDown => "ShutDown"

end ServiceError

end PushWake
