import PushWake.Wallet.Error
/-!
# Why there is no connection
-/

namespace PushWake

open Text

/-- Why a connection could not be had. -/
inductive ConnectionError where
  | missingCredentials
  | credentials (reason : String)
  | sdk (error : SdkError)
  | listener (error : SdkError)
  | closed
deriving DecidableEq, Repr, Inhabited

namespace ConnectionError

/-- The error in words. -/
def message : ConnectionError → String
  | missingCredentials => "No wallet credentials available"
  | credentials reason => "Credential storage error: " ++ reason
  | sdk e => "SDK error: " ++ e.message
  | listener e => "Failed to register event listener: " ++ e.message
  | closed => "Connection manager is closed"

/-- The error as a structured value. -/
def debug : ConnectionError → String
  | missingCredentials => "MissingCredentials"
  | credentials reason => wrapped "Credentials" [quoted reason]
  | sdk e => wrapped "Sdk" [e.debug]
  | listener e => wrapped "Listener" [e.debug]
  | closed => "Closed"

end ConnectionError

end PushWake
