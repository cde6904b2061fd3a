import PushWake.Text.Quoted
/-!
# Errors of the wallet
-/

namespace PushWake

open Text

/-- What the wallet SDK answers instead of doing what it was asked for. -/
inductive SdkError where
  | connect (reason : String)
  | notConnected
  | generic (reason : String)
deriving DecidableEq, Repr, Inhabited

namespace SdkError

/-- The error in words. -/
def message : SdkError → String
  | connect reason => "Connect failed: " ++ reason
  | notConnected => "Not connected"
  | generic reason => "SDK call failed: " ++ reason

/-- The error as a structured value. -/
def debug : SdkError → String
  | connect reason => wrapped "Connect" [quoted reason]
  | notConnected => "NotConnected"
  | generic reason => wrapped "Generic" [quoted reason]

end SdkError

end PushWake
