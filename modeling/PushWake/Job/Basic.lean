import PushWake.Identity
import PushWake.Json.Decode
import PushWake.Json.Printer
import PushWake.Wallet.Error
/-!
# Jobs

A job is the work that one trigger starts. It is pending until its body runs, running from then on,
and over once it has an outcome.
-/

namespace PushWake

open Text Json

/-- What a job is for. -/
inductive JobKind where
  | swapUpdated
  | lnurlPayInfo
  | lnurlPayInvoice
deriving DecidableEq, Repr, Inhabited

namespace JobKind

/-- The name of a kind. -/
def name : JobKind → String
  | swapUpdated => "SwapUpdated"
  | lnurlPayInfo => "LnurlPayInfo"
  | lnurlPayInvoice => "LnurlPayInvoice"

/-- The kinds by name. -/
def named : List (String × JobKind) :=
  [("SwapUpdated", swapUpdated), ("LnurlPayInfo", lnurlPayInfo),
    ("LnurlPayInvoice", lnurlPayInvoice)]

/-- Reads a kind. -/
def decode : Decoder JobKind := Decode.name named

end JobKind

/-- How far a job has come. -/
inductive JobState where
  | pending
  | running
  | completed
  | failed
deriving DecidableEq, Repr, Inhabited

namespace JobState

/-- The name of a state. -/
def name : JobState → String
  | pending => "Pending"
  | running => "Running"
  | completed => "Completed"
  | failed => "Failed"

/-- The states by name. -/
def named : List (String × JobState) :=
  [("Pending", pending), ("Running", running), ("Completed", completed), ("Failed", failed)]

/-- Reads a state. -/
def decode : Decoder JobState := Decode.name named

end JobState

/-- What becomes of a job. -/
inductive JobOutcome where
  | completed
  | failed (reason : String)
deriving DecidableEq, Repr, Inhabited

namespace JobOutcome

/-- Whether the job did what it was for. -/
def isSuccess : JobOutcome → Bool
  | completed => true
  | failed _ => false

/-- The state that an outcome leaves a job in. -/
def finalState : JobOutcome → JobState
  | completed => .completed
  | failed _ => .failed

/-- The outcome as JSON. -/
def toJson : JobOutcome → Json
  | completed => .string "Completed"
  | failed reason => .object [("Failed", .string reason)]

/-- Reads an outcome. -/
def decode : Decoder JobOutcome :=
  Decode.choice [.plain "Completed" completed,
    .carrying "Failed" fun node => do pure (failed (← Decode.string node))]

/-- The outcome of a job whose completer went away unused. -/
def dropped : JobOutcome := failed "dropped without completing"

end JobOutcome

/-- Why the body of a job failed. -/
inductive JobError where
  | sdk (error : SdkError)
  | reply (reason : String)
  | invalidRequest (reason : String)
deriving DecidableEq, Repr, Inhabited

namespace JobError

/-- The error in words. -/
def message : JobError → String
  | sdk e => "SDK error: " ++ e.message
  | reply reason => "Reply failed: " ++ reason
  | invalidRequest reason => "Invalid request: " ++ reason

/-- The error as a structured value. -/
def debug : JobError → String
  | sdk e => wrapped "Sdk" [e.debug]
  | reply reason => wrapped "Reply" [quoted reason]
  | invalidRequest reason => wrapped "InvalidRequest" [quoted reason]

end JobError

namespace JobOutcome

/-- The outcome of a body that ran to its end. -/
def ofResult : Except JobError Unit → JobOutcome
  | .ok () => completed
  | .error e => failed e.message

end JobOutcome

end PushWake
