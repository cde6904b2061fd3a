import PushWake.Digest.Sha256
import PushWake.Host.Basic
import PushWake.Text.Lowercase
import PushWake.Trigger.Basic
import PushWake.Wallet.Event
/-!
# Waiting for a swap

A push tells only the digest of the id of a swap. The job waits for a payment event whose swap has
this digest, or for the end of the service, whichever comes first: the first resolution counts, and
later ones are passed over. A job sees events before its body begins, so a resolution that comes
early is kept until then.
-/

namespace PushWake

/-- How a swap job ends: what the user is shown, and what becomes of the job. -/
structure Resolution where
  notification : Notification
  outcome : JobOutcome
deriving DecidableEq, Repr, Inhabited

namespace Resolution

/-- The payment came in. -/
def succeeded (amountSat : UInt64) : Resolution :=
  ⟨⟨"Payment succeeded", "Swap of " ++ toString amountSat.toNat ++ " sat completed"⟩, .completed⟩

/-- The payment waits for the chain. -/
def waitingConfirmation : Resolution :=
  ⟨⟨"Payment waiting confirmation", "Your swap is waiting for on-chain confirmation"⟩, .completed⟩

/-- The payment failed. -/
def failed (reason : String) : Resolution :=
  ⟨⟨"Swap failed", reason⟩, .failed reason⟩

/-- The service ends first. -/
def cancelled : Resolution :=
  ⟨⟨"Swap still pending", "Open the app to finish processing the swap"⟩,
    .failed "cancelled by shutdown"⟩

/-- The wallet could not be brought up to date. -/
def unsynced (error : SdkError) : Resolution :=
  ⟨⟨"Swap update failed", "Could not sync the wallet"⟩, .failed error.message⟩

/-- The resolution that an event brings to the swap it is about. -/
def ofEvent? : Event → Option Resolution
  | .synced => none
  | .waitingConfirmation _ => some waitingConfirmation
  | .succeeded _ amount => some (succeeded amount)
  | .failed _ reason => some (failed reason)

end Resolution

/-- How far a swap job has come. -/
inductive SwapPhase where
  /-- The body has not begun; a resolution may have come already. -/
  | pending (early : Option Resolution)
  /-- The body has begun and left its completer here. -/
  | waiting (completer : Nat)
  | done
deriving DecidableEq, Repr, Inhabited

/-- A job that waits for a swap. -/
structure SwapJob where
  /-- The digest in lower case. -/
  digest : String
  status : String
  phase : SwapPhase := .pending none
deriving DecidableEq, Repr, Inhabited

namespace SwapJob

/-- The job of a request. -/
def ofRequest (r : SwapUpdatedRequest) : SwapJob :=
  ⟨Text.lower r.id, r.status, .pending none⟩

/-- Whether an event is about the swap. -/
def concerns (j : SwapJob) (e : Event) : Bool :=
  match e.swapId? with
  | some id => Digest.sha256 id == j.digest
  | none => false

/-- The resolution that an event brings. -/
def resolution? (j : SwapJob) (e : Event) : Option Resolution :=
  if j.concerns e then Resolution.ofEvent? e else none

/-- Takes a resolution. Gives the completer that is to be used now, if the job was waiting. -/
def resolve (j : SwapJob) (r : Resolution) : SwapJob × Option Nat :=
  match j.phase with
  | .pending none => ({ j with phase := .pending (some r) }, none)
  | .waiting completer => ({ j with phase := .done }, some completer)
  | .pending (some _) => (j, none)
  | .done => (j, none)

/-- What the body finds when it begins. -/
inductive Beginning where
  /-- Nothing yet: the job waits. -/
  | waits
  /-- A resolution that came early. -/
  | resolved (early : Resolution)
  /-- Another body has begun before. -/
  | again
deriving DecidableEq, Repr, Inhabited

/-- Begins the body with a completer. -/
def start (j : SwapJob) (completer : Nat) : SwapJob × Beginning :=
  match j.phase with
  | .pending none => ({ j with phase := .waiting completer }, .waits)
  | .pending (some r) => ({ j with phase := .done }, .resolved r)
  | .waiting _ => (j, .again)
  | .done => (j, .again)

end SwapJob

end PushWake
