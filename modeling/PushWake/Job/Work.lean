import PushWake.Job.Swap
/-!
# The work of a job

Each kind of trigger has its kind of work. Only the work on a swap has a state between the steps of
its body, because events reach it from outside.
-/

namespace PushWake

/-- What there is to do. -/
inductive JobWork where
  | swap (job : SwapJob)
  | payInfo (request : PayInfoRequest)
  | payInvoice (request : PayInvoiceRequest)
deriving DecidableEq, Repr, Inhabited

namespace JobWork

/-- The work that a trigger asks for. -/
def ofTrigger : Trigger → JobWork
  | .swapUpdated r => swap (SwapJob.ofRequest r)
  | .lnurlPayInfo r => payInfo r
  | .lnurlPayInvoice r => payInvoice r

/-- The kind of a piece of work. -/
def kind : JobWork → JobKind
  | swap _ => .swapUpdated
  | payInfo _ => .lnurlPayInfo
  | payInvoice _ => .lnurlPayInvoice

end JobWork

end PushWake
