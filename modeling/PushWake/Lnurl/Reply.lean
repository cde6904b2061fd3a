import PushWake.Job.Basic
import PushWake.Lnurl.Metadata
import PushWake.Wallet.Session
/-!
# Replies to payers

A payer first asks what can be paid, in thousandths of a satoshi, and then for an invoice. What can
be received is known in satoshi, so limits are scaled up for the first reply and amounts are scaled
down for the second. A request that cannot be met is answered with the reason.
-/

namespace PushWake.Lnurl

/-- Thousandths in one. -/
def perSat : Nat := 1000

/-- An amount in thousandths of a satoshi, or the greatest amount there is. -/
def toMillisat (sat : UInt64) : UInt64 :=
  if sat.toNat * perSat < UInt64.size then UInt64.ofNat (sat.toNat * perSat)
  else UInt64.ofNat (UInt64.size - 1)

/-- Whole satoshi in an amount of thousandths. -/
def toSat (millisat : UInt64) : UInt64 :=
  UInt64.ofNat (millisat.toNat / perSat)

/-- What can be paid. -/
def infoReply (callback : String) (limits : ReceiveLimits) (description : String) : Json :=
  .object [("callback", .string callback), ("maxSendable", .ofUInt64 (toMillisat limits.maxSat)),
    ("metadata", .string (metadata description)),
    ("minSendable", .ofUInt64 (toMillisat limits.minSat)), ("tag", .string "payRequest")]

/-- An invoice, without routes. -/
def invoiceReply (invoice : Invoice) : Json :=
  .object [("pr", .string invoice.bolt11), ("routes", .array [])]

/-- Why a request cannot be met. -/
def errorReply (error : JobError) : Json :=
  .object [("reason", .string error.message), ("status", .string "ERROR")]

/-- The amount to be received in satoshi, if the limits allow it. -/
def accept (limits : ReceiveLimits) (millisat : UInt64) : Except JobError UInt64 :=
  let sat := toSat millisat
  if sat < limits.minSat || sat > limits.maxSat then
    .error (.invalidRequest ("Amount " ++ toString sat.toNat ++ " sat outside of [" ++
      toString limits.minSat.toNat ++ ", " ++ toString limits.maxSat.toNat ++ "]"))
  else .ok sat

end PushWake.Lnurl
