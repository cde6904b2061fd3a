import PushWake.Job.Basic
/-!
# Triggers

A push carries a kind and a payload. The payload is the request of that kind, either as a value or
as a string that holds its JSON text. A message may come as JSON text itself.
-/

namespace PushWake

open Text Json

/-- Why a message is no trigger. -/
inductive TriggerError where
  | unknownKind (kind : String)
  | malformed (kind : String) (reason : String)
deriving DecidableEq, Repr, Inhabited

namespace TriggerError

/-- The error in words. -/
def message : TriggerError → String
  | unknownKind kind => "Unrecognized trigger kind: " ++ kind
  | malformed kind reason => "Malformed " ++ kind ++ " payload: " ++ reason

/-- The error as a structured value. -/
def debug : TriggerError → String
  | unknownKind kind => wrapped "UnknownKind" [quoted kind]
  | malformed kind reason =>
    record "Malformed" [("kind", quoted kind), ("reason", quoted reason)]

end TriggerError

/-- A message as the push service delivers it. -/
structure TriggerMessage where
  kind : String
  payload : Json := .null
deriving Repr, Inhabited, BEq

namespace TriggerMessage

/-- The message as JSON. -/
def toJson (m : TriggerMessage) : Json :=
  .object [("kind", .string m.kind), ("payload", m.payload)]

/-- The message as JSON text. -/
def toText (m : TriggerMessage) : String := m.toJson.compact

/-- The message under way. -/
structure Draft where
  kind : Option String := none
  payload : Option Json := none

/-- The fields of a message. -/
def fields : List (Decode.Field Draft) :=
  [⟨"kind", fun d => d.kind.isSome,
      fun node d => do pure { d with kind := some (← Decode.string node) }, none⟩,
    ⟨"payload", fun d => d.payload.isSome,
      fun node d => do pure { d with payload := some (← node.toJson) }, some id⟩]

/-- Reads a message. Without a payload it carries null. -/
def decode : Decoder TriggerMessage :=
  Decode.record "struct TriggerMessage" fields {} fun d =>
    match d.kind with
    | some kind => .ok ⟨kind, d.payload.getD .null⟩
    | none => .error "kind"

/-- Reads a message from JSON text. -/
def ofText (s : String) : Except TriggerError TriggerMessage :=
  match Decode.text decode s with
  | .ok m => .ok m
  | .error e => .error (.malformed "message" e.message)

end TriggerMessage

/-- A swap changed its state. -/
structure SwapUpdatedRequest where
  /-- The hexadecimal digest of the id of the swap. -/
  id : String
  status : String
deriving DecidableEq, Repr, Inhabited

/-- A payer asks what can be paid. -/
structure PayInfoRequest where
  callbackUrl : String
  replyUrl : String
deriving DecidableEq, Repr, Inhabited

/-- A payer asks for an invoice. -/
structure PayInvoiceRequest where
  /-- The amount in thousandths of a satoshi. -/
  amount : UInt64
  replyUrl : String
deriving DecidableEq, Repr, Inhabited

namespace SwapUpdatedRequest

/-- The request under way. -/
structure Draft where
  id : Option String := none
  status : Option String := none

/-- The fields of the request. -/
def fields : List (Decode.Field Draft) :=
  [⟨"id", fun d => d.id.isSome,
      fun node d => do pure { d with id := some (← Decode.string node) }, none⟩,
    ⟨"status", fun d => d.status.isSome,
      fun node d => do pure { d with status := some (← Decode.string node) }, none⟩]

/-- Reads the request. -/
def decode : Decoder SwapUpdatedRequest :=
  Decode.record "struct SwapUpdatedRequest" fields {} fun d =>
    match d.id, d.status with
    | none, _ => .error "id"
    | _, none => .error "status"
    | some a, some b => .ok ⟨a, b⟩

/-- The request as JSON. -/
def toJson (r : SwapUpdatedRequest) : Json :=
  .object [("id", .string r.id), ("status", .string r.status)]

/-- The request as a structured value. -/
def debug (r : SwapUpdatedRequest) : String :=
  record "SwapUpdatedRequest" [("id", quoted r.id), ("status", quoted r.status)]

end SwapUpdatedRequest

namespace PayInfoRequest

/-- The request under way. -/
structure Draft where
  callbackUrl : Option String := none
  replyUrl : Option String := none

/-- The fields of the request. -/
def fields : List (Decode.Field Draft) :=
  [⟨"callback_url", fun d => d.callbackUrl.isSome,
      fun node d => do pure { d with callbackUrl := some (← Decode.string node) }, none⟩,
    ⟨"reply_url", fun d => d.replyUrl.isSome,
      fun node d => do pure { d with replyUrl := some (← Decode.string node) }, none⟩]

/-- Reads the request. -/
def decode : Decoder PayInfoRequest :=
  Decode.record "struct LnurlPayInfoRequest" fields {} fun d =>
    match d.callbackUrl, d.replyUrl with
    | none, _ => .error "callback_url"
    | _, none => .error "reply_url"
    | some a, some b => .ok ⟨a, b⟩

/-- The request as JSON. -/
def toJson (r : PayInfoRequest) : Json :=
  .object [("callback_url", .string r.callbackUrl), ("reply_url", .string r.replyUrl)]

/-- The request as a structured value. -/
def debug (r : PayInfoRequest) : String :=
  record "LnurlPayInfoRequest"
    [("callback_url", quoted r.callbackUrl), ("reply_url", quoted r.replyUrl)]

end PayInfoRequest

namespace PayInvoiceRequest

/-- The request under way. -/
structure Draft where
  amount : Option UInt64 := none
  replyUrl : Option String := none

/-- The fields of the request. -/
def fields : List (Decode.Field Draft) :=
  [⟨"amount", fun d => d.amount.isSome,
      fun node d => do pure { d with amount := some (← Decode.uint64 node) }, none⟩,
    ⟨"reply_url", fun d => d.replyUrl.isSome,
      fun node d => do pure { d with replyUrl := some (← Decode.string node) }, none⟩]

/-- Reads the request. -/
def decode : Decoder PayInvoiceRequest :=
  Decode.record "struct LnurlPayInvoiceRequest" fields {} fun d =>
    match d.amount, d.replyUrl with
    | none, _ => .error "amount"
    | _, none => .error "reply_url"
    | some a, some b => .ok ⟨a, b⟩

/-- The request as JSON. -/
def toJson (r : PayInvoiceRequest) : Json :=
  .object [("amount", .ofUInt64 r.amount), ("reply_url", .string r.replyUrl)]

/-- The request as a structured value. -/
def debug (r : PayInvoiceRequest) : String :=
  record "LnurlPayInvoiceRequest"
    [("amount", toString r.amount.toNat), ("reply_url", quoted r.replyUrl)]

end PayInvoiceRequest

/-- A request to do some work. -/
inductive Trigger where
  | swapUpdated (request : SwapUpdatedRequest)
  | lnurlPayInfo (request : PayInfoRequest)
  | lnurlPayInvoice (request : PayInvoiceRequest)
deriving DecidableEq, Repr, Inhabited

namespace Trigger

/-- The kinds of messages, by the name on the wire. -/
def named : List (String × JobKind) :=
  [("swap_updated", .swapUpdated), ("lnurlpay_info", .lnurlPayInfo),
    ("lnurlpay_invoice", .lnurlPayInvoice)]

/-- The request of a kind in a payload. -/
def decoder : JobKind → Decoder Trigger
  | .swapUpdated => fun node => (SwapUpdatedRequest.decode node).map swapUpdated
  | .lnurlPayInfo => fun node => (PayInfoRequest.decode node).map lnurlPayInfo
  | .lnurlPayInvoice => fun node => (PayInvoiceRequest.decode node).map lnurlPayInvoice

/-- Reads a payload in either of its shapes: the JSON text of a value, or the value. -/
def decodePayload {α : Type} (d : Decoder α) : Json → Except DecodeError α
  | .string inner => Decode.text d inner
  | payload => Decode.value d payload

/-- The trigger that a message carries. -/
def ofMessage (m : TriggerMessage) : Except TriggerError Trigger :=
  match named.find? fun n => n.1 == m.kind with
  | none => .error (.unknownKind m.kind)
  | some (_, kind) =>
    match decodePayload (decoder kind) m.payload with
    | .ok trigger => .ok trigger
    | .error e => .error (.malformed m.kind e.message)

/-- The kind of job that a trigger starts. -/
def kind : Trigger → JobKind
  | swapUpdated _ => .swapUpdated
  | lnurlPayInfo _ => .lnurlPayInfo
  | lnurlPayInvoice _ => .lnurlPayInvoice

/-- A trigger in a few words. -/
def summary : Trigger → String
  | swapUpdated r => "swap_updated (" ++ r.status ++ ")"
  | lnurlPayInfo _ => "lnurlpay_info"
  | lnurlPayInvoice r => "lnurlpay_invoice (" ++ toString r.amount.toNat ++ " msat)"

/-- The trigger as a structured value. -/
def debug : Trigger → String
  | swapUpdated r => wrapped "SwapUpdated" [r.debug]
  | lnurlPayInfo r => wrapped "LnurlPayInfo" [r.debug]
  | lnurlPayInvoice r => wrapped "LnurlPayInvoice" [r.debug]

/-- The fields of the request as JSON. -/
def requestJson : Trigger → Json
  | swapUpdated r => r.toJson
  | lnurlPayInfo r => r.toJson
  | lnurlPayInvoice r => r.toJson

end Trigger

end PushWake
