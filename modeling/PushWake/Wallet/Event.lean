import PushWake.Json.Decode
import PushWake.Json.Printer
/-!
# Wallet events

What a live wallet session reports. An event is written as an object whose member `type` names it;
it is read from such an object, wherever `type` stands in it, or from an array that starts with the
name. Everything but the name is set aside until the name is known, so complaints about the rest
carry no position.
-/

namespace PushWake

open Text Json

/-- An event of a live session. -/
inductive Event where
  | synced
  | waitingConfirmation (swapId : String)
  | succeeded (swapId : String) (amountSat : UInt64)
  | failed (swapId : String) (reason : String)
deriving DecidableEq, Repr, Inhabited

namespace Event

/-- The swap that the event is about, if any. -/
def swapId? : Event → Option String
  | synced => none
  | waitingConfirmation id => some id
  | succeeded id _ => some id
  | failed id _ => some id

/-- The event as a structured value. -/
def debug : Event → String
  | synced => "Synced"
  | waitingConfirmation id => record "PaymentWaitingConfirmation" [("swap_id", quoted id)]
  | succeeded id amount =>
    record "PaymentSucceeded" [("swap_id", quoted id), ("amount_sat", toString amount.toNat)]
  | failed id reason => record "PaymentFailed" [("swap_id", quoted id), ("reason", quoted reason)]

/-- The event as JSON. -/
def toJson : Event → Json
  | synced => .object [("type", .string "synced")]
  | waitingConfirmation id =>
    .object [("type", .string "payment_waiting_confirmation"), ("swap_id", .string id)]
  | succeeded id amount =>
    .object [("type", .string "payment_succeeded"), ("swap_id", .string id),
      ("amount_sat", .ofUInt64 amount)]
  | failed id reason =>
    .object [("type", .string "payment_failed"), ("swap_id", .string id),
      ("reason", .string reason)]

/-- The kinds of events, before their content is read. -/
inductive Tag where
  | synced
  | waitingConfirmation
  | succeeded
  | failed
deriving DecidableEq, Repr, Inhabited

namespace Tag

/-- The kinds by name. -/
def named : List (String × Tag) :=
  [("synced", synced), ("payment_waiting_confirmation", waitingConfirmation),
    ("payment_succeeded", succeeded), ("payment_failed", failed)]

/-- The kind of a number, in the order of the names. -/
def ofNumber (n : UInt64) : Except DecodeError Tag :=
  match named[n.toNat]? with
  | some (_, tag) => .ok tag
  | none => .error (.here .buffer (.wrongValue (.number (.natural n))
      ("variant index 0 <= i < " ++ toString named.length)))

/-- The kind that a node names. In a value set aside, a kind may also be given by its number. -/
def decode : Decoder Tag
  | .leaf _ .buffer (.number (.ok (.natural n))) => ofNumber n
  | .leaf _ stop (.string s) => do
    let name ← orFault s
    match named.find? fun n => n.1 == name with
    | some (_, tag) => pure tag
    | none => .error (.here stop (.unknownVariant name (named.map Prod.fst)))
  | node => .error (node.mismatch "variant identifier")

end Tag

/-- The content of an event under way. -/
structure Draft where
  swapId : Option String := none
  amountSat : Option UInt64 := none
  reason : Option String := none

namespace Draft

/-- The swap id. -/
def swapIdField : Decode.Field Draft :=
  ⟨"swap_id", fun d => d.swapId.isSome,
    fun node d => do pure { d with swapId := some (← Decode.string node) }, none⟩

/-- The amount. -/
def amountField : Decode.Field Draft :=
  ⟨"amount_sat", fun d => d.amountSat.isSome,
    fun node d => do pure { d with amountSat := some (← Decode.uint64 node) }, none⟩

/-- The reason. -/
def reasonField : Decode.Field Draft :=
  ⟨"reason", fun d => d.reason.isSome,
    fun node d => do pure { d with reason := some (← Decode.string node) }, none⟩

/-- The swap id, or its name if it is missing. -/
def needSwapId (d : Draft) : Except String String :=
  match d.swapId with
  | some id => .ok id
  | none => .error "swap_id"

/-- The amount, or its name if it is missing. -/
def needAmount (d : Draft) : Except String UInt64 :=
  match d.amountSat with
  | some n => .ok n
  | none => .error "amount_sat"

/-- The reason, or its name if it is missing. -/
def needReason (d : Draft) : Except String String :=
  match d.reason with
  | some r => .ok r
  | none => .error "reason"

end Draft

/-- Reads the content of an event of a known kind. An event without content passes over members, but
takes no items. -/
def decodeContent : Tag → Decoder Event
  | .synced, node =>
    match node with
    | .array start _ _ nodes closing => do
      Decode.checkNoMore start 0 nodes.length closing nodes
      pure synced
    | _ => .ok synced
  | .waitingConfirmation, node =>
    Decode.record "struct variant SdkEvent::PaymentWaitingConfirmation" [Draft.swapIdField] {}
      (fun d => do pure (waitingConfirmation (← d.needSwapId))) node
  | .succeeded, node =>
    Decode.record "struct variant SdkEvent::PaymentSucceeded"
      [Draft.swapIdField, Draft.amountField] {}
      (fun d => do pure (succeeded (← d.needSwapId) (← d.needAmount))) node
  | .failed, node =>
    Decode.record "struct variant SdkEvent::PaymentFailed" [Draft.swapIdField, Draft.reasonField] {}
      (fun d => do pure (failed (← d.needSwapId) (← d.needReason))) node

/-- Takes the kind out of the members of an object and sets the others aside. -/
def splitMembers : Option Tag → List (Key × Node × Place) →
    Except DecodeError (Option Tag × List (Key × Node × Place))
  | tag, [] => .ok (tag, [])
  | tag, (key, value, _) :: rest => do
    let name ← orFault key.name
    if name == "type" then
      if tag.isSome then .error (.here key.resume (.duplicateField "type"))
      else splitMembers (some (← Tag.decode value)) rest
    else
      let value ← value.buffered
      let (tag, rest) ← splitMembers tag rest
      pure (tag, (⟨.ok name, .buffer, .buffer⟩, value, .buffer) :: rest)

/-- Reads an event. -/
def decode : Decoder Event
  | .object _ _ tooDeep members closing => do
    checkDepth tooDeep
    let (tag, members) ← splitMembers none members
    closing.check
    match tag with
    | none => .error (.here closing.stop (.missingField "type"))
    | some tag => decodeContent tag (.object .buffer .buffer none members (.closed .buffer))
  | .array _ _ tooDeep nodes closing => do
    checkDepth tooDeep
    match nodes with
    | [] =>
      closing.check
      .error (.here closing.stop (.missingField "type"))
    | node :: rest =>
      let tag ← Tag.decode node
      let rest ← Node.bufferedItems rest
      closing.check
      decodeContent tag (.array .buffer .buffer none rest (.closed .buffer))
  | .keyless _ _ tooDeep _ b => do
    checkDepth tooDeep
    .error (.ofFault b.wanted)
  | node => .error (node.mismatch "internally tagged enum SdkEvent")

end Event

end PushWake
