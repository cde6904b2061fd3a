import PushWake.Collaborators.Plan
import PushWake.Json.Access
/-!
# Plans as JSON

A plan is an object. Its member `plan` lists outcomes by the name of the call, `delay_ms` holds the
delays; limits, events and credentials have members of their own. Whatever is left out is standard,
and an outcome that names no failure is a success.
-/

namespace PushWake

open Json

/-- The failure that is there, or success. -/
def failing {ε : Type} : Option ε → Except ε Unit
  | some e => .error e
  | none => .ok ()

namespace SdkError

/-- The error of a name. -/
def ofName? (name reason : String) : Option SdkError :=
  match name with
  | "connect" => some (connect reason)
  | "not_connected" => some notConnected
  | "generic" => some (generic reason)
  | _ => none

end SdkError

namespace Plan

/-- The outcome of a call to the wallet. -/
def sdkOutcome (j : Json) : Except SdkError Unit :=
  failing (SdkError.ofName? (j.field "err").text (j.field "msg").text)

/-- The outcome of a call that fails with a message. -/
def messageOutcome (j : Json) : Except String Unit := failing (j.field "msg").text?

/-- The outcome of a look into the store; a string says that there is nothing. -/
def credentialsOutcome (j : Json) : Except String Bool :=
  (messageOutcome j).map fun _ => j.text?.isNone

/-- The outcome of a call on a plugin. -/
def pluginOutcome (j : Json) : Except PluginError Unit :=
  match (j.field "err").text with
  | "start" => .error (.start (j.field "msg").text)
  | _ => (sdkOutcome j).mapError .listener

/-- The limits of a value. -/
def limits? (j : Json) : Option ReceiveLimits := (Decode.value ReceiveLimits.decode j).toOption

/-- The outcome of a question for limits. -/
def limitsOutcome (j : Json) : Except SdkError (Option ReceiveLimits) :=
  (sdkOutcome j).map fun _ => limits? (j.field "limits")

/-- The delays of a value. -/
def delaysOf (j : Json) : PlanDelays :=
  let delay := fun name => (j.field name).naturalOr 0
  ⟨delay "connect", delay "disconnect", delay "sync", delay "receive_limits",
    delay "receive_payment", delay "reply", delay "plugin_create", delay "plugin_stop"⟩

/-- The plan of a value. -/
def ofJson (j : Json) : Plan :=
  let outcomes := fun {α : Type} (name : String) (read : Json → α) =>
    ((j.field "plan").field name).items.map read
  let standard : Plan := {}
  { credentials := outcomes "credentials" credentialsOutcome
    connect := outcomes "connect" sdkOutcome
    addListener := outcomes "add_listener" sdkOutcome
    removeListener := outcomes "remove_listener" sdkOutcome
    disconnect := outcomes "disconnect" sdkOutcome
    sync := outcomes "sync" sdkOutcome
    receiveLimits := outcomes "receive_limits" limitsOutcome
    receivePayment := outcomes "receive_payment" sdkOutcome
    reply := outcomes "reply" messageOutcome
    pluginCreate := outcomes "plugin_create" pluginOutcome
    pluginStop := outcomes "plugin_stop" pluginOutcome
    delays := delaysOf (j.field "delay_ms")
    limits := (limits? (j.field "limits")).getD standard.limits
    syncEmits := (j.field "sync_emits").items.filterMap fun e =>
      (Decode.value Event.decode e).toOption
    store := ⟨(j.field "mnemonic").text?.getD standard.store.mnemonic,
      (j.field "passphrase").text?⟩ }

end Plan

end PushWake
