import PushWake.Settings.Basic
import PushWake.Settings.Number
/-!
# Settings by key

Eleven settings can be read and changed by name. A change is made first and checked afterwards: a
value that the service rejects is reported, and stays. Secrets are never shown.
-/

namespace PushWake

open Text

/-- What keeps a command on the settings from succeeding. -/
inductive SettingsError where
  | unknownKey (key : String)
  | notANumber (error : Settings.NumberError)
  | notANetwork (error : ConfigError)
  | rejected (error : ConfigError)
  | notText (path : String)
  | notSettings (path : String) (error : Json.DecodeError)
  | invalid (error : ConfigError)
  | unset (key : String)
deriving DecidableEq, Repr, Inhabited

namespace SettingsError

/-- The error in words, from the outermost context to the cause. -/
def message : SettingsError → String
  | unknownKey key => "Unknown config key: " ++ key
  | notANumber e => "Invalid number: " ++ e.message
  | notANetwork e => e.message
  | rejected e => "Value rejected by service configuration: " ++ e.message
  | notText path => "Failed to read " ++ path ++ ": stream did not contain valid UTF-8"
  | notSettings path e => "Failed to parse " ++ path ++ ": " ++ e.message
  | invalid e => "Invalid service configuration: " ++ e.message
  | unset key => "Unknown or unset config key: " ++ key

end SettingsError

namespace Settings

/-- The settings that have a key. -/
inductive SettingKey where
  | serviceTimeoutMs
  | emptyDelayMs
  | network
  | workingDir
  | apiKey
  | lnurlDescription
  | nwcRelays
  | mnemonic
  | settleDelayMs
  | settleSwaps
  | settleAmountSat
deriving DecidableEq, Repr, Inhabited

namespace SettingKey

/-- The name of a key. -/
def name : SettingKey → String
  | serviceTimeoutMs => "service_timeout_ms"
  | emptyDelayMs => "empty_delay_ms"
  | network => "network"
  | workingDir => "working_dir"
  | apiKey => "api_key"
  | lnurlDescription => "lnurl_description"
  | nwcRelays => "nwc_relays"
  | mnemonic => "mnemonic"
  | settleDelayMs => "settle_delay_ms"
  | settleSwaps => "settle_swaps"
  | settleAmountSat => "settle_amount_sat"

/-- All keys, in the order in which they are listed. -/
def all : List SettingKey :=
  [serviceTimeoutMs, emptyDelayMs, network, workingDir, apiKey, lnurlDescription, nwcRelays,
    mnemonic, settleDelayMs, settleSwaps, settleAmountSat]

/-- The key of a name. -/
def ofName? (s : String) : Option SettingKey :=
  all.find? fun key => key.name == s

end SettingKey

/-- A value without the blanks around it, unless nothing is left. -/
def nonBlank (s : String) : Option String :=
  let s := trim s
  if s.isEmpty then none else some s

/-- The characters between commas. -/
def splitCommas : List Char → List Char → List (List Char)
  | item, [] => [item.reverse]
  | item, c :: rest =>
    if c = ',' then item.reverse :: splitCommas [] rest else splitCommas (c :: item) rest

/-- The items of a list set off by commas, without blanks around them; blank items do not count. -/
def listItems (s : String) : List String :=
  ((splitCommas [] s.toList).map fun item => String.ofList (trimChars item)).filter
    fun item => !item.isEmpty

/-- Changes the hard limit. -/
def withServiceTimeout (s : Settings) (ms : UInt64) : Settings :=
  { s with service := { s.service with timeouts := { s.service.timeouts with serviceMs := ms } } }

/-- Changes the delay after the last job. -/
def withEmptyDelay (s : Settings) (ms : UInt64) : Settings :=
  { s with
    service := { s.service with timeouts := { s.service.timeouts with emptyDelayMs := ms } } }

/-- Changes the parameters of the connection. -/
def withConnection (s : Settings) (change : ConnectionConfig → ConnectionConfig) : Settings :=
  { s with service := { s.service with connection := change s.service.connection } }

/-- Changes the relays. The secret key is kept as long as there are relays. -/
def withRelays (s : Settings) (relays : List String) : Settings :=
  let nwc : Option NwcConfig :=
    if relays.isEmpty then none
    else some ⟨relays, s.service.plugins.nwc.bind (·.secretKey)⟩
  { s with service := { s.service with plugins := ⟨nwc⟩ } }

/-- Changes a setting, without a check of the whole. -/
def assign (s : Settings) (key : SettingKey) (value : String) : Except SettingsError Settings :=
  let numeric := fun (store : UInt64 → Settings) =>
    match number value with
    | .ok n => Except.ok (store n)
    | .error e => .error (.notANumber e)
  match key with
  | .serviceTimeoutMs => numeric s.withServiceTimeout
  | .emptyDelayMs => numeric s.withEmptyDelay
  | .network =>
    match Network.ofText value with
    | .ok network => .ok (s.withConnection ({ · with network }))
    | .error e => .error (.notANetwork e)
  | .workingDir => .ok (s.withConnection ({ · with workingDir := value }))
  | .apiKey => .ok (s.withConnection ({ · with apiKey := nonBlank value }))
  | .lnurlDescription => .ok { s with service := { s.service with lnurl := ⟨value⟩ } }
  | .nwcRelays => .ok (s.withRelays (listItems value))
  | .mnemonic => .ok { s with mnemonic := nonBlank value }
  | .settleDelayMs =>
    numeric fun n => { s with simulator := { s.simulator with settleDelayMs := n } }
  | .settleSwaps => .ok { s with simulator := { s.simulator with settleSwaps := listItems value } }
  | .settleAmountSat =>
    numeric fun n => { s with simulator := { s.simulator with settleAmountSat := n } }

/-- Changes a setting by the name of its key, and checks the whole afterwards. Gives the settings
that are left, and what is wrong. -/
def set (s : Settings) (key value : String) : Settings × Except SettingsError Unit :=
  match SettingKey.ofName? key with
  | none => (s, .error (.unknownKey key))
  | some k =>
    match s.assign k value with
    | .error e => (s, .error e)
    | .ok changed =>
      match changed.service.validate with
      | .ok () => (changed, .ok ())
      | .error e => (changed, .error (.rejected e))

/-- What is shown for a setting, if it is set. -/
def shown (s : Settings) : SettingKey → Option String
  | .serviceTimeoutMs => some (toString s.service.timeouts.serviceMs.toNat)
  | .emptyDelayMs => some (toString s.service.timeouts.emptyDelayMs.toNat)
  | .network => some s.service.connection.network.name
  | .workingDir => some s.service.connection.workingDir
  | .apiKey => s.service.connection.apiKey
  | .lnurlDescription => some s.service.lnurl.description
  | .nwcRelays => s.service.plugins.nwc.map fun nwc => String.intercalate "," nwc.relayUrls
  | .mnemonic => s.mnemonic.map fun _ => "(set)"
  | .settleDelayMs => some (toString s.simulator.settleDelayMs.toNat)
  | .settleSwaps => some (String.intercalate "," s.simulator.settleSwaps)
  | .settleAmountSat => some (toString s.simulator.settleAmountSat.toNat)

/-- What is shown for the setting of a name. -/
def get? (s : Settings) (key : String) : Option String :=
  (SettingKey.ofName? key).bind s.shown

/-- All settings by name. -/
def list (s : Settings) : List (String × String) :=
  SettingKey.all.map fun key => (key.name, (s.shown key).getD "(unset)")

end Settings

end PushWake
