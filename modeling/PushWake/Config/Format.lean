import PushWake.Config.Basic
import PushWake.Json.Decode
import PushWake.Json.Printer
/-!
# Configurations as JSON

Each part is an object with its fields in a fixed order; settings that are not set are left out. A
reader fills what is left out from the defaults, except for the parts that have none.
-/

namespace PushWake

open Json

/-- A member that is left out where there is no value. -/
def optionalMember (name : String) (value : Option String) : List (String × Json) :=
  match value with
  | some s => [(name, .string s)]
  | none => []

/-- A value, or the name of the field that lacks it. -/
def need {α : Type} (name : String) : Option α → Except String α
  | some a => .ok a
  | none => .error name

namespace Timeouts

/-- The limits as JSON. -/
def toJson (t : Timeouts) : Json :=
  .object [("service_timeout_ms", .ofUInt64 t.serviceMs),
    ("empty_delay_ms", .ofUInt64 t.emptyDelayMs)]

/-- The limits under way. -/
structure Draft where
  serviceMs : Option UInt64 := none
  emptyDelayMs : Option UInt64 := none

/-- The fields of the limits. -/
def fields : List (Decode.Field Draft) :=
  [⟨"service_timeout_ms", fun d => d.serviceMs.isSome,
      fun node d => do pure { d with serviceMs := some (← Decode.uint64 node) }, some id⟩,
    ⟨"empty_delay_ms", fun d => d.emptyDelayMs.isSome,
      fun node d => do pure { d with emptyDelayMs := some (← Decode.uint64 node) }, some id⟩]

/-- Reads limits. -/
def decode : Decoder Timeouts :=
  Decode.record "struct ShutdownTimeouts" fields {} fun d =>
    let standard : Timeouts := {}
    .ok ⟨d.serviceMs.getD standard.serviceMs, d.emptyDelayMs.getD standard.emptyDelayMs⟩

end Timeouts

namespace Network

/-- Reads a network. -/
def decode : Decoder Network := Decode.name named

end Network

namespace ConnectionConfig

/-- The parameters as JSON. -/
def toJson (c : ConnectionConfig) : Json :=
  .object ([("network", .string c.network.name), ("working_dir", .string c.workingDir)] ++
    optionalMember "api_key" c.apiKey)

/-- The parameters under way. -/
structure Draft where
  network : Option Network := none
  workingDir : Option String := none
  apiKey : Option (Option String) := none

/-- The fields of the parameters. -/
def fields : List (Decode.Field Draft) :=
  [⟨"network", fun d => d.network.isSome,
      fun node d => do pure { d with network := some (← Network.decode node) }, none⟩,
    ⟨"working_dir", fun d => d.workingDir.isSome,
      fun node d => do pure { d with workingDir := some (← Decode.string node) }, none⟩,
    ⟨"api_key", fun d => d.apiKey.isSome,
      fun node d => do pure { d with apiKey := some (← Decode.option Decode.string node) },
        some id⟩]

/-- Reads the parameters. -/
def decode : Decoder ConnectionConfig :=
  Decode.record "struct ConnectionConfig" fields {} fun d => do
    pure ⟨← need "network" d.network, ← need "working_dir" d.workingDir, d.apiKey.getD none⟩

end ConnectionConfig

namespace NwcConfig

/-- The settings as JSON. -/
def toJson (c : NwcConfig) : Json :=
  .object (("relay_urls", .array (c.relayUrls.map .string)) ::
    optionalMember "secret_key" c.secretKey)

/-- The settings under way. -/
structure Draft where
  relayUrls : Option (List String) := none
  secretKey : Option (Option String) := none

/-- The fields of the settings. -/
def fields : List (Decode.Field Draft) :=
  [⟨"relay_urls", fun d => d.relayUrls.isSome,
      fun node d => do pure { d with relayUrls := some (← Decode.list Decode.string node) }, none⟩,
    ⟨"secret_key", fun d => d.secretKey.isSome,
      fun node d => do pure { d with secretKey := some (← Decode.option Decode.string node) },
      some id⟩]

/-- Reads the settings. -/
def decode : Decoder NwcConfig :=
  Decode.record "struct NwcConfig" fields {} fun d => do
    pure ⟨← need "relay_urls" d.relayUrls, d.secretKey.getD none⟩

end NwcConfig

namespace PluginConfigs

/-- The settings as JSON. -/
def toJson (c : PluginConfigs) : Json :=
  match c.nwc with
  | some nwc => .object [("nwc", nwc.toJson)]
  | none => .object []

/-- The one field of the settings. -/
def fields : List (Decode.Field (Option (Option NwcConfig))) :=
  [⟨"nwc", Option.isSome, fun node _ => do pure (some (← Decode.option NwcConfig.decode node)),
    some id⟩]

/-- Reads the settings. -/
def decode : Decoder PluginConfigs :=
  Decode.record "struct PluginConfigs" fields none fun d => .ok ⟨d.getD none⟩

end PluginConfigs

namespace LnurlConfig

/-- The texts as JSON. -/
def toJson (c : LnurlConfig) : Json :=
  .object [("description", .string c.description)]

/-- The one field of the texts. -/
def fields : List (Decode.Field (Option String)) :=
  [⟨"description", Option.isSome, fun node _ => do pure (some (← Decode.string node)), some id⟩]

/-- Reads the texts. -/
def decode : Decoder LnurlConfig :=
  Decode.record "struct LnurlConfig" fields none fun d =>
    .ok ⟨d.getD ({} : LnurlConfig).description⟩

end LnurlConfig

namespace ServiceConfig

/-- The configuration as JSON. -/
def toJson (c : ServiceConfig) : Json :=
  .object [("timeouts", c.timeouts.toJson), ("connection", c.connection.toJson),
    ("plugins", c.plugins.toJson), ("lnurl", c.lnurl.toJson)]

/-- The configuration as indented text. -/
def toText (c : ServiceConfig) : String := c.toJson.pretty

/-- The configuration under way. -/
structure Draft where
  timeouts : Option Timeouts := none
  connection : Option ConnectionConfig := none
  plugins : Option PluginConfigs := none
  lnurl : Option LnurlConfig := none

/-- The fields of the configuration. -/
def fields : List (Decode.Field Draft) :=
  [⟨"timeouts", fun d => d.timeouts.isSome,
      fun node d => do pure { d with timeouts := some (← Timeouts.decode node) }, some id⟩,
    ⟨"connection", fun d => d.connection.isSome,
      fun node d => do pure { d with connection := some (← ConnectionConfig.decode node) },
        some id⟩,
    ⟨"plugins", fun d => d.plugins.isSome,
      fun node d => do pure { d with plugins := some (← PluginConfigs.decode node) }, some id⟩,
    ⟨"lnurl", fun d => d.lnurl.isSome,
      fun node d => do pure { d with lnurl := some (← LnurlConfig.decode node) }, some id⟩]

/-- Reads a configuration. -/
def decode : Decoder ServiceConfig :=
  Decode.record "struct ServiceConfig" fields {} fun d =>
    .ok ⟨d.timeouts.getD {}, d.connection.getD {}, d.plugins.getD {}, d.lnurl.getD {}⟩

/-- Reads a configuration from a text and checks it. -/
def ofText (s : String) : Except ConfigError ServiceConfig := do
  match Decode.text decode s with
  | .error e => .error (.malformed e.message)
  | .ok config =>
    config.validate
    pure config

end ServiceConfig

end PushWake
