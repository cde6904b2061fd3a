import PushWake.Text.Blank
import PushWake.Text.Lowercase
import PushWake.Text.Quoted
/-!
# Configuration of the service

What the host hands over at start: two time limits, the parameters of the wallet connection,
settings of the plugins, and the text shown to payers. A configuration is valid when both limits are
positive, the working directory is not blank and a plugin that is configured has relays; the checks
are made in this order and the first that fails is the answer.
-/

namespace PushWake

open Text

/-- What is wrong with a configuration. -/
inductive ConfigError where
  | invalidTimeout (field : String)
  | invalidConnection (reason : String)
  | invalidPlugin (reason : String)
  | malformed (reason : String)
deriving DecidableEq, Repr, Inhabited

namespace ConfigError

/-- The error in words. -/
def message : ConfigError → String
  | invalidTimeout field => "Invalid timeout: " ++ field ++ " must be greater than zero"
  | invalidConnection reason => "Invalid connection config: " ++ reason
  | invalidPlugin reason => "Invalid plugin config: " ++ reason
  | malformed reason => "Malformed config: " ++ reason

/-- The error as a structured value. -/
def debug : ConfigError → String
  | invalidTimeout field => wrapped "InvalidTimeout" [quoted field]
  | invalidConnection reason => wrapped "InvalidConnection" [quoted reason]
  | invalidPlugin reason => wrapped "InvalidPlugin" [quoted reason]
  | malformed reason => wrapped "Malformed" [quoted reason]

end ConfigError

/-- The two time limits, in milliseconds. -/
structure Timeouts where
  /-- The hard limit, counted from the latest trigger. -/
  serviceMs : UInt64 := 180000
  /-- The delay after the last job before the service ends. -/
  emptyDelayMs : UInt64 := 60000
deriving DecidableEq, Repr, Inhabited

namespace Timeouts

/-- Both limits must be positive. -/
def validate (t : Timeouts) : Except ConfigError Unit :=
  if t.serviceMs = 0 then .error (.invalidTimeout "service_timeout_ms")
  else if t.emptyDelayMs = 0 then .error (.invalidTimeout "empty_delay_ms")
  else .ok ()

end Timeouts

/-- The networks a wallet can live on. -/
inductive Network where
  | mainnet
  | testnet
  | regtest
deriving DecidableEq, Repr, Inhabited

namespace Network

/-- The name of a network. -/
def name : Network → String
  | mainnet => "mainnet"
  | testnet => "testnet"
  | regtest => "regtest"

/-- The networks by name. -/
def named : List (String × Network) :=
  [("mainnet", mainnet), ("testnet", testnet), ("regtest", regtest)]

/-- The network of a name, in any case of its letters. -/
def ofText (s : String) : Except ConfigError Network :=
  let lowered := lowerAscii s
  match named.find? fun n => n.1 == lowered with
  | some (_, network) => .ok network
  | none => .error (.invalidConnection ("unknown network '" ++ lowered ++ "'"))

end Network

/-- The parameters of the wallet connection. -/
structure ConnectionConfig where
  network : Network := .mainnet
  workingDir : String := "./wallet-data"
  apiKey : Option String := none
deriving DecidableEq, Repr, Inhabited

namespace ConnectionConfig

/-- The working directory must not be blank. -/
def validate (c : ConnectionConfig) : Except ConfigError Unit :=
  if isAllBlank c.workingDir then .error (.invalidConnection "working_dir cannot be empty")
  else .ok ()

end ConnectionConfig

/-- The settings of the relay plugin. -/
structure NwcConfig where
  relayUrls : List String
  secretKey : Option String := none
deriving DecidableEq, Repr, Inhabited

namespace NwcConfig

/-- The settings as a structured value. -/
def debug (c : NwcConfig) : String :=
  record "NwcConfig" [("relay_urls", bracketed (c.relayUrls.map quoted)),
    ("secret_key", optional (c.secretKey.map quoted))]

end NwcConfig

/-- The settings of the plugins; a plugin without settings never starts. -/
structure PluginConfigs where
  nwc : Option NwcConfig := none
deriving DecidableEq, Repr, Inhabited

namespace PluginConfigs

/-- A relay plugin needs a relay. -/
def validate (c : PluginConfigs) : Except ConfigError Unit :=
  match c.nwc with
  | some nwc =>
    if nwc.relayUrls.isEmpty then .error (.invalidPlugin "nwc.relay_urls cannot be empty")
    else .ok ()
  | none => .ok ()

end PluginConfigs

/-- What payers are shown. -/
structure LnurlConfig where
  description : String := "Pay with Lightning"
deriving DecidableEq, Repr, Inhabited

/-- The configuration of the service. -/
structure ServiceConfig where
  timeouts : Timeouts := {}
  connection : ConnectionConfig := {}
  plugins : PluginConfigs := {}
  lnurl : LnurlConfig := {}
deriving DecidableEq, Repr, Inhabited

namespace ServiceConfig

/-- The first thing wrong with a configuration. -/
def validate (c : ServiceConfig) : Except ConfigError Unit := do
  c.timeouts.validate
  c.connection.validate
  c.plugins.validate

end ServiceConfig

end PushWake
