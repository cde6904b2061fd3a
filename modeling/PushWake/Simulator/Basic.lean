import PushWake.Collaborators.Basic
import PushWake.Settings.Basic
import PushWake.Text.Duration
/-!
# A simulated wallet

A wallet that needs no network. Every sync is followed by an event, and after a delay by the
settlement of the swaps that the settings name. A plugin that it makes only says what it sees.
Replies can be posted to any address but those of the web.
-/

namespace PushWake

open Text

/-- The state of the simulated wallet and of what goes with it. -/
structure Simulator where
  settings : SimulatorSettings := {}
  /-- The words in the store. -/
  words : Option String := none
  /-- The listeners that are registered, and how many there have been. -/
  listeners : List Nat := []
  added : Nat := 0
  /-- How many invoices there have been. -/
  invoices : Nat := 0
  /-- The relays of the plugins, in the order in which they were made. -/
  plugins : List (List String) := []
deriving Inhabited

namespace Simulator

/-- A line of the simulator. -/
def line (level : LogLevel) (message : String) : LogLine := ⟨"simulator", level, message⟩

/-- How the simulator calls a listener. -/
def listenerName (n : Nat) : String := "sim-" ++ toString n

/-- Three words are enough to open a session. -/
def openSession (config : ConnectionConfig) (credentials : Credentials) (s : Simulator) :
    Answer (Except SdkError Unit) × Simulator :=
  if wordCount credentials.mnemonic < 3 then
    (⟨.error (.connect "mnemonic too short"), 0, []⟩, s)
  else
    (⟨.ok (), 0, [line .info ("Simulated wallet connected (" ++ config.network.name ++ ", " ++
      config.workingDir ++ ")")]⟩, s)

/-- Registers the next listener. -/
def addListener (s : Simulator) : Except SdkError Unit × Simulator :=
  (.ok (), { s with listeners := s.listeners ++ [s.added], added := s.added + 1 })

/-- The answer to the removal of a listener that is not there. -/
def unknownListener (name : String) : SdkError := .generic ("unknown listener " ++ name)

/-- Removes a listener. -/
def removeListener (n : Nat) (s : Simulator) : Except SdkError Unit × Simulator :=
  if s.listeners.contains n then (.ok (), { s with listeners := s.listeners.filter (· != n) })
  else (.error (unknownListener (listenerName n)), s)

/-- The settlement of one swap. -/
def settlementStep (settings : SimulatorSettings) (swap : String) : LogLine × Event :=
  (line .info ("Simulated settlement of swap " ++ swap), .succeeded swap settings.settleAmountSat)

/-- The settlements that a sync brings. -/
def settlements (settings : SimulatorSettings) : List Settlement :=
  if settings.settleSwaps.isEmpty then []
  else [⟨settings.settleDelayMs.toNat, settings.settleSwaps.map (settlementStep settings)⟩]

/-- A sync always succeeds. -/
def sync (s : Simulator) : SyncAnswer × Simulator :=
  (⟨⟨.ok (), 0, [line .debug "Simulated sync"]⟩, [.synced], settlements s.settings⟩, s)

/-- The limits of the settings. -/
def receiveLimits (s : Simulator) : Answer (Except SdkError ReceiveLimits) × Simulator :=
  (⟨.ok ⟨s.settings.minReceiveSat, s.settings.maxReceiveSat⟩, 0, []⟩, s)

/-- A number with zeros in front, up to four digits. -/
def fourDigits (n : Nat) : String :=
  let digits := toString n
  String.ofList (List.replicate (4 - digits.length) '0') ++ digits

/-- The next invoice. -/
def receivePayment (sat : UInt64) (description : String) (s : Simulator) :
    Answer (Except SdkError Invoice) × Simulator :=
  let amount := toString sat.toNat
  (⟨.ok ⟨"lnbcrt" ++ amount ++ "n1psim" ++ fourDigits s.invoices⟩, 0,
      [line .debug ("Simulated invoice #" ++ toString s.invoices ++ " for " ++ amount ++ " sat (" ++
        description ++ ")")]⟩,
    { s with invoices := s.invoices + 1 })

/-- Whether an address is one of the web. -/
def isWeb (url : String) : Bool :=
  "http://".isPrefixOf url || "https://".isPrefixOf url

/-- There is no network to post a reply to the web. -/
def reply (url : String) : Answer (Except String Unit) :=
  if isWeb url then ⟨.error "no network", 0, []⟩ else ⟨.ok (), 0, []⟩

/-- Makes a plugin for relays that are all secure. -/
def createPlugin (connection : Connection) (config : NwcConfig) (s : Simulator) :
    Answer (Except PluginError Unit) × Simulator :=
  if config.relayUrls.all fun url => "wss://".isPrefixOf url then
    (⟨.ok (), 0, [line .info ("NWC plugin bound to connection " ++ connection.id.text ++ " (" ++
      toString config.relayUrls.length ++ " relay(s))")]⟩,
      { s with plugins := s.plugins ++ [config.relayUrls] })
  else
    (⟨.error (.start "non-wss relay url"), 0, [line .warn "NWC relays must use wss://"]⟩, s)

/-- What a plugin says of an event. -/
def pluginLines (plugin : Nat) (event : Event) (s : Simulator) : List LogLine :=
  let relays := (s.plugins[plugin]?).getD []
  [line .info ("NWC relay " ++ bracketed (relays.map quoted) ++ " saw " ++ event.debug)]

/-- The simulated wallet, its store and its host as collaborators. -/
def collaborators : Collaborators Simulator where
  loadCredentials s := (.ok (s.words.map fun words => ⟨words, none⟩), s)
  openSession := openSession
  addListener _ := addListener
  removeListener _ := removeListener
  closeSession _ s := (⟨.ok (), 0, [line .info "Simulated wallet disconnected"]⟩, s)
  sync _ := sync
  receiveLimits _ := receiveLimits
  receivePayment _ := receivePayment
  reply url _ s := (reply url, s)
  createPlugin := createPlugin
  stopPlugin _ s := (⟨.ok (), 0, [line .info "NWC relay connections closed"]⟩, s)
  pluginLines := pluginLines
  listenerName := listenerName

end Simulator

end PushWake
