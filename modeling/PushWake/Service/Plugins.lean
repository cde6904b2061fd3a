import PushWake.Service.Jobs
/-!
# Starting and stopping plugins

A plugin starts once, with the settings of whoever starts it first, and is stopped before the
session it was made for. Both hold the shelf's lock to their end.
-/

namespace PushWake.Service

variable {W : Type}

/-- A start under way, or the plugin that runs at its end. -/
abbrev PluginStartProgress := Progress PluginStartStage (Option PluginHandle)

/-- Asks a plugin to stop. -/
def beginStop (env : Collaborators W) (s : Service W) (plugin : Nat) :
    Service W × Pending (Except PluginError Unit) :=
  let s := s.note (.stopPlugin plugin)
  s.ask (env.stopPlugin plugin s.world)

/-- Ends a start without a new plugin. -/
def endStart (s : Service W) (level : LogLevel) (message : String) (running : Option PluginHandle) :
    Service W × PluginStartProgress :=
  ((s.say "plugin" level message).releaseShelf, .done running)

/-- Ends a start that failed. -/
def failStart (s : Service W) (e : PluginError) : Service W × PluginStartProgress :=
  s.endStart .warn ("Plugin nwc failed to start: " ++ e.message) none

/-- Starts the plugin, with the shelf in hand. -/
def beginStart (env : Collaborators W) (s : Service W) (connection : Connection)
    (configs : PluginConfigs) : Service W × PluginStartProgress :=
  if s.shelf.stopped then s.endStart .debug "Plugins stopped, not starting nwc" none
  else
    match s.shelf.running, configs.nwc with
    | some handle, _ => s.endStart .debug "Plugin nwc already started" (some handle)
    | none, none => s.endStart .debug "No config for plugin nwc, not starting" none
    | none, some config =>
      if s.makesPlugins then
        let s := s.note (.createPlugin connection config)
        let (s, call) := s.ask (env.createPlugin connection config s.world)
        (s, .waits (.creating call))
      else s.endStart .debug "No factory registered for plugin nwc" none

/-- The plugin is made, or not: a new plugin gets its listener. -/
def afterCreate (env : Collaborators W) (s : Service W) (connection : Connection) :
    Except PluginError Unit → Service W × PluginStartProgress
  | .error e => s.failStart e
  | .ok () =>
    let plugin := s.shelf.created
    let s := { s with shelf := { s.shelf with created := plugin + 1 } }.note
      (.pluginCreated plugin connection.session)
    match s.addListener env connection.session (.plugin plugin) with
    | (s, .ok listener) =>
      let handle : PluginHandle := ⟨plugin, connection, listener⟩
      let s := { s with shelf := { s.shelf with running := some handle } }
      s.endStart .info "Plugin nwc started" (some handle)
    | (s, .error e) =>
      let (s, call) := s.beginStop env plugin
      (s, .waits (.undoing plugin e call))

/-- The plugin whose listener was refused has stopped, or failed to. -/
def afterUndo (s : Service W) (cause : SdkError) :
    Except PluginError Unit → Service W × PluginStartProgress
  | .ok () => s.failStart (.listener cause)
  | .error e =>
    (s.say "plugin" .warn ("Plugin nwc stop after listener failure: " ++ e.message)).failStart
      (.listener cause)

/-- Asks for the shelf and starts the plugin at once if it is free. -/
def enterStart (env : Collaborators W) (s : Service W) (k : Nat) (connection : Connection)
    (configs : PluginConfigs) : Service W × PluginStartProgress :=
  let s := s.requestShelf k
  if s.holdsShelf k then s.beginStart env connection configs else (s, .waits .awaitingShelf)

/-- Starts every plugin that can be made; where none can, the shelf is left alone. -/
def enterStartAll (env : Collaborators W) (s : Service W) (k : Nat) (connection : Connection)
    (configs : PluginConfigs) : Service W × PluginStartProgress :=
  if s.makesPlugins then s.enterStart env k connection configs else (s, .done none)

/-- Takes a start from a stage to the next, if it can go on. -/
def resumeStart (env : Collaborators W) (s : Service W) (k : Nat) (connection : Connection)
    (configs : PluginConfigs) : PluginStartStage → Option (Service W × PluginStartProgress)
  | .awaitingShelf => if s.holdsShelf k then some (s.beginStart env connection configs) else none
  | .creating call => (call.result? s.now).map (s.afterCreate env connection)
  | .undoing _ cause call => (call.result? s.now).map (s.afterUndo cause)

/-! ## Stopping -/

/-- A stop under way, or its end. -/
abbrev PluginStopProgress := Progress PluginStopStage Unit

/-- Stops the plugin that runs, with the shelf in hand. Nothing starts from here on. -/
def beginStopAll (env : Collaborators W) (s : Service W) : Service W × PluginStopProgress :=
  let s := { s with shelf := { s.shelf with stopped := true } }
  match s.shelf.running with
  | none => (s.releaseShelf, .done ())
  | some handle =>
    let s := { s with shelf := { s.shelf with running := none } }
    let (s, removed) := s.removeListener env handle.connection.session handle.listener
    let s :=
      match removed with
      | .ok () => s
      | .error e => s.say "plugin" .warn ("Plugin nwc listener removal failed: " ++ e.message)
    let (s, call) := s.beginStop env handle.plugin
    (s, .waits (.stopping handle call))

/-- The plugin has stopped, or failed to. -/
def afterStop (s : Service W) : Except PluginError Unit → Service W × PluginStopProgress
  | .ok () => ((s.say "plugin" .info "Plugin nwc stopped").releaseShelf, .done ())
  | .error e =>
    ((s.say "plugin" .warn ("Plugin nwc stop failed: " ++ e.message)).releaseShelf, .done ())

/-- Asks for the shelf and stops the plugins at once if it is free. -/
def enterStop (env : Collaborators W) (s : Service W) (k : Nat) : Service W × PluginStopProgress :=
  let s := s.requestShelf k
  if s.holdsShelf k then s.beginStopAll env else (s, .waits .awaitingShelf)

/-- Takes a stop from a stage to the next, if it can go on. -/
def resumeStop (env : Collaborators W) (s : Service W) (k : Nat) :
    PluginStopStage → Option (Service W × PluginStopProgress)
  | .awaitingShelf => if s.holdsShelf k then some (s.beginStopAll env) else none
  | .stopping _ call => (call.result? s.now).map s.afterStop

end PushWake.Service
