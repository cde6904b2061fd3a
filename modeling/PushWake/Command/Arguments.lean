import PushWake.Settings.Number
/-!
# Arguments

The words of a command line are read from the left. Each command takes its options in any order and
its positions in a fixed one; two dashes on their own end the options. What is given for an option
is looked at when the next option begins, or at the end, so a word that fits nowhere is complained
about before a bad number just in front of it.
-/

namespace PushWake

/-- What the user wants. -/
inductive Command where
  /-- Run the service against a script. -/
  | run (script : Option String) (serviceMs emptyMs : Option UInt64) (logDir : Option String)
  /-- Read a message without running it. -/
  | decode (message : String)
  | showSettings
  | initSettings
  | getSetting (key : String)
  | setSetting (key value : String)
  | settingsPath
deriving DecidableEq, Repr, Inhabited

/-- What is wrong with the arguments, or which text is asked for instead of a command. -/
inductive UsageError where
  | missingCommand
  | unknownCommand
  | missingArgument
  | unknownArgument
  | missingValue
  | badValue
  | repeatedOption
  | helpRequested
  | versionRequested
deriving DecidableEq, Repr, Inhabited

namespace Command

/-- The options of a run. -/
inductive RunOption where
  | script
  | serviceTimeout
  | emptyDelay
  | logDir
deriving DecidableEq, Repr, Inhabited

namespace RunOption

/-- The options by their long name. -/
def named : List (String × RunOption) :=
  [("script", script), ("service-timeout-ms", serviceTimeout), ("empty-delay-ms", emptyDelay),
    ("log-dir", logDir)]

/-- The option of a long name. -/
def ofName? (name : String) : Option RunOption :=
  (named.find? fun n => n.1 == name).map Prod.snd

end RunOption

/-- A run under way. -/
structure RunDraft where
  script : Option String := none
  serviceMs : Option UInt64 := none
  emptyMs : Option UInt64 := none
  logDir : Option String := none
  /-- The options that have been looked at. -/
  seen : List RunOption := []
  /-- The option that waits for its value, or to be looked at. -/
  pending : Option (RunOption × Option String) := none
deriving Repr, Inhabited

namespace RunDraft

/-- A path must not be empty. -/
def path (value : String) : Except UsageError (Option String) :=
  if value.isEmpty then .error .missingValue else .ok (some value)

/-- A number must be one. -/
def number (value : String) : Except UsageError (Option UInt64) :=
  match Settings.number value with
  | .ok n => .ok (some n)
  | .error _ => .error .badValue

/-- Gives an option its value. -/
def assign (d : RunDraft) (value : String) : RunOption → Except UsageError RunDraft
  | .script => (path value).map fun v => { d with script := v }
  | .serviceTimeout => (number value).map fun v => { d with serviceMs := v }
  | .emptyDelay => (number value).map fun v => { d with emptyMs := v }
  | .logDir => (path value).map fun v => { d with logDir := v }

/-- Gives an option its value, once. -/
def store (d : RunDraft) (option : RunOption) (value : String) : Except UsageError RunDraft :=
  if d.seen.contains option then .error .repeatedOption
  else assign { d with seen := d.seen ++ [option], pending := none } value option

/-- Looks at the option that has not been looked at yet. -/
def settle (d : RunDraft) : Except UsageError RunDraft :=
  match d.pending with
  | none => .ok d
  | some (_, none) => .error .missingValue
  | some (option, some value) => d.store option value

/-- Begins an option whose value comes next. -/
def begin (d : RunDraft) (option : RunOption) : Except UsageError RunDraft :=
  d.settle.map fun d => { d with pending := some (option, none) }

/-- Takes an option with its value. -/
def attach (d : RunDraft) (option : RunOption) (value : String) : Except UsageError RunDraft := do
  (← d.settle).store option value

/-- The command, when all words have been read. -/
def toCommand (d : RunDraft) : Except UsageError Command := do
  let d ← d.settle
  pure (.run d.script d.serviceMs d.emptyMs d.logDir)

end RunDraft

/-- How a word looks. -/
inductive Word where
  /-- Two dashes on their own. -/
  | escape
  /-- An option by its long name, perhaps with a value attached. -/
  | long (name : String) (value : Option String)
  /-- Options by letters. -/
  | short (letters : List Char)
  | plain (text : String)
deriving DecidableEq, Repr, Inhabited

/-- Splits at the first equals sign. -/
def splitValue : List Char → List Char → String × Option String
  | name, [] => (String.ofList name.reverse, none)
  | name, '=' :: rest => (String.ofList name.reverse, some (String.ofList rest))
  | name, c :: rest => splitValue (c :: name) rest

/-- Looks at a word. -/
def Word.of (word : String) : Word :=
  match word.toList with
  | ['-', '-'] => .escape
  | '-' :: '-' :: rest => let (name, value) := splitValue [] rest; .long name value
  | '-' :: c :: rest => .short (c :: rest)
  | _ => .plain word

/-- A value after a letter: an equals sign in front of it does not count. -/
def attachedValue : List Char → String
  | '=' :: rest => String.ofList rest
  | rest => String.ofList rest

/-- Reads the words of a run. -/
def parseRun : RunDraft → List String → Except UsageError Command
  | d, [] => d.toCommand
  | d, word :: rest => do
    match Word.of word with
    | .escape => if rest.isEmpty then d.toCommand else .error .unknownArgument
    | .long "help" none => .error .helpRequested
    | .long name value =>
      match RunOption.ofName? name, value with
      | none, _ => .error .unknownArgument
      | some option, none => parseRun (← d.begin option) rest
      | some option, some value => parseRun (← d.attach option value) rest
    | .short ['s'] => parseRun (← d.begin .script) rest
    | .short ('s' :: value) => parseRun (← d.attach .script (attachedValue value)) rest
    | .short ('h' :: _) => .error .helpRequested
    | .short _ => .error .unknownArgument
    | .plain text =>
      match d.pending with
      | some (option, none) => parseRun { d with pending := some (option, some text) } rest
      | _ => .error .unknownArgument

/-- Reads words into so many positions. -/
def parsePositions (count : Nat) : Bool → List String → List String →
    Except UsageError (List String)
  | _, found, [] => if found.length < count then .error .missingArgument else .ok found
  | escaped, found, word :: rest =>
    let take :=
      if found.length < count then parsePositions count escaped (found ++ [word]) rest
      else .error .unknownArgument
    if escaped then take
    else
      match Word.of word with
      | .escape => parsePositions count true found rest
      | .long "help" none => .error .helpRequested
      | .long _ _ => .error .unknownArgument
      | .short ('h' :: _) => .error .helpRequested
      | .short _ => .error .unknownArgument
      | .plain _ => take

/-- Reads the words of a command without options. -/
def parsePlain (count : Nat) (make : List String → Command) (words : List String) :
    Except UsageError Command :=
  (parsePositions count false [] words).map make

/-- Words that stand where a command should. -/
def notACommand (names : List String) : List String → UsageError
  | [] => .missingCommand
  | word :: rest =>
    match Word.of word with
    | .escape =>
      match rest with
      | [] => .missingCommand
      | next :: _ => if names.contains next then .unknownArgument else .unknownCommand
    | .long "help" none => .helpRequested
    | .short ('h' :: _) => .helpRequested
    | .long _ _ => .unknownArgument
    | .short _ => .unknownArgument
    | .plain text => if text = "help" then .helpRequested else .unknownCommand

/-- Reads the words of a command on the settings. -/
def parseSettings : List String → Except UsageError Command
  | "show" :: rest => parsePlain 0 (fun _ => .showSettings) rest
  | "init" :: rest => parsePlain 0 (fun _ => .initSettings) rest
  | "get" :: rest => parsePlain 1 (fun p => .getSetting (p.headD "")) rest
  | "set" :: rest => parsePlain 2 (fun p => .setSetting (p.headD "") (p.getLastD "")) rest
  | "path" :: rest => parsePlain 0 (fun _ => .settingsPath) rest
  | words => .error (notACommand ["show", "init", "get", "set", "path", "help"] words)

/-- Reads the words of a command line. -/
def ofArguments : List String → Except UsageError Command
  | "run" :: rest => parseRun {} rest
  | "decode" :: rest => parsePlain 1 (fun p => .decode (p.headD "")) rest
  | "config" :: rest => parseSettings rest
  | "--version" :: _ => .error .versionRequested
  | "-V" :: _ => .error .versionRequested
  | words => .error (notACommand ["run", "decode", "config", "help"] words)

end Command

end PushWake
