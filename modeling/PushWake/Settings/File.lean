import PushWake.Settings.Keys
/-!
# The file of the settings

Settings are loaded from the bytes of a file. A file that is not there gives the standard settings;
one that holds no text, no settings or an invalid configuration is refused.
-/

namespace PushWake.Settings

/-- Reads settings from the text of a file. -/
def ofFileText (path text : String) : Except SettingsError Settings :=
  match Json.Decode.text decode text with
  | .error e => .error (.notSettings path e)
  | .ok settings =>
    match settings.service.validate with
    | .ok () => .ok settings
    | .error e => .error (.invalid e)

/-- Loads settings from the bytes of a file, if there is one. -/
def load (path : String) (bytes : Option ByteArray) : Except SettingsError Settings :=
  match bytes with
  | none => .ok {}
  | some bytes =>
    match String.fromUTF8? bytes with
    | some text => ofFileText path text
    | none => .error (.notText path)

end PushWake.Settings
