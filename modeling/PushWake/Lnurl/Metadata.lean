import PushWake.Json.Printer
/-!
# The metadata of a payment

A payer's wallet is told what it pays for in a string that holds JSON text itself: a list of one
pair, the type of the description and the description.
-/

namespace PushWake.Lnurl

/-- The metadata as a value. -/
def metadataJson (description : String) : Json :=
  .array [.array [.string "text/plain", .string description]]

/-- The metadata as the text that travels. -/
def metadata (description : String) : String :=
  (metadataJson description).compact

end PushWake.Lnurl
