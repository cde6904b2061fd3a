import PushWake.Json.Decode
import PushWake.Json.Printer
/-!
# What a wallet session is asked and answers

Amounts are whole numbers of 64 bits: satoshi where the name says so, thousandths of one in the
requests of payers.
-/

namespace PushWake

open Text Json

/-- The amounts that can be received, in satoshi. -/
structure ReceiveLimits where
  minSat : UInt64
  maxSat : UInt64
deriving DecidableEq, Repr, Inhabited

namespace ReceiveLimits

/-- The limits as JSON. -/
def toJson (limits : ReceiveLimits) : Json :=
  .object [("min_sat", .ofUInt64 limits.minSat), ("max_sat", .ofUInt64 limits.maxSat)]

/-- The limits under way. -/
structure Draft where
  minSat : Option UInt64 := none
  maxSat : Option UInt64 := none

/-- The fields of limits. -/
def fields : List (Decode.Field Draft) :=
  [⟨"min_sat", fun d => d.minSat.isSome,
      fun node d => do pure { d with minSat := some (← Decode.uint64 node) }, none⟩,
    ⟨"max_sat", fun d => d.maxSat.isSome,
      fun node d => do pure { d with maxSat := some (← Decode.uint64 node) }, none⟩]

/-- Reads limits. -/
def decode : Decoder ReceiveLimits :=
  Decode.record "struct ReceiveLimits" fields {} fun d =>
    match d.minSat, d.maxSat with
    | none, _ => .error "min_sat"
    | _, none => .error "max_sat"
    | some a, some b => .ok ⟨a, b⟩

end ReceiveLimits

/-- An invoice for one payment. -/
structure Invoice where
  bolt11 : String
deriving DecidableEq, Repr, Inhabited

namespace Invoice

/-- The invoice as JSON. -/
def toJson (invoice : Invoice) : Json :=
  .object [("bolt11", .string invoice.bolt11)]

/-- The one field of an invoice. -/
def fields : List (Decode.Field (Option String)) :=
  [⟨"bolt11", Option.isSome, fun node _ => do pure (some (← Decode.string node)), none⟩]

/-- Reads an invoice. -/
def decode : Decoder Invoice :=
  Decode.record "struct Invoice" fields none fun d =>
    match d with
    | none => .error "bolt11"
    | some s => .ok ⟨s⟩

end Invoice

/-- The secrets that open a wallet. They are shown to nobody but the wallet. -/
structure Credentials where
  mnemonic : String
  passphrase : Option String
deriving DecidableEq, Inhabited

namespace Credentials

/-- What stands for a secret wherever credentials are shown. -/
def redacted : String := quoted "<redacted>"

/-- Credentials as a structured value, without the secrets. -/
def debug (c : Credentials) : String :=
  record "Credentials" [("mnemonic", redacted),
    ("passphrase", Text.optional (c.passphrase.map fun _ => redacted))]

end Credentials

end PushWake
