import PushWake.Config.Format
/-!
# Settings of the command line

What the command line keeps in its file: the configuration of the service, the words of the wallet,
and the behaviour of the simulated wallet.
-/

namespace PushWake

open Json

/-- The behaviour of the simulated wallet. -/
structure SimulatorSettings where
  /-- The delay between a sync and the settlement of the swaps. -/
  settleDelayMs : UInt64 := 2000
  /-- The swaps that are reported as paid after each sync. -/
  settleSwaps : List String := []
  settleAmountSat : UInt64 := 25000
  minReceiveSat : UInt64 := 1000
  maxReceiveSat : UInt64 := 4000000
deriving DecidableEq, Repr, Inhabited

namespace SimulatorSettings

/-- The settings as JSON. -/
def toJson (s : SimulatorSettings) : Json :=
  .object [("settle_delay_ms", .ofUInt64 s.settleDelayMs),
    ("settle_swaps", .array (s.settleSwaps.map .string)),
    ("settle_amount_sat", .ofUInt64 s.settleAmountSat),
    ("min_receive_sat", .ofUInt64 s.minReceiveSat), ("max_receive_sat", .ofUInt64 s.maxReceiveSat)]

/-- The settings under way. -/
structure Draft where
  settleDelayMs : Option UInt64 := none
  settleSwaps : Option (List String) := none
  settleAmountSat : Option UInt64 := none
  minReceiveSat : Option UInt64 := none
  maxReceiveSat : Option UInt64 := none

/-- The fields of the settings. -/
def fields : List (Decode.Field Draft) :=
  [⟨"settle_delay_ms", fun d => d.settleDelayMs.isSome,
      fun node d => do pure { d with settleDelayMs := some (← Decode.uint64 node) }, some id⟩,
    ⟨"settle_swaps", fun d => d.settleSwaps.isSome,
      fun node d => do pure { d with settleSwaps := some (← Decode.list Decode.string node) },
      some id⟩,
    ⟨"settle_amount_sat", fun d => d.settleAmountSat.isSome,
      fun node d => do pure { d with settleAmountSat := some (← Decode.uint64 node) }, some id⟩,
    ⟨"min_receive_sat", fun d => d.minReceiveSat.isSome,
      fun node d => do pure { d with minReceiveSat := some (← Decode.uint64 node) }, some id⟩,
    ⟨"max_receive_sat", fun d => d.maxReceiveSat.isSome,
      fun node d => do pure { d with maxReceiveSat := some (← Decode.uint64 node) }, some id⟩]

/-- Reads settings. -/
def decode : Decoder SimulatorSettings :=
  Decode.record "struct SimulatorConfig" fields {} fun d =>
    let standard : SimulatorSettings := {}
    .ok ⟨d.settleDelayMs.getD standard.settleDelayMs, d.settleSwaps.getD standard.settleSwaps,
      d.settleAmountSat.getD standard.settleAmountSat, d.minReceiveSat.getD standard.minReceiveSat,
      d.maxReceiveSat.getD standard.maxReceiveSat⟩

end SimulatorSettings

/-- The settings of the command line. -/
structure Settings where
  service : ServiceConfig := {}
  mnemonic : Option String := none
  simulator : SimulatorSettings := {}
deriving DecidableEq, Repr, Inhabited

namespace Settings

/-- The settings as JSON. -/
def toJson (s : Settings) : Json :=
  .object (("service", s.service.toJson) :: optionalMember "mnemonic" s.mnemonic ++
    [("simulator", s.simulator.toJson)])

/-- The settings as the text of their file. -/
def toText (s : Settings) : String := s.toJson.pretty

/-- The settings under way. -/
structure Draft where
  service : Option ServiceConfig := none
  mnemonic : Option (Option String) := none
  simulator : Option SimulatorSettings := none

/-- The fields of the settings. -/
def fields : List (Decode.Field Draft) :=
  [⟨"service", fun d => d.service.isSome,
      fun node d => do pure { d with service := some (← ServiceConfig.decode node) }, some id⟩,
    ⟨"mnemonic", fun d => d.mnemonic.isSome,
      fun node d => do pure { d with mnemonic := some (← Decode.option Decode.string node) },
      some id⟩,
    ⟨"simulator", fun d => d.simulator.isSome,
      fun node d => do pure { d with simulator := some (← SimulatorSettings.decode node) },
        some id⟩]

/-- Reads settings. -/
def decode : Decoder Settings :=
  Decode.record "struct Config" fields {} fun d =>
    .ok ⟨d.service.getD {}, d.mnemonic.getD none, d.simulator.getD {}⟩

/-- The words that open the wallet: those of the environment, unless they are blank, then those of
the settings. -/
def credentialWords (environment : Option String) (s : Settings) : Option String :=
  match environment with
  | some words => if Text.isAllBlank words then s.mnemonic else some words
  | none => s.mnemonic

end Settings

end PushWake
