import PushWake.Proofs.RecordReaders
import PushWake.Settings.File

/-!
# Settings survive their file

Every part of a configuration is written as an object with the fields that its reader looks for, and
what is not set is left out, which the reader takes for not set. So a configuration is recovered
from its text whatever it holds, and the check that follows the reading finds what it would have
found before: the text of a valid configuration is read as that configuration, and the text of an
invalid one is refused with the first thing that is wrong with it.
-/

namespace PushWake

open Json

/-! ## The parts of a configuration -/

theorem Timeouts.recovered (t : Timeouts) : Recovers Timeouts.decode t.toJson t :=
  .record (.cons rfl rfl ((Recovers.uint64 t.serviceMs).fill _)
    (.cons rfl rfl ((Recovers.uint64 t.emptyDelayMs).fill _) .nil)) rfl

theorem Network.recovered (n : Network) : Recovers Network.decode (.string n.name) n := by
  cases n <;> exact .name rfl

/-- An optional string that is there is recovered. -/
theorem recovered_optional (s : String) :
    Recovers (Decode.option Decode.string) (.string s) (some s) :=
  (Recovers.string s).option nofun

theorem ConnectionConfig.recovered (c : ConnectionConfig) :
    Recovers ConnectionConfig.decode c.toJson c := by
  obtain ⟨network, workingDir, apiKey⟩ := c
  cases apiKey with
  | none =>
    exact .record (.cons rfl rfl (network.recovered.fill _)
      (.cons rfl rfl ((Recovers.string workingDir).fill _) .nil)) rfl
  | some key =>
    exact .record (.cons rfl rfl (network.recovered.fill _)
      (.cons rfl rfl ((Recovers.string workingDir).fill _)
        (.cons rfl rfl ((recovered_optional key).fill _) .nil))) rfl

theorem NwcConfig.recovered (c : NwcConfig) : Recovers NwcConfig.decode c.toJson c := by
  obtain ⟨relayUrls, secretKey⟩ := c
  cases secretKey with
  | none => exact .record (.cons rfl rfl ((Recovers.list .string relayUrls).fill _) .nil) rfl
  | some key =>
    exact .record (.cons rfl rfl ((Recovers.list .string relayUrls).fill _)
      (.cons rfl rfl ((recovered_optional key).fill _) .nil)) rfl

theorem PluginConfigs.recovered (c : PluginConfigs) : Recovers PluginConfigs.decode c.toJson c := by
  obtain ⟨nwc⟩ := c
  cases nwc with
  | none => exact .record .nil rfl
  | some nwc => exact .record (.cons rfl rfl ((nwc.recovered.option nofun).fill _) .nil) rfl

theorem LnurlConfig.recovered (c : LnurlConfig) : Recovers LnurlConfig.decode c.toJson c :=
  .record (.cons rfl rfl ((Recovers.string c.description).fill _) .nil) rfl

theorem ServiceConfig.recovered (c : ServiceConfig) : Recovers ServiceConfig.decode c.toJson c :=
  .record (.cons rfl rfl (c.timeouts.recovered.fill _)
    (.cons rfl rfl (c.connection.recovered.fill _)
      (.cons rfl rfl (c.plugins.recovered.fill _)
        (.cons rfl rfl (c.lnurl.recovered.fill _) .nil)))) rfl

theorem SimulatorSettings.recovered (s : SimulatorSettings) :
    Recovers SimulatorSettings.decode s.toJson s :=
  .record (.cons rfl rfl ((Recovers.uint64 s.settleDelayMs).fill _)
    (.cons rfl rfl ((Recovers.list .string s.settleSwaps).fill _)
      (.cons rfl rfl ((Recovers.uint64 s.settleAmountSat).fill _)
        (.cons rfl rfl ((Recovers.uint64 s.minReceiveSat).fill _)
          (.cons rfl rfl ((Recovers.uint64 s.maxReceiveSat).fill _) .nil))))) rfl

theorem Settings.recovered (s : Settings) : Recovers Settings.decode s.toJson s := by
  obtain ⟨service, mnemonic, simulator⟩ := s
  cases mnemonic with
  | none =>
    exact .record (.cons rfl rfl (service.recovered.fill _)
      (.cons rfl rfl (simulator.recovered.fill _) .nil)) rfl
  | some words =>
    exact .record (.cons rfl rfl (service.recovered.fill _)
      (.cons rfl rfl ((recovered_optional words).fill _)
        (.cons rfl rfl (simulator.recovered.fill _) .nil))) rfl

/-! ## Their texts -/

/-- A member that may be left out is a string. -/
theorem optionalMember_plain {levels : Nat} (name : String) (value : Option String) :
    ∀ m ∈ optionalMember name value, m.2.Plain levels := by
  cases value with
  | none => exact nofun
  | some s => exact List.forall_mem_singleton.mpr (.string s)

section
variable {levels : Nat}

theorem Timeouts.plain (t : Timeouts) : t.toJson.Plain (levels + 1) :=
  .object (List.forall_mem_cons.mpr ⟨.uint64 _, List.forall_mem_singleton.mpr (.uint64 _)⟩)

theorem ConnectionConfig.plain (c : ConnectionConfig) : c.toJson.Plain (levels + 1) :=
  .object (List.forall_mem_cons.mpr ⟨.string _,
    List.forall_mem_cons.mpr ⟨.string _, optionalMember_plain _ _⟩⟩)

theorem NwcConfig.plain (c : NwcConfig) : c.toJson.Plain (levels + 2) :=
  .object (List.forall_mem_cons.mpr ⟨.strings _, optionalMember_plain _ _⟩)

theorem PluginConfigs.plain (c : PluginConfigs) : c.toJson.Plain (levels + 3) := by
  obtain ⟨nwc⟩ := c
  cases nwc with
  | none => exact .object nofun
  | some nwc => exact .object (List.forall_mem_singleton.mpr nwc.plain)

theorem LnurlConfig.plain (c : LnurlConfig) : c.toJson.Plain (levels + 1) :=
  .object (List.forall_mem_singleton.mpr (.string _))

/-- The relays stand at the bottom of four levels. -/
theorem ServiceConfig.plain (c : ServiceConfig) : c.toJson.Plain (levels + 4) :=
  .object (List.forall_mem_cons.mpr ⟨c.timeouts.plain,
    List.forall_mem_cons.mpr ⟨c.connection.plain,
      List.forall_mem_cons.mpr ⟨c.plugins.plain, List.forall_mem_singleton.mpr c.lnurl.plain⟩⟩⟩)

theorem SimulatorSettings.plain (s : SimulatorSettings) : s.toJson.Plain (levels + 2) :=
  .object (List.forall_mem_cons.mpr ⟨.uint64 _,
    List.forall_mem_cons.mpr ⟨.strings _,
      List.forall_mem_cons.mpr ⟨.uint64 _,
        List.forall_mem_cons.mpr ⟨.uint64 _, List.forall_mem_singleton.mpr (.uint64 _)⟩⟩⟩⟩)

theorem Settings.plain (s : Settings) : s.toJson.Plain (levels + 5) :=
  .object (List.forall_mem_append.mpr
    ⟨List.forall_mem_cons.mpr ⟨s.service.plain, optionalMember_plain _ _⟩,
      List.forall_mem_singleton.mpr s.simulator.plain⟩)

end

namespace ServiceConfig

/-- A configuration is read from its text as it was, before it is checked. -/
theorem text_toText (c : ServiceConfig) : Decode.text decode c.toText = .ok c := by
  have hplain : c.toJson.Plain 4 := c.plain
  exact c.recovered.text hplain (by decide) (.inr rfl)

/-- Then it is checked. -/
theorem ofText_toText (c : ServiceConfig) : ofText c.toText = c.validate.map fun _ => c := by
  rw [ofText, text_toText]
  cases hv : c.validate <;> simp [hv, bind, Except.bind, pure, Except.pure, Except.map]

end ServiceConfig

namespace Settings

/-- Settings are read from their text as they were, before they are checked. -/
theorem text_toText (s : Settings) : Decode.text decode s.toText = .ok s := by
  have hplain : s.toJson.Plain 5 := s.plain
  exact s.recovered.text hplain (by decide) (.inr rfl)

/-- Then the configuration of the service is checked. -/
theorem load_toText (path : String) (s : Settings) : load path (some s.toText.toUTF8) =
    (s.service.validate.map fun _ => s).mapError .invalid := by
  have hbytes : ∀ text : String, String.fromUTF8? text.toUTF8 = some text := fun text =>
    dif_pos text.isValidUTF8
  rw [load, hbytes]
  simp only [ofFileText, text_toText]
  cases s.service.validate <;> rfl

end Settings

/-! ## What the file gives back -/

/-- **A configuration survives its file, and is checked on the way.** The text of a configuration is
read as that configuration if it is valid, and refused with the error of its check if it is not. So
are the settings of the command line: whatever is saved is loaded again as it was, in every field,
unless the configuration of the service in it is invalid, and then that is the error. -/
theorem saved_settings_load (c : ServiceConfig) (path : String) (s : Settings) :
    ServiceConfig.ofText c.toText = (c.validate.map fun _ => c) ∧
    Settings.load path (some s.toText.toUTF8) =
      (s.service.validate.map fun _ => s).mapError .invalid :=
  ⟨c.ofText_toText, s.load_toText path⟩

end PushWake
