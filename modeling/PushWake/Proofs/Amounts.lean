import PushWake.Lnurl.Reply

/-!
# Amounts and limits

Limits are in satoshi and what is asked for is in thousandths of one. A limit that is scaled up may
stop at the greatest number there is, and an amount that is scaled down loses what is short of a
whole satoshi. The two agree on amounts of whole satoshi, also on those that the scaled limits
cannot tell from the greatest number.
-/

namespace PushWake

/-- Whether an amount in satoshi is within limits. -/
def ReceiveLimits.Allows (limits : ReceiveLimits) (sat : Nat) : Prop :=
  limits.minSat.toNat ≤ sat ∧ sat ≤ limits.maxSat.toNat

instance (limits : ReceiveLimits) (sat : Nat) : Decidable (limits.Allows sat) :=
  inferInstanceAs (Decidable (_ ∧ _))

namespace Lnurl

/-- Why an amount outside of the limits is not received. -/
def outside (limits : ReceiveLimits) (sat : Nat) : JobError :=
  .invalidRequest ("Amount " ++ toString sat ++ " sat outside of [" ++
    toString limits.minSat.toNat ++ ", " ++ toString limits.maxSat.toNat ++ "]")

variable {limits : ReceiveLimits} {sat millisat : UInt64}

theorem toNat_toSat (millisat : UInt64) : (toSat millisat).toNat = millisat.toNat / 1000 := by
  have hlt : millisat.toNat / 1000 < UInt64.size :=
    Nat.lt_of_le_of_lt (Nat.div_le_self _ _) millisat.toNat_lt
  exact UInt64.toNat_ofNat_of_lt' hlt

theorem toNat_toMillisat (sat : UInt64) :
    (toMillisat sat).toNat = min (sat.toNat * 1000) (UInt64.size - 1) := by
  unfold toMillisat perSat
  split
  · rename_i hfits
    rw [UInt64.toNat_ofNat_of_lt' hfits]
    omega
  · rw [UInt64.toNat_ofNat_of_lt' (by decide)]
    omega

/-- An amount is received if its whole satoshi are within the limits. -/
theorem accept_eq (limits : ReceiveLimits) (millisat : UInt64) :
    accept limits millisat = if limits.Allows (millisat.toNat / 1000) then .ok (toSat millisat)
      else .error (outside limits (millisat.toNat / 1000)) := by
  have hsat := toNat_toSat millisat
  have hiff : (toSat millisat < limits.minSat ∨ limits.maxSat < toSat millisat) ↔
      ¬limits.Allows (millisat.toNat / 1000) := by
    rw [UInt64.lt_iff_toNat_lt, UInt64.lt_iff_toNat_lt, hsat, ReceiveLimits.Allows]
    omega
  simp only [accept, Bool.or_eq_true, decide_eq_true_eq, gt_iff_lt, hiff, hsat, outside, ite_not]

/-- A lower limit that is scaled up is met by the whole satoshi of an amount, or not, as the limit
itself is. -/
theorem toMillisat_le_whole : (toMillisat sat).toNat ≤ 1000 * (millisat.toNat / 1000) ↔
    sat.toNat ≤ millisat.toNat / 1000 := by
  have hlt := millisat.toNat_lt
  rw [toNat_toMillisat]
  -- the greatest number is not one of whole satoshi, so nothing is hidden where the limit stops
  simp only [UInt64.size]
  omega

theorem whole_le_toMillisat : 1000 * (millisat.toNat / 1000) ≤ (toMillisat sat).toNat ↔
    millisat.toNat / 1000 ≤ sat.toNat := by
  have hlt := millisat.toNat_lt
  rw [toNat_toMillisat]
  simp only [UInt64.size]
  omega

/-- What is received is what lies between the limits of the first reply, once it is rounded down to
whole satoshi. -/
theorem allows_iff : limits.Allows (millisat.toNat / 1000) ↔
    (toMillisat limits.minSat).toNat ≤ 1000 * (millisat.toNat / 1000) ∧
      1000 * (millisat.toNat / 1000) ≤ (toMillisat limits.maxSat).toNat := by
  rw [toMillisat_le_whole, whole_le_toMillisat]
  rfl

end Lnurl

end PushWake
