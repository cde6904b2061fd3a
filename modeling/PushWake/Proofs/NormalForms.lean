import PushWake.Settings.File

/-!
# What is shown for a setting that was changed

Each setting has a normal form of the values it takes: the number in decimal, the network in lower
case, the list without blanks and without empty items, and so on. What is shown for a setting right
after a change is the normal form of the value, and a change shows in no other setting. The secret
key of the relay plugin, which is shown nowhere, stays unless the relays go.
-/

namespace PushWake.Settings

open Text

/-! ## Numbers -/

/-- The digits of a number: its characters, without a plus in front. -/
def digits (value : String) : List Char :=
  match value.toList with
  | '+' :: rest => rest
  | cs => cs

/-- A number in decimal, without leading zeros. -/
def decimal (value : String) : String := toString (Nat.ofDigitChars 10 (digits value) 0)

/-- Digits that are taken have their decimal value, which fits. -/
theorem takeNumber_value {cs : List Char} {n m : Nat} (hn : n < UInt64.size)
    (h : takeNumber n cs = .ok m) : m = Nat.ofDigitChars 10 cs n ∧ m < UInt64.size := by
  induction cs generalizing n with
  | nil =>
    cases h
    exact ⟨rfl, hn⟩
  | cons c rest ih =>
    rw [takeNumber] at h
    split at h
    · cases h
    · dsimp only at h
      split at h
      case isTrue hnext =>
        rw [Nat.ofDigitChars_cons, Nat.mul_comm]
        exact ih hnext h
      case isFalse => cases h

/-- A number that is read is written as the decimal of its text. -/
theorem toString_number {value : String} {n : UInt64} (h : number value = .ok n) :
    toString n.toNat = decimal value := by
  have written : ∀ cs, (takeNumber 0 cs).map UInt64.ofNat = .ok n →
      toString n.toNat = toString (Nat.ofDigitChars 10 cs 0) := by
    intro cs hcs
    cases hm : takeNumber 0 cs with
    | error e => simp [hm, Except.map] at hcs
    | ok m =>
      obtain ⟨hvalue, hfits⟩ := takeNumber_value (by decide) hm
      have hn : UInt64.ofNat m = n := by simpa [hm, Except.map] using hcs
      rw [← hn, UInt64.toNat_ofNat_of_lt' hfits, hvalue]
  rw [decimal, digits]
  rw [number] at h
  split at h
  · cases h
  · cases h
  case h_3 rest _ hvalue =>
    rw [hvalue]
    exact written rest h
  case h_4 hrest =>
    split
    · exact absurd ‹_› (hrest _)
    · exact written _ h

/-! ## Lists -/

/-- What stands between the commas, without the blanks around it, unless nothing is left. -/
def items (value : String) : List String :=
  ((value.toList.splitOn ',').map fun item => String.ofList (trimChars item)).filter
    fun item => !item.isEmpty

theorem splitCommas_eq_splitOnPPrepend (item cs : List Char) :
    splitCommas item cs = List.splitOnPPrepend (· == ',') cs item := by
  induction cs generalizing item with
  | nil => rfl
  | cons c rest ih =>
    rw [splitCommas, List.splitOnPPrepend, ih, ih]
    simp only [beq_iff_eq]

theorem listItems_eq_items (value : String) : listItems value = items value := by
  rw [listItems, splitCommas_eq_splitOnPPrepend]
  rfl

/-! ## Names -/

theorem name_ofText {value : String} {n : Network} (h : Network.ofText value = .ok n) :
    n.name = lowerAscii value := by
  rw [Network.ofText] at h
  split at h
  case h_1 name network hfind =>
    cases h
    have hlowered : name = lowerAscii value := by simpa using List.find?_some hfind
    have hnamed := List.mem_of_find?_eq_some hfind
    simp only [Network.named, List.mem_cons, List.not_mem_nil, Prod.mk.injEq, or_false] at hnamed
    rw [← hlowered]
    rcases hnamed with ⟨rfl, rfl⟩ | ⟨rfl, rfl⟩ | ⟨rfl, rfl⟩ <;> rfl
  case h_2 => cases h

/-! ## Changes -/

/-- What is shown for a setting after it took a value; nothing if it is unset then. -/
def SettingKey.normal (value : String) : SettingKey → Option String
  | .serviceTimeoutMs | .emptyDelayMs | .settleDelayMs | .settleAmountSat => some (decimal value)
  | .network => some (lowerAscii value)
  | .workingDir | .lnurlDescription => some value
  | .apiKey => nonBlank value
  | .nwcRelays => if items value = [] then none else some (String.intercalate "," (items value))
  | .mnemonic => (nonBlank value).map fun _ => "(set)"
  | .settleSwaps => some (String.intercalate "," (items value))

/-- The settings that a value given to a key can leave. -/
inductive Assigned (s : Settings) (value : String) : SettingKey → Settings → Prop
  | serviceTimeoutMs {n : UInt64} : number value = .ok n →
      Assigned s value .serviceTimeoutMs (s.withServiceTimeout n)
  | emptyDelayMs {n : UInt64} : number value = .ok n →
      Assigned s value .emptyDelayMs (s.withEmptyDelay n)
  | network {n : Network} : Network.ofText value = .ok n →
      Assigned s value .network (s.withConnection ({ · with network := n }))
  | workingDir : Assigned s value .workingDir (s.withConnection ({ · with workingDir := value }))
  | apiKey : Assigned s value .apiKey (s.withConnection ({ · with apiKey := nonBlank value }))
  | lnurlDescription : Assigned s value .lnurlDescription
      { s with service := { s.service with lnurl := ⟨value⟩ } }
  | nwcRelays : Assigned s value .nwcRelays (s.withRelays (items value))
  | mnemonic : Assigned s value .mnemonic { s with mnemonic := nonBlank value }
  | settleDelayMs {n : UInt64} : number value = .ok n → Assigned s value .settleDelayMs
      { s with simulator := { s.simulator with settleDelayMs := n } }
  | settleSwaps : Assigned s value .settleSwaps
      { s with simulator := { s.simulator with settleSwaps := items value } }
  | settleAmountSat {n : UInt64} : number value = .ok n → Assigned s value .settleAmountSat
      { s with simulator := { s.simulator with settleAmountSat := n } }

/-- A number is stored when it can be read. -/
theorem stored_of_numeric {value : String} {store : UInt64 → Settings} {changed : Settings}
    (h : (match number value with
      | .ok n => Except.ok (store n)
      | .error e => .error (SettingsError.notANumber e)) = .ok changed) :
    ∃ n, number value = .ok n ∧ store n = changed := by
  cases hn : number value with
  | error e => simp [hn] at h
  | ok n => exact ⟨n, rfl, by simpa [hn] using h⟩

theorem assigned_of_assign {s changed : Settings} {k : SettingKey} {value : String}
    (h : s.assign k value = .ok changed) : Assigned s value k changed := by
  cases k with
  | serviceTimeoutMs =>
    obtain ⟨n, hn, rfl⟩ := stored_of_numeric h
    exact .serviceTimeoutMs hn
  | emptyDelayMs =>
    obtain ⟨n, hn, rfl⟩ := stored_of_numeric h
    exact .emptyDelayMs hn
  | network =>
    simp only [assign] at h
    split at h
    case h_1 n hn =>
      cases h
      exact .network hn
    case h_2 => cases h
  | workingDir => cases h; exact .workingDir
  | apiKey => cases h; exact .apiKey
  | lnurlDescription => cases h; exact .lnurlDescription
  | nwcRelays =>
    simp only [assign, listItems_eq_items, Except.ok.injEq] at h
    exact h ▸ .nwcRelays
  | mnemonic => cases h; exact .mnemonic
  | settleDelayMs =>
    obtain ⟨n, hn, rfl⟩ := stored_of_numeric h
    exact .settleDelayMs hn
  | settleSwaps =>
    simp only [assign, listItems_eq_items, Except.ok.injEq] at h
    exact h ▸ .settleSwaps
  | settleAmountSat =>
    obtain ⟨n, hn, rfl⟩ := stored_of_numeric h
    exact .settleAmountSat hn

/-- The secret key of the relay plugin. -/
def secretKey (s : Settings) : Option String := s.service.plugins.nwc.bind (·.secretKey)

variable {s changed : Settings} {k : SettingKey} {value : String}

/-- The setting that took a value shows its normal form. -/
theorem Assigned.shown (h : Assigned s value k changed) : changed.shown k = k.normal value := by
  cases h with
  | serviceTimeoutMs hn => exact congrArg some (toString_number hn)
  | emptyDelayMs hn => exact congrArg some (toString_number hn)
  | network hn => exact congrArg some (name_ofText hn)
  | settleDelayMs hn => exact congrArg some (toString_number hn)
  | settleAmountSat hn => exact congrArg some (toString_number hn)
  | nwcRelays =>
    by_cases hitems : items value = [] <;>
      simp [Settings.shown, SettingKey.normal, withRelays, hitems]
  | _ => simp only [Settings.shown, SettingKey.normal, withConnection]

/-- Every other setting shows what it showed before. -/
theorem Assigned.shown_of_ne {other : SettingKey} (h : Assigned s value k changed)
    (hne : other ≠ k) : changed.shown other = s.shown other := by
  cases h <;> cases other <;> first
    | exact absurd rfl hne
    | simp only [Settings.shown, withServiceTimeout, withEmptyDelay, withConnection, withRelays]

/-- The secret key stays, unless the relays go. -/
theorem Assigned.secretKey (h : Assigned s value k changed)
    (hrelays : k = .nwcRelays → items value ≠ []) : changed.secretKey = s.secretKey := by
  cases h with
  | nwcRelays => simp [Settings.secretKey, withRelays, hrelays rfl]
  | _ => simp only [Settings.secretKey, withServiceTimeout, withEmptyDelay, withConnection]

end PushWake.Settings
