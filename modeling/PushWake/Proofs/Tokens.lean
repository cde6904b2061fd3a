import Mathlib.Tactic.SplitIfs
import PushWake.Json.Printer
import PushWake.Json.Reader

/-!
# Words, strings and numbers read back

What the writer makes of a string or of a whole number, the reader takes for that string or that
number, whatever stands behind it. Positions only matter where something is wrong, so what is said
about the reader's cursor is what is left of the text.
-/

namespace PushWake.Json

open Decimal

variable {c : Cursor} {cs rest : List Char}

/-! ## Blanks -/

/-- A text that does not begin with a blank. -/
def Solid (cs : List Char) : Prop := ∀ x ∈ cs.head?, Cursor.isBlank x = false

theorem solid_cons {x : Char} (h : Cursor.isBlank x = false) : Solid (x :: cs) := by
  intro y hy
  cases hy
  exact h

/-- Blanks are passed over, and nothing else. -/
theorem rest_skipBlanks {gap : List Char} (hc : c.rest = gap ++ cs)
    (hgap : ∀ x ∈ gap, Cursor.isBlank x = true) (h : Solid cs) : c.skipBlanks.rest = cs := by
  rw [Cursor.skipBlanks, hc]
  generalize c.position = p
  clear hc
  induction gap generalizing p with
  | nil =>
    cases cs with
    | nil => rfl
    | cons x cs =>
      have hx : Cursor.isBlank x = false := h x rfl
      simp [Cursor.skipBlanksFrom, hx]
  | cons y gap ih =>
    have hy : Cursor.isBlank y = true := hgap y List.mem_cons_self
    rw [List.cons_append, Cursor.skipBlanksFrom, if_pos hy]
    exact ih (fun x hx => hgap x (List.mem_cons_of_mem _ hx)) _

/-- Where there is no blank, nothing is passed over. -/
theorem rest_skipBlanks_of_solid (hc : c.rest = cs) (h : Solid cs) : c.skipBlanks.rest = cs :=
  rest_skipBlanks (show c.rest = [] ++ cs from hc) nofun h

/-! ## Words -/

theorem readWord_append (word cs : List Char) (p : Position) :
    ∃ c, readWord word (word ++ cs) p = .ok c ∧ c.rest = cs := by
  induction word generalizing p with
  | nil => exact ⟨_, rfl, rfl⟩
  | cons x word ih =>
    rw [List.cons_append, readWord, if_pos rfl]
    exact ih _

theorem readWordLeaf_append (value : Leaf) {word : List Char} (hc : c.rest = word ++ cs) :
    ∃ c', readWordLeaf value word c = .ok (value, c') ∧ c'.rest = cs := by
  obtain ⟨c', hword, hrest⟩ := readWord_append word cs c.position
  exact ⟨c', by rw [readWordLeaf, hc, hword], hrest⟩

/-! ## Strings -/

theorem hexDigit?_digitChar : ∀ n < 16, hexDigit? (Nat.digitChar n) = some n := by
  decide

/-- The four digits of a control character give its code. -/
theorem fourHex?_fourHex {n : Nat} (hn : n < 65536) : ∃ a b d e, fourHex n = [a, b, d, e] ∧
    fourHex? a b d e = some n := by
  refine ⟨_, _, _, _, rfl, ?_⟩
  have hdigit : ∀ m, hexDigit? (Nat.digitChar (m % 16)) = some (m % 16) :=
    fun m => hexDigit?_digitChar _ (Nat.mod_lt _ (by omega))
  simp only [fourHex?, hdigit, Option.bind_eq_bind, Option.bind_some, Option.pure_def,
    Option.some.injEq]
  omega

section
variable {s : Spelling} (hlead : s.lead = none)
include hlead

theorem push_of_lead (x : Char) (p : Position) : s.push x p = { s with chars := x :: s.chars } := by
  rw [Spelling.push, hlead]

/-- A letter behind a backslash is read as what it stands for. -/
theorem readString_letter {e x : Char} (hu : e ≠ 'u') (he : escape? e = some x) (cs : List Char)
    (p : Position) :
    ∃ q, readString s ('\\' :: e :: cs) p = readString { s with chars := x :: s.chars } cs q := by
  refine ⟨(p.past '\\').pastByte e, ?_⟩
  rw [readString.eq_def]
  simp [hu, he, hlead, push_of_lead hlead]

/-- A code unit that is no surrogate is read as the character it numbers. -/
theorem readString_unit {n : Nat} (hn : n < 0xD800) (cs : List Char) (p : Position) :
    ∃ q, readString s ('\\' :: 'u' :: (fourHex n ++ cs)) p =
      readString { s with chars := Char.ofNat n :: s.chars } cs q := by
  obtain ⟨a, b, d, e, hdigits, hread⟩ := fourHex?_fourHex (n := n) (by omega)
  have hunit : ∀ q, s.pushUnit n q = { s with chars := Char.ofNat n :: s.chars } := by
    intro q
    rw [Spelling.pushUnit, hlead]
    simp only
    rw [if_neg (by omega), if_neg (by omega)]
  refine ⟨((p.past '\\').pastByte 'u').advance 4, ?_⟩
  rw [hdigits, readString.eq_def]
  simp [hread, hunit]

/-- A string under way that is whole so far takes a character as it was written. -/
theorem readString_escapedChar (x : Char) (cs : List Char) (p : Position) :
    ∃ q, readString s (escapedChar x ++ cs) p =
      readString { s with chars := x :: s.chars } cs q := by
  unfold escapedChar
  split_ifs with hquote hslash hback hfeed hline hreturn htab hcontrol
  · subst hquote
    exact readString_letter hlead (by decide) rfl cs p
  · subst hslash
    exact readString_letter hlead (by decide) rfl cs p
  · subst hback
    exact readString_letter hlead (by decide) rfl cs p
  · subst hfeed
    exact readString_letter hlead (by decide) rfl cs p
  · subst hline
    exact readString_letter hlead (by decide) rfl cs p
  · subst hreturn
    exact readString_letter hlead (by decide) rfl cs p
  · subst htab
    exact readString_letter hlead (by decide) rfl cs p
  · have hx := readString_unit hlead (n := x.toNat) (by omega) cs p
    rwa [Char.ofNat_toNat] at hx
  · refine ⟨p.past x, ?_⟩
    rw [List.singleton_append, readString.eq_def]
    simp [hquote, hslash, hcontrol, push_of_lead hlead]

end

/-- **A string reads back**, from behind its opening quote. -/
theorem readString_written {s : Spelling} (hlead : s.lead = none) (hfault : s.fault = none)
    (cs rest : List Char) (p : Position) :
    ∃ c, readString s (cs.flatMap escapedChar ++ '"' :: rest) p =
      .ok (.ok (String.ofList (s.chars.reverse ++ cs)), c) ∧ c.rest = rest := by
  induction cs generalizing s p with
  | nil =>
    refine ⟨⟨rest, p.past '"'⟩, ?_, rfl⟩
    rw [List.flatMap_nil, List.nil_append, List.append_nil, readString.eq_def]
    simp [hlead, Spelling.finish, hfault]
  | cons x cs ih =>
    obtain ⟨q, hstep⟩ := readString_escapedChar hlead x (cs.flatMap escapedChar ++ '"' :: rest) p
    obtain ⟨c, hread, hrest⟩ := ih (s := { s with chars := x :: s.chars }) hlead hfault q
    refine ⟨c, ?_, hrest⟩
    rw [List.flatMap_cons, List.append_assoc, hstep, hread]
    simp

theorem readString_stringChars (s : String) (rest : List Char) (p : Position) :
    ∃ c, readString .start (s.toList.flatMap escapedChar ++ '"' :: rest) p = .ok (.ok s, c) ∧
      c.rest = rest := by
  obtain ⟨c, hread, hrest⟩ := readString_written (s := .start) rfl rfl s.toList rest p
  exact ⟨c, by simpa [Spelling.start] using hread, hrest⟩

/-! ## Whole numbers -/

/-- The digits of the decimal text of a number. -/
def written (n : Nat) : List Nat := (Nat.toDigits 10 n).map fun c => c.toNat - 48

/-- A text that does not carry on a whole number. -/
def Ends (cs : List Char) : Prop :=
  ∀ x ∈ cs.head?, x.isDigit = false ∧ x ≠ '.' ∧ x ≠ 'e' ∧ x ≠ 'E'

theorem ends_nil : Ends [] := by
  intro x hx
  cases hx

theorem ends_cons {x : Char} (h : x.isDigit = false ∧ x ≠ '.' ∧ x ≠ 'e' ∧ x ≠ 'E') :
    Ends (x :: rest) := by
  intro y hy
  cases hy
  exact h

theorem digitsValue_written (n : Nat) : Numeral.digitsValue (written n) = n := by
  have hfold : ∀ (cs : List Char) (m : Nat),
      (cs.map fun c => c.toNat - 48).foldl (fun n d => n * 10 + d) m =
        Nat.ofDigitChars 10 cs m := by
    intro cs
    induction cs with
    | nil => exact fun m => rfl
    | cons x cs ih =>
      intro m
      rw [List.map_cons, List.foldl_cons, ih, Nat.ofDigitChars_cons, Nat.mul_comm]
      rfl
  rw [Numeral.digitsValue, written, hfold, Nat.ofDigitChars_ten_toDigits]

theorem takeDigits_append {ds : List Char} (hds : ∀ x ∈ ds, x.isDigit = true)
    (h : ∀ x ∈ rest.head?, x.isDigit = false) :
    takeDigits (ds ++ rest) = (ds.map fun c => c.toNat - 48, rest) := by
  induction ds with
  | nil =>
    cases rest with
    | nil => rfl
    | cons x rest => simp [takeDigits, h x rfl]
  | cons y ds ih =>
    have hy : y.isDigit = true := hds y List.mem_cons_self
    have hrest := ih fun x hx => hds x (List.mem_cons_of_mem _ hx)
    rw [List.cons_append, takeDigits, if_pos hy, hrest]
    rfl

/-- A number above nine is not written with a leading zero. -/
theorem head_toDigits {n : Nat} (hn : 0 < n) : (Nat.toDigits 10 n).head? ≠ some '0' := by
  induction n using Nat.strongRecOn with
  | ind n ih =>
    rw [Nat.toDigits_eq_if (by omega)]
    split
    · rename_i hlt
      have hdigit : ∀ m < 10, 0 < m → Nat.digitChar m ≠ '0' := by decide
      simpa using hdigit n hlt hn
    · have hhead := ih (n / 10) (by omega) (by omega)
      cases he : Nat.toDigits 10 (n / 10) with
      | nil => exact absurd he Nat.toDigits_ne_nil
      | cons x xs =>
        rw [he] at hhead
        simpa using hhead

/-- A leading zero stands alone. -/
theorem written_ne (n d : Nat) (ds : List Nat) : written n ≠ 0 :: d :: ds := by
  intro he
  obtain ⟨x, xs, hdigits, hx, hxs⟩ := List.map_eq_cons_iff.mp he
  have hmem : x ∈ Nat.toDigits 10 n := hdigits ▸ List.mem_cons_self
  have hdigit : x.isDigit = true := Nat.isDigit_of_mem_toDigits (by omega) (by omega) hmem
  have hzero : x = '0' := by
    rw [Char.isDigit_iff_toNat] at hdigit
    exact Char.toNat_inj.mp (by simp only [Char.reduceToNat] at hdigit ⊢; omega)
  rcases Nat.eq_zero_or_pos n with rfl | hn
  · rw [Nat.toDigits_zero, List.cons.injEq] at hdigits
    rw [← hdigits.2] at hxs
    cases hxs
  · exact head_toDigits hn (by rw [hdigits, hzero]; rfl)

theorem readWhole_written {n : Nat} (hc : c.rest = Nat.toDigits 10 n ++ rest) (h : Ends rest) :
    ∃ c', readWhole c = .ok (written n, c') ∧ c'.rest = rest := by
  have htake : takeDigits c.rest = (written n, rest) := by
    rw [hc]
    exact takeDigits_append
      (fun y hy => Nat.isDigit_of_mem_toDigits (by omega) (by omega) hy) (fun y hy => (h y hy).1)
  have hne := written_ne n
  cases hw : written n with
  | nil => exact absurd (List.map_eq_nil_iff.mp hw) Nat.toDigits_ne_nil
  | cons d ds =>
    rw [hw] at htake hne
    have hdigits : readDigits c = .ok (d :: ds, ⟨rest, c.position.advance (d :: ds).length⟩) := by
      rw [readDigits, htake]
    refine ⟨⟨rest, c.position.advance (d :: ds).length⟩, ?_, rfl⟩
    -- only a zero with digits behind it is refused
    rw [readWhole, hdigits]
    simp only [bind, Except.bind, pure, Except.pure]

theorem readFraction_of_ends (h : Ends c.rest) : readFraction c = .ok ([], c) := by
  unfold readFraction
  split
  · rename_i rest he
    exact absurd rfl (h '.' (by rw [he]; rfl)).2.1
  · rfl

theorem readExponent_of_ends (h : Ends c.rest) : readExponent c = .ok (none, c) := by
  unfold readExponent
  split
  · rename_i x rest he
    obtain ⟨-, -, hlower, hupper⟩ := h x (by rw [he]; rfl)
    simp [hlower, hupper, pure, Except.pure]
  · rfl

/-- **A whole number reads back**, from behind its sign. -/
theorem readNumber_written {negative : Bool} {n : Nat} {x : Number}
    (hx : ofNumeral? ⟨negative, written n, [], none⟩ = some x)
    (hc : c.rest = Nat.toDigits 10 n ++ rest) (h : Ends rest) :
    ∃ c', readNumber negative c = .ok (.ok x, c') ∧ c'.rest = rest := by
  obtain ⟨c', hwhole, hrest⟩ := readWhole_written hc h
  rw [← hrest] at h
  refine ⟨c', ?_, hrest⟩
  simp only [readNumber, hwhole, readFraction_of_ends h, readExponent_of_ends h, hx, bind,
    Except.bind, pure, Except.pure]

/-- A natural number of 64 bits is what its digits give. -/
theorem ofNumeral?_natural (n : UInt64) :
    ofNumeral? ⟨false, written n.toNat, [], none⟩ = some (.natural n) := by
  have hlt : n.toNat < UInt64.size := n.toNat_lt
  simp [ofNumeral?, digitsValue_written, hlt]

/-- So is a negative one. -/
theorem ofNumeral?_negative (below : Fin (Nat.pow 2 63)) :
    ofNumeral? ⟨true, written (below.val + 1), [], none⟩ = some (.negative below) := by
  have hle : below.val + 1 ≤ Nat.pow 2 63 := below.isLt
  simp [ofNumeral?, digitsValue_written, hle]

end PushWake.Json
