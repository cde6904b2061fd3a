import PushWake.Proofs.Layout
import PushWake.Proofs.NodeMeaning
import PushWake.Proofs.Tokens

/-!
# Written values read back

The reader, put on the text of a value in any layout, finds a node that says the value and stops
right behind it (`reads_laid`); so a text that holds nothing but a value has a document that says it
(`says_document`). There must be no float in the value. Nesting is no obstacle to the reader itself:
a container that is too deep is marked and read on.
-/

namespace PushWake.Json

variable {c : Cursor} {cs rest : List Char} {depth fuel : Nat}

/-! ## Reading a written value -/

/-- How many levels of nesting a reader puts up with inside so many containers. -/
def roomAt (depth : Nat) : Nat := maxDepth - 1 - depth

theorem marked_depthFault (depth : Nat) (peek : Position) :
    MarkedFor (roomAt depth) (depthFault (depth + 1) peek) := by
  unfold depthFault roomAt maxDepth
  split
  · exact ⟨by omega, rfl⟩
  · show 0 < 128 - 1 - depth
    omega

/-- A reader reads a value and stops before the rest of the text. -/
def Reads (fuel depth : Nat) (c : Cursor) (v : Json) (rest : List Char) : Prop :=
  ∃ n c', readNode fuel depth c = (n, some c') ∧ c'.rest = rest ∧ Says (roomAt depth) v n

/-! ### Words, strings and numbers -/

theorem reads_leaf {v : Json} (value : Leaf) (peek : Position) {c' : Cursor}
    (hread : readNode fuel depth c = leafOf peek (.ok (value, c'))) (hrest : c'.rest = rest)
    (hmeans : ∀ peek stop, Says (roomAt depth) v (.leaf peek stop value)) :
    Reads fuel depth c v rest :=
  ⟨_, c', hread, hrest, hmeans _ _⟩

theorem reads_null (h : c.skipBlanks.rest = ['n', 'u', 'l', 'l'] ++ rest) :
    Reads (fuel + 1) depth c .null rest := by
  obtain ⟨c', hread, hrest⟩ := readWordLeaf_append .null
    (c := ⟨['u', 'l', 'l'] ++ rest, c.skipBlanks.position.past 'n'⟩) rfl
  refine reads_leaf .null (c.skipBlanks.position.pastByte 'n') ?_ hrest fun _ _ => .null
  rw [readNode, ← hread]
  simp [h]

theorem reads_bool {b : Bool} {l : Layout}
    (h : c.skipBlanks.rest = laid l depth (.bool b) ++ rest) :
    Reads (fuel + 1) depth c (.bool b) rest := by
  cases b with
  | true =>
    obtain ⟨c', hread, hrest⟩ := readWordLeaf_append (.bool true)
      (c := ⟨['r', 'u', 'e'] ++ rest, c.skipBlanks.position.past 't'⟩) rfl
    refine reads_leaf (.bool true) (c.skipBlanks.position.pastByte 't') ?_ hrest fun _ _ =>
      .bool true
    rw [readNode, ← hread]
    simp [h, laid]
  | false =>
    obtain ⟨c', hread, hrest⟩ := readWordLeaf_append (.bool false)
      (c := ⟨['a', 'l', 's', 'e'] ++ rest, c.skipBlanks.position.past 'f'⟩) rfl
    refine reads_leaf (.bool false) (c.skipBlanks.position.pastByte 'f') ?_ hrest
      fun _ _ => .bool false
    rw [readNode, ← hread]
    simp [h, laid]

theorem reads_string {s : String} (h : c.skipBlanks.rest = stringChars s ++ rest) :
    Reads (fuel + 1) depth c (.string s) rest := by
  obtain ⟨c', hread, hrest⟩ := readString_stringChars s rest (c.skipBlanks.position.past '"')
  refine reads_leaf (.string (.ok s)) (c.skipBlanks.position.pastByte '"') ?_ hrest
    fun _ _ => .string s
  rw [stringChars] at h
  rw [readNode]
  simp [h, hread, Except.map]

/-- A digit begins nothing but a number. -/
theorem ne_of_isDigit {x : Char} (h : x.isDigit = true) : x ≠ 'n' ∧ x ≠ 't' ∧ x ≠ 'f' ∧ x ≠ '"' ∧
    x ≠ '-' := by
  refine ⟨?_, ?_, ?_, ?_, ?_⟩ <;>
  · rintro rfl
    cases h

theorem natural_text (n : UInt64) :
    (Number.natural n).text.toList = Nat.toDigits 10 n.toNat := by
  rw [Number.text, Nat.toString_eq_ofList_toDigits, String.toList_ofList]

theorem negative_text (below : Fin (Nat.pow 2 63)) :
    (Number.negative below).text.toList = '-' :: Nat.toDigits 10 (below.val + 1) := by
  rw [Number.text, Nat.toString_eq_ofList_toDigits, String.toList_append, String.toList_ofList]
  simp

theorem isDigit_of_toDigits {n : Nat} {x : Char} {xs : List Char}
    (h : Nat.toDigits 10 n = x :: xs) : x.isDigit = true :=
  Nat.isDigit_of_mem_toDigits (b := 10) (by omega) (by omega) (h ▸ List.mem_cons_self)

theorem reads_natural {n : UInt64} (h : c.skipBlanks.rest = (Number.natural n).text.toList ++ rest)
    (hends : Ends rest) : Reads (fuel + 1) depth c (.number (.natural n)) rest := by
  rw [natural_text] at h
  obtain ⟨c', hread, hrest⟩ := readNumber_written (ofNumeral?_natural n) h hends
  cases hdigits : Nat.toDigits 10 n.toNat with
  | nil => exact absurd hdigits Nat.toDigits_ne_nil
  | cons x xs =>
    have hx := isDigit_of_toDigits hdigits
    obtain ⟨hn, ht, hf, hquote, hminus⟩ := ne_of_isDigit hx
    refine reads_leaf (.number (.ok (.natural n))) (c.skipBlanks.position.pastByte x) ?_ hrest
      fun _ _ => .number _
    rw [hdigits] at h
    rw [readNode]
    simp [h, hread, Except.map, hn, ht, hf, hquote, hminus, hx]

theorem reads_negative {below : Fin (Nat.pow 2 63)}
    (h : c.skipBlanks.rest = (Number.negative below).text.toList ++ rest) (hends : Ends rest) :
    Reads (fuel + 1) depth c (.number (.negative below)) rest := by
  rw [negative_text] at h
  obtain ⟨c', hread, hrest⟩ := readNumber_written (ofNumeral?_negative below)
    (c := ⟨_, c.skipBlanks.position.past '-'⟩) rfl hends
  refine reads_leaf (.number (.ok (.negative below))) (c.skipBlanks.position.pastByte '-') ?_ hrest
    fun _ _ => .number _
  rw [readNode]
  simp [h, hread, Except.map]

/-- The text of a value does not begin with a blank, nor with a closing bracket. -/
theorem laid_eq_cons (l : Layout) (depth : Nat) {v : Json} (hv : v.hasFloat = false) :
    ∃ x xs, laid l depth v = x :: xs ∧ Cursor.isBlank x = false ∧ x ≠ ']' := by
  cases v with
  | null => exact ⟨_, _, rfl, rfl, by decide⟩
  | bool b => cases b <;> exact ⟨_, _, rfl, rfl, by decide⟩
  | number n =>
    cases n with
    | natural n =>
      cases hdigits : Nat.toDigits 10 n.toNat with
      | nil => exact absurd hdigits Nat.toDigits_ne_nil
      | cons x xs =>
        have hx := isDigit_of_toDigits hdigits
        refine ⟨x, xs, (natural_text n).trans hdigits, ?_, ?_⟩
        · rw [Bool.eq_false_iff]
          intro hblank
          have hcases : x = ' ' ∨ x = '\n' ∨ x = '\t' ∨ x = '\r' := by
            simpa [Cursor.isBlank, or_assoc] using hblank
          rcases hcases with rfl | rfl | rfl | rfl <;> cases hx
        · rintro rfl
          cases hx
    | negative below => exact ⟨_, _, negative_text below, rfl, by decide⟩
    | float x => cases hv
  | string s => exact ⟨_, _, rfl, rfl, by decide⟩
  | array items => cases items <;> exact ⟨_, _, rfl, rfl, by decide⟩
  | object members => cases members <;> exact ⟨_, _, rfl, rfl, by decide⟩

theorem solid_laid (l : Layout) (depth : Nat) {v : Json} (hv : v.hasFloat = false) :
    Solid (laid l depth v ++ rest) := by
  obtain ⟨x, xs, he, hblank, -⟩ := laid_eq_cons l depth hv
  rw [he]
  exact solid_cons hblank

/-! ## Lists -/

/-- A reader reads items up to the closing bracket. -/
def ReadsItems (fuel depth : Nat) (c : Cursor) (items : List Json) (rest : List Char) : Prop :=
  ∃ nodes stop c', readItem fuel depth c = (nodes, .closed stop, some c') ∧ c'.rest = rest ∧
    SaysItems (roomAt depth) items nodes

theorem reads_empty_array (h : c.skipBlanks.rest = '[' :: ']' :: rest) :
    Reads (fuel + 2) depth c (.array []) rest := by
  obtain ⟨inner, hinner⟩ : ∃ inner : Cursor, inner = Cursor.skipBlanks
      ⟨']' :: rest, c.skipBlanks.position.past '['⟩ := ⟨_, rfl⟩
  have hrest : inner.rest = ']' :: rest := by
    rw [hinner]
    exact rest_skipBlanks_of_solid rfl (solid_cons rfl)
  have hnode : readNode (fuel + 2) depth c = (.array (.text c.skipBlanks.position)
      (.text (c.skipBlanks.position.pastByte '['))
      (depthFault (depth + 1) (c.skipBlanks.position.pastByte '[')) []
      (.closed (.text (inner.position.advance 1))), some ⟨rest, inner.position.advance 1⟩) := by
    rw [readNode]
    simp [h, ← hinner, readFirstItem, hrest]
  exact ⟨_, _, hnode, rfl, .array (marked_depthFault depth _) .nil⟩

theorem reads_array {items : List Json} (h : c.skipBlanks.rest = '[' :: cs)
    (hne : ∀ p, ∃ x xs, (Cursor.skipBlanks ⟨cs, p⟩).rest = x :: xs ∧ x ≠ ']')
    (hitems : ∀ p, ReadsItems fuel (depth + 1) (Cursor.skipBlanks ⟨cs, p⟩) items rest) :
    Reads (fuel + 2) depth c (.array items) rest := by
  obtain ⟨x, xs, hx, hne⟩ := hne (c.skipBlanks.position.past '[')
  obtain ⟨nodes, stop, c', hread, hrest, hmeans⟩ := hitems (c.skipBlanks.position.past '[')
  have hnode : readNode (fuel + 2) depth c = (.array (.text c.skipBlanks.position)
      (.text (c.skipBlanks.position.pastByte '['))
      (depthFault (depth + 1) (c.skipBlanks.position.pastByte '[')) nodes (.closed stop),
      some c') := by
    rw [readNode]
    simp [h, readFirstItem, hx, hne, hread]
  exact ⟨_, c', hnode, hrest, .array (marked_depthFault depth _) hmeans⟩

/-- The bracket closes the list. -/
theorem readsItems_last {item : Json} {gap : List Char} (hgap : ∀ x ∈ gap, Cursor.isBlank x = true)
    (h : Reads fuel depth c item (gap ++ ']' :: rest)) :
    ReadsItems (fuel + 1) depth c [item] rest := by
  obtain ⟨node, c', hread, hrest, hmeans⟩ := h
  have hclose : c'.skipBlanks.rest = ']' :: rest := rest_skipBlanks hrest hgap (solid_cons rfl)
  refine ⟨[node], .text (c'.skipBlanks.position.advance 1),
    ⟨rest, c'.skipBlanks.position.advance 1⟩, ?_, rfl, .cons hmeans .nil⟩
  rw [readItem, hread]
  simp [hclose]

/-- A comma promises another item. -/
theorem readsItems_more {item : Json} {items : List Json}
    (h : Reads fuel depth c item (',' :: cs))
    (hne : ∀ p, ∃ x xs, (Cursor.skipBlanks ⟨cs, p⟩).rest = x :: xs ∧ x ≠ ']')
    (hmore : ∀ p, ReadsItems fuel depth (Cursor.skipBlanks ⟨cs, p⟩) items rest) :
    ReadsItems (fuel + 1) depth c (item :: items) rest := by
  obtain ⟨node, c', hread, hrest, hmeans⟩ := h
  have hcomma : c'.skipBlanks.rest = ',' :: cs := rest_skipBlanks_of_solid hrest (solid_cons rfl)
  obtain ⟨nodes, stop, c'', hread', hrest', hmeans'⟩ := hmore (c'.skipBlanks.position.advance 1)
  obtain ⟨x, xs, hx, hne⟩ := hne (c'.skipBlanks.position.advance 1)
  refine ⟨node :: nodes, stop, c'', ?_, hrest', .cons hmeans hmeans'⟩
  rw [readItem, hread]
  simp [hcomma, hx, hne, hread']

/-! ## Objects -/

/-- A reader reads members up to the closing brace. -/
def ReadsMembers (fuel depth : Nat) (c : Cursor) (members : List (String × Json))
    (rest : List Char) : Prop :=
  ∃ nodes stop c', readMember fuel depth c = (nodes, .closed stop, some c') ∧ c'.rest = rest ∧
    SaysMembers (roomAt depth) members nodes

theorem reads_empty_object (h : c.skipBlanks.rest = '\x7b' :: '\x7d' :: rest) :
    Reads (fuel + 1) depth c (.object []) rest := by
  obtain ⟨inner, hinner⟩ : ∃ inner : Cursor, inner = Cursor.skipBlanks
      ⟨'\x7d' :: rest, c.skipBlanks.position.past '\x7b'⟩ := ⟨_, rfl⟩
  have hrest : inner.rest = '\x7d' :: rest := by
    rw [hinner]
    exact rest_skipBlanks_of_solid rfl (solid_cons rfl)
  have hnode : readNode (fuel + 1) depth c = (.object (.text c.skipBlanks.position)
      (.text (c.skipBlanks.position.pastByte '\x7b'))
      (depthFault (depth + 1) (c.skipBlanks.position.pastByte '\x7b')) []
      (.closed (.text (inner.position.advance 1))), some ⟨rest, inner.position.advance 1⟩) := by
    rw [readNode]
    simp [h, ← hinner, hrest]
  exact ⟨_, _, hnode, rfl, .object (marked_depthFault depth _) .nil⟩

theorem reads_object {members : List (String × Json)} (h : c.skipBlanks.rest = '\x7b' :: cs)
    (hquote : ∀ p, ∃ xs, (Cursor.skipBlanks ⟨cs, p⟩).rest = '"' :: xs)
    (hmembers : ∀ p, ReadsMembers fuel (depth + 1) (Cursor.skipBlanks ⟨cs, p⟩) members rest) :
    Reads (fuel + 1) depth c (.object members) rest := by
  obtain ⟨xs, hx⟩ := hquote (c.skipBlanks.position.past '\x7b')
  obtain ⟨nodes, stop, c', hread, hrest, hmeans⟩ := hmembers (c.skipBlanks.position.past '\x7b')
  have hnode : readNode (fuel + 1) depth c = (.object (.text c.skipBlanks.position)
      (.text (c.skipBlanks.position.pastByte '\x7b'))
      (depthFault (depth + 1) (c.skipBlanks.position.pastByte '\x7b')) nodes (.closed stop),
      some c') := by
    rw [readNode]
    simp [h, hx, hread]
  exact ⟨_, c', hnode, hrest, .object (marked_depthFault depth _) hmeans⟩

/-- The brace closes the object. -/
theorem readsMembers_last {name : String} {value : Json} {gap : List Char}
    (hc : c.rest = stringChars name ++ ':' :: cs) (hgap : ∀ x ∈ gap, Cursor.isBlank x = true)
    (h : ∀ p, Reads fuel depth ⟨cs, p⟩ value (gap ++ '\x7d' :: rest)) :
    ReadsMembers (fuel + 1) depth c [(name, value)] rest := by
  obtain ⟨k, hkey, hk⟩ := readString_stringChars name (':' :: cs) (c.position.advance 1)
  have hcolon : k.skipBlanks.rest = ':' :: cs := rest_skipBlanks_of_solid hk (solid_cons rfl)
  obtain ⟨node, c', hread, hrest, hmeans⟩ := h (k.skipBlanks.position.advance 1)
  have hclose : c'.skipBlanks.rest = '\x7d' :: rest := rest_skipBlanks hrest hgap (solid_cons rfl)
  refine ⟨[(⟨.ok name, .text k.position, .text k.skipBlanks.position⟩, node,
    .text c'.skipBlanks.position)], .text (c'.skipBlanks.position.advance 1),
    ⟨rest, c'.skipBlanks.position.advance 1⟩, ?_, rfl, .cons hmeans .nil⟩
  rw [stringChars] at hc
  rw [readMember]
  simp [hc, hkey, hcolon, hread, hclose]

/-- A comma promises another member. -/
theorem readsMembers_more {name : String} {value : Json} {members : List (String × Json)}
    {cs' : List Char} (hc : c.rest = stringChars name ++ ':' :: cs)
    (h : ∀ p, Reads fuel depth ⟨cs, p⟩ value (',' :: cs'))
    (hquote : ∀ p, ∃ xs, (Cursor.skipBlanks ⟨cs', p⟩).rest = '"' :: xs)
    (hmore : ∀ p, ReadsMembers fuel depth (Cursor.skipBlanks ⟨cs', p⟩) members rest) :
    ReadsMembers (fuel + 1) depth c ((name, value) :: members) rest := by
  obtain ⟨k, hkey, hk⟩ := readString_stringChars name (':' :: cs) (c.position.advance 1)
  have hcolon : k.skipBlanks.rest = ':' :: cs := rest_skipBlanks_of_solid hk (solid_cons rfl)
  obtain ⟨node, c', hread, hrest, hmeans⟩ := h (k.skipBlanks.position.advance 1)
  have hcomma : c'.skipBlanks.rest = ',' :: cs' := rest_skipBlanks_of_solid hrest (solid_cons rfl)
  obtain ⟨xs, hx⟩ := hquote (c'.skipBlanks.position.advance 1)
  obtain ⟨nodes, stop, c'', hread', hrest', hmeans'⟩ := hmore (c'.skipBlanks.position.advance 1)
  refine ⟨(⟨.ok name, .text k.position, .text k.skipBlanks.position⟩, node,
    .text c'.skipBlanks.position) :: nodes, stop, c'', ?_, hrest', .cons hmeans hmeans'⟩
  rw [stringChars] at hc
  rw [readMember]
  simp [hc, hkey, hcolon, hread, hcomma, hx, hread']

/-! ## Values -/

section
variable (l : Layout) (depth : Nat)

/-- A number ends where blanks or a mark of punctuation follow. -/
theorem ends_gap {gap : List Char} (hgap : ∀ x ∈ gap, Cursor.isBlank x = true) {x : Char}
    (hx : Ends (x :: cs)) : Ends (gap ++ x :: cs) := by
  cases gap with
  | nil => exact hx
  | cons y gap =>
    have hblank := hgap y List.mem_cons_self
    have hcases : y = ' ' ∨ y = '\n' ∨ y = '\t' ∨ y = '\r' := by
      simpa [Cursor.isBlank, or_assoc] using hblank
    rcases hcases with rfl | rfl | rfl | rfl <;> exact ends_cons (by decide)

theorem ends_laidItems (rest : List Char) (items : List Json) :
    Ends (laidItems l depth items ++ rest) := by
  cases items with
  | nil =>
    rw [laidItems, List.append_assoc]
    exact ends_gap (l.gap_blank depth) (ends_cons (by decide))
  | cons item items => exact ends_cons (by decide)

theorem ends_laidMembers (rest : List Char) (members : List (String × Json)) :
    Ends (laidMembers l depth members ++ rest) := by
  cases members with
  | nil =>
    rw [laidMembers, List.append_assoc]
    exact ends_gap (l.gap_blank depth) (ends_cons (by decide))
  | cons m members => exact ends_cons (by decide)

theorem skipBlanks_laid (cs : List Char) {gap : List Char}
    (hgap : ∀ x ∈ gap, Cursor.isBlank x = true) {v : Json} (hv : v.hasFloat = false)
    (p : Position) :
    (Cursor.skipBlanks ⟨gap ++ (laid l depth v ++ cs), p⟩).rest = laid l depth v ++ cs :=
  rest_skipBlanks rfl hgap (solid_laid l depth hv)

theorem skipBlanks_name {gap : List Char} (hgap : ∀ x ∈ gap, Cursor.isBlank x = true)
    (name : String) (p : Position) :
    (Cursor.skipBlanks ⟨gap ++ (stringChars name ++ cs), p⟩).rest = stringChars name ++ cs :=
  rest_skipBlanks rfl hgap (solid_cons rfl)

theorem skipBlanks_laid_ne {gap : List Char} (hgap : ∀ x ∈ gap, Cursor.isBlank x = true) {v : Json}
    (hv : v.hasFloat = false) (p : Position) :
    ∃ x xs, (Cursor.skipBlanks ⟨gap ++ (laid l depth v ++ cs), p⟩).rest = x :: xs ∧ x ≠ ']' := by
  obtain ⟨x, xs, he, -, hne⟩ := laid_eq_cons l depth hv
  exact ⟨x, xs ++ cs, by rw [skipBlanks_laid l depth cs hgap hv, he, List.cons_append], hne⟩

theorem length_laid_pos {v : Json} (hv : v.hasFloat = false) : 0 < (laid l depth v).length := by
  obtain ⟨x, xs, he, -⟩ := laid_eq_cons l depth hv
  rw [he]
  exact Nat.succ_pos _

end

mutual

/-- **A written value reads back.** What the reader finds says the value, and the reader stops right
behind it; fuel for three times the length of the text is enough. -/
theorem reads_laid (l : Layout) : ∀ (v : Json) {depth fuel : Nat} {c : Cursor} {rest : List Char},
    v.hasFloat = false → Ends rest → 3 * (laid l depth v).length ≤ fuel →
    c.skipBlanks.rest = laid l depth v ++ rest → Reads fuel depth c v rest
  | v, depth, 0, _, _, hv, _, hfuel, _ => by
    -- fuel for thrice its length is never none, for every value has a text
    have hpos := length_laid_pos l depth hv
    omega
  | .null, _, _ + 1, _, _, _, _, _, h => reads_null h
  | .bool _, _, _ + 1, _, _, _, _, _, h => reads_bool h
  | .number (.natural _), _, _ + 1, _, _, _, hends, _, h => reads_natural h hends
  | .number (.negative _), _, _ + 1, _, _, _, hends, _, h => reads_negative h hends
  | .string _, _, _ + 1, _, _, _, _, _, h => reads_string h
  | .array [], depth, fuel + 1, c, rest, _, _, hfuel, h => by
    simp only [laid, List.length_cons, List.length_nil] at hfuel
    obtain ⟨fuel, rfl⟩ : ∃ f, fuel = f + 1 := ⟨fuel - 1, by omega⟩
    exact reads_empty_array h
  | .array (item :: items), depth, fuel + 1, c, rest, hv, _, hfuel, h => by
    rw [hasFloat, hasFloatItems, Bool.or_eq_false_iff] at hv
    rw [laid, List.cons_append, List.append_assoc, List.append_assoc] at h
    simp only [laid, List.length_cons, List.length_append] at hfuel
    obtain ⟨fuel, rfl⟩ : ∃ f, fuel = f + 1 := ⟨fuel - 1, by omega⟩
    refine reads_array h (skipBlanks_laid_ne l _ (l.gap_blank _) hv.1) fun p => ?_
    have hitem := skipBlanks_laid l (depth + 1) (laidItems l depth items ++ rest)
      (l.gap_blank (depth + 1)) hv.1 p
    exact readsItems l item items hv.1 hv.2 (by omega)
      (rest_skipBlanks_of_solid hitem (solid_laid l _ hv.1))
  | .object [], _, _ + 1, _, _, _, _, _, h => reads_empty_object h
  | .object ((name, value) :: members), depth, fuel + 1, c, rest, hv, _, hfuel, h => by
    rw [hasFloat, hasFloatMembers, Bool.or_eq_false_iff] at hv
    simp only [laid, List.cons_append, List.append_assoc] at h
    simp only [laid, List.length_cons, List.length_append] at hfuel
    refine reads_object h (fun p => ⟨_, skipBlanks_name (l.gap_blank _) name p⟩) fun p => ?_
    exact readsMembers l name value members hv.1 hv.2 (by omega)
      (skipBlanks_name (l.gap_blank _) name p)
termination_by _ _ fuel => fuel

theorem readsItems (l : Layout) : ∀ (item : Json) (items : List Json) {depth fuel : Nat}
    {c : Cursor} {rest : List Char}, item.hasFloat = false → hasFloatItems items = false →
    3 * ((laid l (depth + 1) item).length + (laidItems l depth items).length) ≤ fuel →
    c.skipBlanks.rest = laid l (depth + 1) item ++ (laidItems l depth items ++ rest) →
    ReadsItems fuel (depth + 1) c (item :: items) rest
  | item, items, depth, 0, _, _, hv, _, hfuel, _ => by
    have hpos := length_laid_pos l (depth + 1) hv
    omega
  | item, [], depth, fuel + 1, c, rest, hv, _, hfuel, h => by
    have hends := ends_laidItems l depth rest []
    simp only [laidItems, List.length_append, List.length_cons, List.append_assoc] at hfuel h hends
    exact readsItems_last (l.gap_blank depth) (reads_laid l item hv hends (by omega) h)
  | item, next :: items, depth, fuel + 1, c, rest, hv, hvs, hfuel, h => by
    rw [hasFloatItems, Bool.or_eq_false_iff] at hvs
    have hends := ends_laidItems l depth rest (next :: items)
    simp only [laidItems, List.length_append, List.length_cons, List.append_assoc,
      List.cons_append] at hfuel h hends
    refine readsItems_more (reads_laid l item hv hends (by omega) h)
      (skipBlanks_laid_ne l _ (l.gap_blank _) hvs.1) fun p => ?_
    have hitem := skipBlanks_laid l (depth + 1) (laidItems l depth items ++ rest)
      (l.gap_blank (depth + 1)) hvs.1 p
    exact readsItems l next items hvs.1 hvs.2 (by omega)
      (rest_skipBlanks_of_solid hitem (solid_laid l _ hvs.1))
termination_by _ _ _ fuel => fuel

theorem readsMembers (l : Layout) : ∀ (name : String) (value : Json)
    (members : List (String × Json)) {depth fuel : Nat} {c : Cursor} {rest : List Char},
    value.hasFloat = false → hasFloatMembers members = false →
    3 * ((laid l (depth + 1) value).length + (laidMembers l depth members).length) ≤ fuel →
    c.rest = stringChars name ++ ':' :: (l.afterColon ++
      (laid l (depth + 1) value ++ (laidMembers l depth members ++ rest))) →
    ReadsMembers fuel (depth + 1) c ((name, value) :: members) rest
  | name, value, members, depth, 0, _, _, hv, _, hfuel, _ => by
    have hpos := length_laid_pos l (depth + 1) hv
    omega
  | name, value, [], depth, fuel + 1, c, rest, hv, _, hfuel, h => by
    have hends := ends_laidMembers l depth rest []
    simp only [laidMembers, List.length_append, List.length_cons,
      List.append_assoc] at hfuel h hends
    refine readsMembers_last h (l.gap_blank depth) fun p => ?_
    exact reads_laid l value hv hends (by omega) (skipBlanks_laid l _ _ l.afterColon_blank hv p)
  | name, value, (name', value') :: members, depth, fuel + 1, c, rest, hv, hvs, hfuel, h => by
    rw [hasFloatMembers, Bool.or_eq_false_iff] at hvs
    have hends := ends_laidMembers l depth rest ((name', value') :: members)
    simp only [laidMembers, List.length_append, List.length_cons, List.append_assoc,
      List.cons_append] at hfuel h hends
    refine readsMembers_more h
      (fun p => reads_laid l value hv hends (by omega)
        (skipBlanks_laid l _ _ l.afterColon_blank hv p))
      (fun p => ⟨_, skipBlanks_name (l.gap_blank _) name' p⟩) fun p => ?_
    exact readsMembers l name' value' members hvs.1 hvs.2 (by omega)
      (skipBlanks_name (l.gap_blank _) name' p)
termination_by _ _ _ _ fuel => fuel

end

/-! ## Whole texts -/

/-- The text of a value has a document that says the value, with nothing behind it. -/
theorem says_document (l : Layout) {v : Json} (hv : v.hasFloat = false) :
    ∃ n, Document.ofChars (laid l 0 v) = ⟨n, none⟩ ∧ Says (roomAt 0) v n := by
  have hstart : (Cursor.ofChars (laid l 0 v)).skipBlanks.rest = laid l 0 v ++ [] := by
    have hsolid : Solid (laid l 0 v ++ []) := solid_laid l 0 hv
    exact rest_skipBlanks_of_solid (List.append_nil _).symm hsolid
  have hfuel : 3 * (laid l 0 v).length ≤ 3 * (laid l 0 v).length + 3 := by omega
  obtain ⟨n, c', hread, hrest, hmeans⟩ := reads_laid l v hv ends_nil hfuel hstart
  refine ⟨n, ?_, hmeans⟩
  have hend : c'.skipBlanks.rest = [] := by
    rw [Cursor.skipBlanks, hrest]
    rfl
  simp [Document.ofChars, hread, hend]

/-- Whatever a text of the value is read as, it is read from a node that says the value. -/
theorem text_laid (l : Layout) {v : Json} (hv : v.hasFloat = false) :
    ∃ n, Says (roomAt 0) v n ∧
      ∀ {α : Type} (d : Decoder α), Decode.text d (String.ofList (laid l 0 v)) = d n := by
  obtain ⟨n, hdocument, hmeans⟩ := says_document l hv
  refine ⟨n, hmeans, fun d => ?_⟩
  rw [Decode.text, Document.ofText, String.toList_ofList, hdocument]
  cases hd : d n <;> simp [bind, Except.bind, pure, Except.pure]

/-- So it is with the compact text and with the indented one. -/
theorem text_printed {v : Json} (hv : v.hasFloat = false) {text : String}
    (ht : text = v.compact ∨ text = v.pretty) :
    ∃ n, Says (roomAt 0) v n ∧ ∀ {α : Type} (d : Decoder α), Decode.text d text = d n := by
  rcases ht with rfl | rfl
  · rw [compact, ← laid_compact 0 v]
    exact text_laid .compact hv
  · rw [pretty, ← laid_indented 0 v]
    exact text_laid .indented hv

end PushWake.Json
