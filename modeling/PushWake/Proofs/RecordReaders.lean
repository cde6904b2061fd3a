import PushWake.Proofs.Readback

/-!
# Readers that recover

A reader recovers something from a value if it finds it in every node that says the value. Readers
of strings, numbers and lists do, and a record does if its fields do: `Fills` follows a record
through the members of an object, one field after the other. A reader that recovers finds the same
in the text of the value, compact or indented.
-/

namespace PushWake.Json

/-- A reader finds something in every node that says a value, where there is room for the value. -/
structure Recovers {α : Type} (d : Decoder α) (v : Json) (a : α) : Prop where
  read : ∀ {room : Nat} {n : Node}, v.nesting ≤ room → Says room v n → d n = .ok a

namespace Recovers

variable {α β : Type} {d : Decoder α} {v : Json} {a : α}

theorem string (s : String) : Recovers Decode.string (.string s) s := by
  refine ⟨fun _ h => ?_⟩
  cases h
  rfl

theorem uint64 (n : UInt64) : Recovers Decode.uint64 (.ofUInt64 n) n := by
  refine ⟨fun _ h => ?_⟩
  cases h
  rfl

/-- A reader of a field goes on with what it has found. -/
theorem fill (h : Recovers d v a) (f : α → β) :
    Recovers (fun node => do pure (f (← d node))) v (f a) := by
  refine ⟨fun hroom hsaid => ?_⟩
  simp only [h.read hroom hsaid]
  rfl

/-- A value that is not null is there. -/
theorem option (h : Recovers d v a) (hv : v ≠ .null) : Recovers (Decode.option d) v (some a) := by
  refine ⟨fun {room n} hroom hsaid => ?_⟩
  have hread : (d n).map some = .ok (some a) := by
    rw [h.read hroom hsaid]
    rfl
  cases hsaid with
  | null => exact absurd rfl hv
  | _ => exact hread

/-- A name stands for what it names. -/
theorem name {names : List (String × α)} {s : String}
    (h : names.find? (fun n => n.1 == s) = some (s, a)) :
    Recovers (Decode.name names) (.string s) a := by
  refine ⟨fun _ hsaid => ?_⟩
  cases hsaid
  have hfind : (names.map fun n => Decode.Variant.plain n.1 n.2).find? (fun v => v.name == s) =
      some (.plain s a) := by
    rw [List.find?_map]
    exact congrArg _ h
  simp [Decode.name, Decode.choice, Decode.pick, hfind, orFault, bind, Except.bind, pure,
    Except.pure]

/-- Items are recovered one after the other. -/
theorem items {f : α → Json} (h : ∀ a, Recovers d (f a) a) :
    ∀ (as : List α) {room : Nat} {nodes : List Node}, nestingItems (as.map f) ≤ room →
      SaysItems room (as.map f) nodes → Decode.items d nodes = .ok as
  | [], _, _, _, .nil => rfl
  | a :: as, _, _, hroom, .cons hitem hitems => by
    rw [List.map_cons, nestingItems] at hroom
    rw [Decode.items, (h a).read (by omega) hitem, items h as (by omega) hitems]
    rfl

theorem list {f : α → Json} (h : ∀ a, Recovers d (f a) a) (as : List α) :
    Recovers (Decode.list d) (.array (as.map f)) as := by
  refine ⟨fun hroom hsaid => ?_⟩
  rw [nesting] at hroom
  cases hsaid with
  | array hmark hitems =>
    rw [hmark.unmarked (by omega)]
    simp only [Decode.list, checkDepth, Closing.check, items h as (by omega) hitems]
    rfl

end Recovers

/-! ## Records -/

section
variable {ρ α : Type} {fields : List (Decode.Field ρ)}

/-- The members of an object fill a record, each of them the field of its name. -/
inductive Fills (fields : List (Decode.Field ρ)) : ρ → List (String × Json) → ρ → Prop where
  | nil {r : ρ} : Fills fields r [] r
  | cons {r r' r'' : ρ} {name : String} {value : Json} {members : List (String × Json)}
      {f : Decode.Field ρ} : fields.find? (fun f => f.name == name) = some f →
        f.isFilled r = false →
      Recovers (fun node => f.fill node r) value r' → Fills fields r' members r'' →
      Fills fields r ((name, value) :: members) r''

theorem fillFromMembers_of_fills {r r' : ρ} {members : List (String × Json)}
    {nodes : List (Key × Node × Place)} {room : Nat} (h : Fills fields r members r')
    (hroom : nestingMembers members ≤ room) (hsaid : SaysMembers room members nodes) :
    Decode.fillFromMembers fields r nodes = .ok r' := by
  induction h generalizing nodes with
  | nil =>
    cases hsaid
    rfl
  | cons hfind hfilled hvalue _ ih =>
    cases hsaid with
    | cons hnode hnodes =>
      rw [nestingMembers] at hroom
      have hfill := hvalue.read (by omega) hnode
      simp only [Decode.fillFromMembers, orFault, bind, Except.bind, hfind, hfilled, hfill]
      exact ih (by omega) hnodes

/-- **A record whose fields are recovered is recovered.** -/
theorem Recovers.record {title : String} {empty r : ρ} {finish : ρ → Except String α} {a : α}
    {members : List (String × Json)} (h : Fills fields empty members r)
    (hfinish : finish r = .ok a) :
    Recovers (Decode.record title fields empty finish) (.object members) a := by
  refine ⟨fun hroom hsaid => ?_⟩
  rw [nesting] at hroom
  cases hsaid with
  | object hmark hmembers =>
    rw [hmark.unmarked (by omega)]
    simp only [Decode.record, checkDepth, Closing.check, bind, Except.bind,
      fillFromMembers_of_fills h (by omega) hmembers, hfinish]
    rfl

end

/-! ## Texts -/

/-- A value without floats that is nested at most so many levels deep. -/
structure Plain (levels : Nat) (v : Json) : Prop where
  floatless : v.hasFloat = false
  shallow : v.nesting ≤ levels

namespace Plain

variable {levels : Nat}

theorem string (s : String) : Plain levels (.string s) :=
  ⟨rfl, Nat.zero_le _⟩

theorem uint64 (n : UInt64) : Plain levels (.ofUInt64 n) :=
  ⟨rfl, Nat.zero_le _⟩

theorem array {items : List Json} (h : ∀ v ∈ items, Plain levels v) :
    Plain (levels + 1) (.array items) := by
  have hitems : hasFloatItems items = false ∧ nestingItems items ≤ levels := by
    induction items with
    | nil => exact ⟨rfl, Nat.zero_le _⟩
    | cons v items ih =>
      obtain ⟨hv, hrest⟩ := List.forall_mem_cons.mp h
      obtain ⟨hfloat, hnesting⟩ := ih hrest
      rw [hasFloatItems, nestingItems, hv.floatless, hfloat]
      exact ⟨rfl, Nat.max_le.mpr ⟨hv.shallow, hnesting⟩⟩
  refine ⟨hitems.1, ?_⟩
  rw [nesting]
  omega

theorem object {members : List (String × Json)} (h : ∀ m ∈ members, Plain levels m.2) :
    Plain (levels + 1) (.object members) := by
  have hmembers : hasFloatMembers members = false ∧ nestingMembers members ≤ levels := by
    induction members with
    | nil => exact ⟨rfl, Nat.zero_le _⟩
    | cons m members ih =>
      obtain ⟨hv, hrest⟩ := List.forall_mem_cons.mp h
      obtain ⟨hfloat, hnesting⟩ := ih hrest
      rw [hasFloatMembers, nestingMembers, hv.floatless, hfloat]
      exact ⟨rfl, Nat.max_le.mpr ⟨hv.shallow, hnesting⟩⟩
  refine ⟨hmembers.1, ?_⟩
  rw [nesting]
  omega

theorem strings (ss : List String) : Plain (levels + 1) (.array (ss.map .string)) := by
  refine .array fun v hv => ?_
  obtain ⟨s, -, rfl⟩ := List.mem_map.mp hv
  exact .string s

end Plain

/-- What is recovered from a plain value is read from its text. -/
theorem Recovers.text {α : Type} {d : Decoder α} {v : Json} {a : α} {levels : Nat}
    (h : Recovers d v a) (hv : v.Plain levels) (hlevels : levels ≤ roomAt 0) {text : String}
    (ht : text = v.compact ∨ text = v.pretty) : Decode.text d text = .ok a := by
  obtain ⟨n, hsaid, htext⟩ := text_printed hv.floatless ht
  rw [htext, h.read (Nat.le_trans hv.shallow hlevels) hsaid]

end PushWake.Json
