import PushWake.Json.Value

/-!
# The shape of a value

What decides whether a value survives being written and read: how deep its containers are nested,
whether there is a floating-point number in it, and whether its objects hold their members in the
order of their names. A value that was read is always in order (`normal`).
-/

namespace PushWake.Json

mutual

/-- How deep the containers of a value are nested: a value without parts has depth zero. -/
def nesting : Json → Nat
  | .null | .bool _ | .number _ | .string _ => 0
  | .array items => nestingItems items + 1
  | .object members => nestingMembers members + 1

/-- The deepest of some items. -/
def nestingItems : List Json → Nat
  | [] => 0
  | item :: rest => max (nesting item) (nestingItems rest)

/-- The deepest of some members. -/
def nestingMembers : List (String × Json) → Nat
  | [] => 0
  | (_, value) :: rest => max (nesting value) (nestingMembers rest)

end

mutual

/-- Whether there is a floating-point number in a value. -/
def hasFloat : Json → Bool
  | .number (.float _) => true
  | .null | .bool _ | .number _ | .string _ => false
  | .array items => hasFloatItems items
  | .object members => hasFloatMembers members

/-- Whether there is a floating-point number in some items. -/
def hasFloatItems : List Json → Bool
  | [] => false
  | item :: rest => hasFloat item || hasFloatItems rest

/-- Whether there is a floating-point number in some members. -/
def hasFloatMembers : List (String × Json) → Bool
  | [] => false
  | (_, value) :: rest => hasFloat value || hasFloatMembers rest

end

/-! ## Order -/

/-- Members in ascending order of their names, each name once. -/
def Ascending (members : List (String × Json)) : Prop := members.Pairwise fun m n => m.1 < n.1

mutual

/-- The objects of a value hold their members in order. -/
def Ordered : Json → Prop
  | .null | .bool _ | .number _ | .string _ => True
  | .array items => OrderedItems items
  | .object members => Ascending members ∧ OrderedMembers members

/-- So do the objects of some items. -/
def OrderedItems : List Json → Prop
  | [] => True
  | item :: rest => Ordered item ∧ OrderedItems rest

/-- So do the objects of some members. -/
def OrderedMembers : List (String × Json) → Prop
  | [] => True
  | (_, value) :: rest => Ordered value ∧ OrderedMembers rest

end

mutual

/-- A value with the members of its objects in order; of several members of a name the
last stays. -/
def normal : Json → Json
  | .array items => .array (normalItems items)
  | .object members => mkObject (normalMembers members)
  | v => v

/-- Some items in order. -/
def normalItems : List Json → List Json
  | [] => []
  | item :: rest => normal item :: normalItems rest

/-- Some members in order. -/
def normalMembers : List (String × Json) → List (String × Json)
  | [] => []
  | (name, value) :: rest => (name, normal value) :: normalMembers rest

end

/-- A member behind all others stays behind them. -/
theorem insert_last {name : String} {value : Json} {members : List (String × Json)}
    (h : ∀ m ∈ members, m.1 < name) : insert name value members = members ++ [(name, value)] := by
  induction members with
  | nil => rfl
  | cons m rest ih =>
    obtain ⟨n, v⟩ := m
    have hlt : n < name := h _ List.mem_cons_self
    have hrest := ih fun m hm => h m (List.mem_cons_of_mem _ hm)
    have hne : name ≠ n := by
      rintro rfl
      exact String.lt_irrefl _ hlt
    rw [insert, if_neg (String.lt_asymm hlt), if_neg hne, hrest]
    rfl

/-- Members that are in order stay in it. -/
theorem ofMembers_of_ascending {members : List (String × Json)} (h : Ascending members) :
    ofMembers members = members := by
  have hfold : ∀ later entered : List (String × Json), Ascending (entered ++ later) →
      later.foldl (fun entered m => insert m.1 m.2 entered) entered = entered ++ later := by
    intro later
    induction later with
    | nil => simp
    | cons m later ih =>
      intro entered hasc
      obtain ⟨-, -, hbefore⟩ := List.pairwise_append.mp hasc
      rw [List.foldl_cons, insert_last fun n hn => hbefore n hn m List.mem_cons_self]
      rw [ih (entered ++ [m]) (by simpa using hasc)]
      simp
  exact hfold members [] h

mutual

theorem normal_of_ordered : ∀ {v : Json}, v.Ordered → v.normal = v
  | .null, _ | .bool _, _ | .number _, _ | .string _, _ => rfl
  | .array items, h => by rw [normal, normalItems_of_ordered h]
  | .object members, h => by
    rw [normal, normalMembers_of_ordered h.2, mkObject, ofMembers_of_ascending h.1]

theorem normalItems_of_ordered : ∀ {items : List Json}, OrderedItems items →
    normalItems items = items
  | [], _ => rfl
  | _ :: _, h => by rw [normalItems, normal_of_ordered h.1, normalItems_of_ordered h.2]

theorem normalMembers_of_ordered : ∀ {members : List (String × Json)}, OrderedMembers members →
    normalMembers members = members
  | [], _ => rfl
  | (_, _) :: _, h => by
    rw [normalMembers, normal_of_ordered h.1, normalMembers_of_ordered h.2]

end

/-! ## Values in order -/

theorem mem_insert {name : String} {value : Json} {m : String × Json} :
    ∀ {members : List (String × Json)}, m ∈ insert name value members →
      m = (name, value) ∨ m ∈ members
  | [], h => .inl (List.mem_singleton.mp h)
  | (n, v) :: rest, h => by
    rw [insert] at h
    split at h
    · exact List.mem_cons.mp h
    · split at h
      · exact (List.mem_cons.mp h).imp_right (List.mem_cons_of_mem _)
      · rcases List.mem_cons.mp h with rfl | h
        · exact .inr List.mem_cons_self
        · exact (mem_insert h).imp_right (List.mem_cons_of_mem _)

theorem ascending_insert {name : String} {value : Json} {members : List (String × Json)}
    (h : Ascending members) : Ascending (insert name value members) := by
  induction members with
  | nil => exact List.pairwise_singleton _ _
  | cons m rest ih =>
    obtain ⟨n, v⟩ := m
    obtain ⟨hbefore, hrest⟩ := List.pairwise_cons.mp h
    rw [insert]
    split
    · rename_i hlt
      refine List.pairwise_cons.mpr ⟨fun m hm => ?_, h⟩
      rcases List.mem_cons.mp hm with rfl | hm
      · exact hlt
      · exact String.lt_trans hlt (hbefore m hm)
    · rename_i hnot
      split
      · rename_i he
        subst he
        exact List.pairwise_cons.mpr ⟨hbefore, hrest⟩
      · rename_i hne
        refine List.pairwise_cons.mpr ⟨fun m hm => ?_, ih hrest⟩
        rcases mem_insert hm with rfl | hm
        · exact Std.lt_of_le_of_ne (String.not_lt.mp hnot) (Ne.symm hne)
        · exact hbefore m hm

theorem orderedMembers_iff {members : List (String × Json)} :
    OrderedMembers members ↔ ∀ m ∈ members, m.2.Ordered := by
  induction members with
  | nil => simp [OrderedMembers]
  | cons m rest ih => simp [OrderedMembers, ih]

/-- Whatever the order in which its members are entered, an object holds them in order. -/
theorem ordered_mkObject {members : List (String × Json)} (h : OrderedMembers members) :
    (mkObject members).Ordered := by
  have hfold : ∀ later entered : List (String × Json), Ascending entered →
      (∀ m ∈ later, m.2.Ordered) → (∀ m ∈ entered, m.2.Ordered) →
      Ascending (later.foldl (fun entered m => insert m.1 m.2 entered) entered) ∧
        ∀ m ∈ later.foldl (fun entered m => insert m.1 m.2 entered) entered, m.2.Ordered := by
    intro later
    induction later with
    | nil => exact fun entered hasc _ hentered => ⟨hasc, hentered⟩
    | cons m later ih =>
      intro entered hasc hlater hentered
      refine ih _ (ascending_insert hasc) (fun n hn => hlater n (List.mem_cons_of_mem _ hn)) ?_
      intro n hn
      rcases mem_insert hn with rfl | hn
      · exact hlater m List.mem_cons_self
      · exact hentered n hn
  obtain ⟨hasc, hmembers⟩ := hfold members [] List.Pairwise.nil (orderedMembers_iff.mp h)
    fun _ hm => by cases hm
  exact ⟨hasc, orderedMembers_iff.mpr hmembers⟩

end PushWake.Json
