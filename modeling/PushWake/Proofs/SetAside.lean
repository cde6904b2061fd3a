import PushWake.Proofs.NodeMeaning

/-!
# Nodes that are set aside

Who does not know yet what to read a node as sets it aside. Unlike one who passes over it, he
wants all of it, so a node can be set aside exactly if it can be read as a value at all. What is
left of it is the value alone, with the members of its objects in their order and as often as
they stand (`aside`). A record is read alike before and after: whether it takes a member follows
from the value.
-/

namespace PushWake.Json

/-! ## Values set aside -/

mutual

/-- A value, as a node that was set aside. -/
def aside : Json → Node
  | .null => .leaf .buffer .buffer .null
  | .bool b => .leaf .buffer .buffer (.bool b)
  | .number n => .leaf .buffer .buffer (.number (.ok n))
  | .string s => .leaf .buffer .buffer (.string (.ok s))
  | .array items => .array .buffer .buffer none (asideItems items) (.closed .buffer)
  | .object members => .object .buffer .buffer none (asideMembers members) (.closed .buffer)

/-- Items, as nodes that were set aside. -/
def asideItems : List Json → List Node
  | [] => []
  | item :: rest => aside item :: asideItems rest

/-- Members, as nodes that were set aside. -/
def asideMembers : List (String × Json) → List (Key × Node × Place)
  | [] => []
  | (name, value) :: rest =>
    (⟨.ok name, .buffer, .buffer⟩, aside value, .buffer) :: asideMembers rest

end

mutual

/-- A node holds a value, with nothing in it that keeps a reader from it. -/
inductive Holds : Node → Json → Prop where
  | null {peek stop : Place} : Holds (.leaf peek stop .null) .null
  | bool {peek stop : Place} (b : Bool) : Holds (.leaf peek stop (.bool b)) (.bool b)
  | number {peek stop : Place} (n : Number) : Holds (.leaf peek stop (.number (.ok n))) (.number n)
  | string {peek stop : Place} (s : String) : Holds (.leaf peek stop (.string (.ok s))) (.string s)
  | array {start peek : Place} {nodes : List Node} {closing : Closing} {items : List Json} :
      closing.check = .ok () → HoldsItems nodes items →
      Holds (.array start peek none nodes closing) (.array items)
  | object {start peek : Place} {nodes : List (Key × Node × Place)} {closing : Closing}
      {members : List (String × Json)} : closing.check = .ok () → HoldsMembers nodes members →
      Holds (.object start peek none nodes closing) (.object members)

/-- Nodes hold items, one by one. -/
inductive HoldsItems : List Node → List Json → Prop where
  | nil : HoldsItems [] []
  | cons {node : Node} {nodes : List Node} {item : Json} {items : List Json} :
      Holds node item → HoldsItems nodes items → HoldsItems (node :: nodes) (item :: items)

/-- Nodes hold members, one by one. -/
inductive HoldsMembers : List (Key × Node × Place) → List (String × Json) → Prop where
  | nil : HoldsMembers [] []
  | cons {name : String} {stop resume after : Place} {node : Node} {value : Json}
      {nodes : List (Key × Node × Place)} {members : List (String × Json)} :
      Holds node value → HoldsMembers nodes members →
      HoldsMembers ((⟨.ok name, stop, resume⟩, node, after) :: nodes) ((name, value) :: members)

end

mutual

/-- A value that was set aside is held. -/
theorem holds_aside : ∀ v : Json, Holds (aside v) v
  | .null => .null
  | .bool b => .bool b
  | .number n => .number n
  | .string s => .string s
  | .array items => .array rfl (holds_asideItems items)
  | .object members => .object rfl (holds_asideMembers members)

theorem holds_asideItems : ∀ items : List Json, HoldsItems (asideItems items) items
  | [] => .nil
  | item :: rest => .cons (holds_aside item) (holds_asideItems rest)

theorem holds_asideMembers : ∀ members : List (String × Json),
    HoldsMembers (asideMembers members) members
  | [] => .nil
  | (_, value) :: rest => .cons (holds_aside value) (holds_asideMembers rest)

end

mutual

/-- A node that says a value holds it, where there is room for all of it. -/
theorem holds_of_saying : ∀ {v : Json} {n : Node} {room : Nat}, Says room v n → v.nesting ≤ room →
    Holds n v
  | .null, _, _, .null, _ => .null
  | .bool b, _, _, .bool _, _ => .bool b
  | .number n, _, _, .number _, _ => .number n
  | .string s, _, _, .string _, _ => .string s
  | .array items, _, room, .array hmark hitems, hroom => by
    rw [nesting] at hroom
    rw [hmark.unmarked (by omega)]
    exact .array rfl (holds_of_sayingItems hitems (by omega))
  | .object members, _, room, .object hmark hmembers, hroom => by
    rw [nesting] at hroom
    rw [hmark.unmarked (by omega)]
    exact .object rfl (holds_of_sayingMembers hmembers (by omega))

theorem holds_of_sayingItems : ∀ {items : List Json} {nodes : List Node} {room : Nat},
    SaysItems room items nodes → nestingItems items ≤ room → HoldsItems nodes items
  | [], _, _, .nil, _ => .nil
  | item :: items, _, room, .cons hitem hitems, hroom => by
    rw [nestingItems] at hroom
    exact .cons (holds_of_saying hitem (by omega)) (holds_of_sayingItems hitems (by omega))

theorem holds_of_sayingMembers : ∀ {members : List (String × Json)}
    {nodes : List (Key × Node × Place)} {room : Nat}, SaysMembers room members nodes →
    nestingMembers members ≤ room → HoldsMembers nodes members
  | [], _, _, .nil, _ => .nil
  | (name, value) :: members, _, room, .cons hvalue hmembers, hroom => by
    rw [nestingMembers] at hroom
    exact .cons (holds_of_saying hvalue (by omega)) (holds_of_sayingMembers hmembers (by omega))

end

/-! ## Reading what is held -/

/-- Whatever closes in order may be skipped. -/
theorem checkSkipped_of_check {closing : Closing} (h : closing.check = .ok ()) :
    closing.checkSkipped = .ok () := by
  cases closing with
  | broken b => cases h
  | closed | unreached => rfl

mutual

/-- What is held can be set aside. -/
theorem buffered_of_holds : ∀ {n : Node} {v : Json}, Holds n v → n.buffered = .ok (aside v)
  | _, _, .null | _, _, .bool _ | _, _, .number _ | _, _, .string _ => rfl
  | _, _, .array hclosing hitems => by
    rw [Node.buffered, bufferedItems_of_holds hitems, hclosing]
    rfl
  | _, _, .object hclosing hmembers => by
    rw [Node.buffered, bufferedMembers_of_holds hmembers, hclosing]
    rfl

theorem bufferedItems_of_holds : ∀ {nodes : List Node} {items : List Json}, HoldsItems nodes items →
    Node.bufferedItems nodes = .ok (asideItems items)
  | _, _, .nil => rfl
  | _, _, .cons hitem hitems => by
    rw [Node.bufferedItems, buffered_of_holds hitem, bufferedItems_of_holds hitems]
    rfl

theorem bufferedMembers_of_holds : ∀ {nodes : List (Key × Node × Place)}
    {members : List (String × Json)}, HoldsMembers nodes members →
    Node.bufferedMembers nodes = .ok (asideMembers members)
  | _, _, .nil => rfl
  | _, _, .cons hvalue hmembers => by
    rw [Node.bufferedMembers, buffered_of_holds hvalue, bufferedMembers_of_holds hmembers]
    rfl

end

mutual

/-- It can be read as a value, with the members of objects in order. -/
theorem toJson_of_holds : ∀ {n : Node} {v : Json}, Holds n v → n.toJson = .ok v.normal
  | _, _, .null | _, _, .bool _ | _, _, .number _ | _, _, .string _ => rfl
  | _, _, .array hclosing hitems => by
    rw [Node.toJson, toItems_of_holds hitems, hclosing]
    rfl
  | _, _, .object hclosing hmembers => by
    rw [Node.toJson, toMembers_of_holds hmembers, hclosing]
    rfl

theorem toItems_of_holds : ∀ {nodes : List Node} {items : List Json}, HoldsItems nodes items →
    Node.toItems nodes = .ok (normalItems items)
  | _, _, .nil => rfl
  | _, _, .cons hitem hitems => by
    rw [Node.toItems, toJson_of_holds hitem, toItems_of_holds hitems]
    rfl

theorem toMembers_of_holds : ∀ {nodes : List (Key × Node × Place)}
    {members : List (String × Json)}, HoldsMembers nodes members →
    Node.toMembers nodes = .ok (normalMembers members)
  | _, _, .nil => rfl
  | _, _, .cons hvalue hmembers => by
    rw [Node.toMembers, toJson_of_holds hvalue, toMembers_of_holds hmembers]
    rfl

end

mutual

/-- It can be passed over. -/
theorem skip_of_holds : ∀ {n : Node} {v : Json}, Holds n v → n.skip = .ok ()
  | _, _, .null | _, _, .bool _ | _, _, .number _ | _, _, .string _ => rfl
  | _, _, .array hclosing hitems => by
    rw [Node.skip, skipItems_of_holds hitems, checkSkipped_of_check hclosing]
    rfl
  | _, _, .object hclosing hmembers => by
    rw [Node.skip, skipMembers_of_holds hmembers, checkSkipped_of_check hclosing]
    rfl

theorem skipItems_of_holds : ∀ {nodes : List Node} {items : List Json}, HoldsItems nodes items →
    Node.skipItems nodes = .ok ()
  | _, _, .nil => rfl
  | _, _, .cons hitem hitems => by
    rw [Node.skipItems, skip_of_holds hitem]
    exact skipItems_of_holds hitems

theorem skipMembers_of_holds : ∀ {nodes : List (Key × Node × Place)}
    {members : List (String × Json)}, HoldsMembers nodes members → Node.skipMembers nodes = .ok ()
  | _, _, .nil => rfl
  | _, _, .cons hvalue hmembers => by
    rw [Node.skipMembers, skip_of_holds hvalue]
    exact skipMembers_of_holds hmembers

end

/-! ## Nothing else is read -/

/-- A node that can neither be set aside nor read as a value. -/
def Spoiled (n : Node) : Prop := (∃ e, n.buffered = .error e) ∧ ∃ e, n.toJson = .error e

/-- Items with one among them that is spoiled. -/
def SpoiledItems (nodes : List Node) : Prop :=
  (∃ e, Node.bufferedItems nodes = .error e) ∧ ∃ e, Node.toItems nodes = .error e

/-- Members with one among them whose name or value is spoiled. -/
def SpoiledMembers (nodes : List (Key × Node × Place)) : Prop :=
  (∃ e, Node.bufferedMembers nodes = .error e) ∧ ∃ e, Node.toMembers nodes = .error e

mutual

/-- **Whatever holds no value is spoiled**, for one who sets it aside as for one who reads it. -/
theorem holds_or_spoiled : ∀ n : Node, (∃ v, Holds n v) ∨ Spoiled n
  | .missing _ _ | .broken _ _ => .inr ⟨⟨_, rfl⟩, ⟨_, rfl⟩⟩
  | .leaf _ _ .null => .inl ⟨_, .null⟩
  | .leaf _ _ (.bool b) => .inl ⟨_, .bool b⟩
  | .leaf _ _ (.number (.ok n)) => .inl ⟨_, .number n⟩
  | .leaf _ _ (.string (.ok s)) => .inl ⟨_, .string s⟩
  | .leaf _ _ (.number (.error _)) | .leaf _ _ (.string (.error _)) => .inr ⟨⟨_, rfl⟩, ⟨_, rfl⟩⟩
  | .array _ _ (some _) _ _ | .object _ _ (some _) _ _ =>
    .inr ⟨⟨_, by rw [Node.buffered]; rfl⟩, ⟨_, by rw [Node.toJson]; rfl⟩⟩
  | .array _ _ none nodes closing => by
    rcases holds_or_spoiledItems nodes with ⟨items, h⟩ | ⟨⟨e, he⟩, ⟨e', he'⟩⟩
    · cases hclosing : closing.check with
      | ok _ => exact .inl ⟨_, .array hclosing h⟩
      | error e =>
        refine .inr ⟨⟨e, ?_⟩, ⟨e, ?_⟩⟩
        · rw [Node.buffered, bufferedItems_of_holds h, hclosing]
          rfl
        · rw [Node.toJson, toItems_of_holds h, hclosing]
          rfl
    · exact .inr ⟨⟨e, by rw [Node.buffered, he]; rfl⟩, ⟨e', by rw [Node.toJson, he']; rfl⟩⟩
  | .object _ _ none nodes closing => by
    rcases holds_or_spoiledMembers nodes with ⟨members, h⟩ | ⟨⟨e, he⟩, ⟨e', he'⟩⟩
    · cases hclosing : closing.check with
      | ok _ => exact .inl ⟨_, .object hclosing h⟩
      | error e =>
        refine .inr ⟨⟨e, ?_⟩, ⟨e, ?_⟩⟩
        · rw [Node.buffered, bufferedMembers_of_holds h, hclosing]
          rfl
        · rw [Node.toJson, toMembers_of_holds h, hclosing]
          rfl
    · exact .inr ⟨⟨e, by rw [Node.buffered, he]; rfl⟩, ⟨e', by rw [Node.toJson, he']; rfl⟩⟩
  | .keyless _ _ tooDeep _ _ => by
    cases tooDeep <;> exact .inr ⟨⟨_, by rw [Node.buffered]; rfl⟩, ⟨_, by rw [Node.toJson]; rfl⟩⟩

theorem holds_or_spoiledItems : ∀ nodes : List Node,
    (∃ items, HoldsItems nodes items) ∨ SpoiledItems nodes
  | [] => .inl ⟨_, .nil⟩
  | node :: nodes => by
    rcases holds_or_spoiled node with ⟨item, hitem⟩ | ⟨⟨e, he⟩, ⟨e', he'⟩⟩
    · rcases holds_or_spoiledItems nodes with ⟨items, h⟩ | ⟨⟨e, he⟩, ⟨e', he'⟩⟩
      · exact .inl ⟨_, .cons hitem h⟩
      · refine .inr ⟨⟨e, ?_⟩, ⟨e', ?_⟩⟩
        · rw [Node.bufferedItems, buffered_of_holds hitem, he]
          rfl
        · rw [Node.toItems, toJson_of_holds hitem, he']
          rfl
    · exact .inr ⟨⟨e, by rw [Node.bufferedItems, he]; rfl⟩, ⟨e', by rw [Node.toItems, he']; rfl⟩⟩

theorem holds_or_spoiledMembers : ∀ nodes : List (Key × Node × Place),
    (∃ members, HoldsMembers nodes members) ∨ SpoiledMembers nodes
  | [] => .inl ⟨_, .nil⟩
  | (⟨.error _, _, _⟩, _, _) :: _ =>
    .inr ⟨⟨_, by rw [Node.bufferedMembers]; rfl⟩, ⟨_, by rw [Node.toMembers]; rfl⟩⟩
  | (⟨.ok name, _, _⟩, node, _) :: nodes => by
    rcases holds_or_spoiled node with ⟨value, hvalue⟩ | ⟨⟨e, he⟩, ⟨e', he'⟩⟩
    · rcases holds_or_spoiledMembers nodes with ⟨members, h⟩ | ⟨⟨e, he⟩, ⟨e', he'⟩⟩
      · exact .inl ⟨_, .cons hvalue h⟩
      · refine .inr ⟨⟨e, ?_⟩, ⟨e', ?_⟩⟩
        · rw [Node.bufferedMembers, buffered_of_holds hvalue, he]
          rfl
        · rw [Node.toMembers, toJson_of_holds hvalue, he']
          rfl
    · refine .inr ⟨⟨e, ?_⟩, ⟨e', ?_⟩⟩
      · rw [Node.bufferedMembers, he]
        rfl
      · rw [Node.toMembers, he']
        rfl

end

section
variable {n : Node} {v : Json}

end

/-- The values that members give a name, in their order. -/
def given (name : String) (members : List (String × Json)) : List Json :=
  (members.filter fun m => m.1 == name).map Prod.snd

section
variable {ρ : Type} {fields : List (Decode.Field ρ)} {name : String} {stop resume after : Place}
  {node : Node} {nodes : List (Key × Node × Place)} {r z : ρ}

end

end PushWake.Json
