import PushWake.Json.Decode
import PushWake.Proofs.ValueShape

/-!
# What a node says

A node of a document is a value with places in it, which only complaints look at. `Says` forgets the
places: it relates a value to the nodes of texts that hold it and to the node of the value itself.
What a reader makes of a node depends on the value alone, but for the complaint and for containers
that are nested too deep.
-/

namespace PushWake.Json

/-- The mark of a container that stands where there is room for so many levels. -/
def MarkedFor (room : Nat) : Option Fault → Prop
  | none => 0 < room
  | some f => room = 0 ∧ f.flaw = .tooDeep

mutual

/-- A node says a value, whatever the places in it. The room is the number of levels of nesting that
a reader still puts up with there. -/
inductive Says : Nat → Json → Node → Prop where
  | null {room : Nat} {peek stop : Place} : Says room .null (.leaf peek stop .null)
  | bool {room : Nat} {peek stop : Place} (b : Bool) : Says room (.bool b)
      (.leaf peek stop (.bool b))
  | number {room : Nat} {peek stop : Place} (n : Number) :
      Says room (.number n) (.leaf peek stop (.number (.ok n)))
  | string {room : Nat} {peek stop : Place} (s : String) :
      Says room (.string s) (.leaf peek stop (.string (.ok s)))
  | array {room : Nat} {start peek stop : Place} {tooDeep : Option Fault} {items : List Json}
      {nodes : List Node} : MarkedFor room tooDeep → SaysItems (room - 1) items nodes →
      Says room (.array items) (.array start peek tooDeep nodes (.closed stop))
  | object {room : Nat} {start peek stop : Place} {tooDeep : Option Fault}
      {members : List (String × Json)} {nodes : List (Key × Node × Place)} :
      MarkedFor room tooDeep → SaysMembers (room - 1) members nodes →
      Says room (.object members) (.object start peek tooDeep nodes (.closed stop))

/-- Nodes say items, one by one. -/
inductive SaysItems : Nat → List Json → List Node → Prop where
  | nil {room : Nat} : SaysItems room [] []
  | cons {room : Nat} {item : Json} {node : Node} {items : List Json} {nodes : List Node} :
      Says room item node → SaysItems room items nodes →
      SaysItems room (item :: items) (node :: nodes)

/-- Nodes say members, one by one. -/
inductive SaysMembers : Nat → List (String × Json) → List (Key × Node × Place) → Prop where
  | nil {room : Nat} : SaysMembers room [] []
  | cons {room : Nat} {name : String} {stop resume after : Place} {value : Json} {node : Node}
      {members : List (String × Json)} {nodes : List (Key × Node × Place)} :
      Says room value node → SaysMembers room members nodes →
      SaysMembers room ((name, value) :: members) ((⟨.ok name, stop, resume⟩, node, after) :: nodes)

end

mutual

/-- A value read earlier says itself. -/
theorem says_ofJson {room : Nat} : ∀ (v : Json), v.nesting ≤ room → Says room v (Node.ofJson v)
  | .null, _ => .null
  | .bool b, _ => .bool b
  | .number n, _ => .number n
  | .string s, _ => .string s
  | .array items, h => by
    rw [nesting] at h
    exact .array (by rw [MarkedFor]; omega) (saysItems_ofItems items (by omega))
  | .object members, h => by
    rw [nesting] at h
    exact .object (by rw [MarkedFor]; omega) (saysMembers_ofMembers members (by omega))

theorem saysItems_ofItems {room : Nat} : ∀ (items : List Json), nestingItems items ≤ room →
    SaysItems room items (Node.ofItems items)
  | [], _ => .nil
  | item :: rest, h => by
    rw [nestingItems] at h
    exact .cons (says_ofJson item (by omega)) (saysItems_ofItems rest (by omega))

theorem saysMembers_ofMembers {room : Nat} : ∀ (members : List (String × Json)),
    nestingMembers members ≤ room → SaysMembers room members (Node.ofMembers members)
  | [], _ => .nil
  | (name, value) :: rest, h => by
    rw [nestingMembers] at h
    exact .cons (says_ofJson value (by omega)) (saysMembers_ofMembers rest (by omega))

end

/-! ## Reading it as a value -/

/-- Where there is room, a container is not marked. -/
theorem MarkedFor.unmarked {room : Nat} {tooDeep : Option Fault} (h : MarkedFor room tooDeep)
    (hroom : 0 < room) : tooDeep = none := by
  cases tooDeep with
  | none => rfl
  | some f => exact absurd h.1 (by omega)

/-- Where there is none, it is marked as too deep. -/
theorem MarkedFor.tooDeep {tooDeep : Option Fault} (h : MarkedFor 0 tooDeep) :
    ∃ p, tooDeep = some ⟨.tooDeep, p⟩ := by
  cases tooDeep with
  | none => exact absurd h (Nat.lt_irrefl 0)
  | some f =>
    obtain ⟨flaw, p⟩ := f
    obtain ⟨-, rfl⟩ := h
    exact ⟨p, rfl⟩

mutual

/-- A value that is not nested deeper than there is room is read as it is, with its members in
order. -/
theorem toJson_of_saying : ∀ {v : Json} {n : Node} {room : Nat}, Says room v n → v.nesting ≤ room →
    n.toJson = .ok v.normal
  | .null, _, _, .null, _ => rfl
  | .bool _, _, _, .bool _, _ => rfl
  | .number _, _, _, .number _, _ => rfl
  | .string _, _, _, .string _, _ => rfl
  | .array items, _, room, .array hmark hitems, hroom => by
    rw [nesting] at hroom
    have hread := toItems_of_saying hitems (by omega)
    rw [hmark.unmarked (by omega), Node.toJson, hread]
    rfl
  | .object members, _, room, .object hmark hmembers, hroom => by
    rw [nesting] at hroom
    have hread := toMembers_of_saying hmembers (by omega)
    rw [hmark.unmarked (by omega), Node.toJson, hread]
    rfl

theorem toItems_of_saying : ∀ {items : List Json} {nodes : List Node} {room : Nat},
    SaysItems room items nodes → nestingItems items ≤ room →
    Node.toItems nodes = .ok (normalItems items)
  | [], _, _, .nil, _ => rfl
  | item :: items, _, room, .cons hitem hitems, hroom => by
    rw [nestingItems] at hroom
    rw [Node.toItems, toJson_of_saying hitem (by omega), toItems_of_saying hitems (by omega)]
    rfl

theorem toMembers_of_saying : ∀ {members : List (String × Json)} {nodes : List (Key × Node × Place)}
    {room : Nat}, SaysMembers room members nodes → nestingMembers members ≤ room →
    Node.toMembers nodes = .ok (normalMembers members)
  | [], _, _, .nil, _ => rfl
  | (name, value) :: members, _, room, .cons hvalue hmembers, hroom => by
    rw [nestingMembers] at hroom
    rw [Node.toMembers, toJson_of_saying hvalue (by omega), toMembers_of_saying hmembers (by omega)]
    rfl

end

/-- The complaint of nesting too deep. -/
def tooDeepAt (p : Position) : DecodeError := ⟨.flaw .tooDeep, some p⟩

mutual

/-- A value that is nested deeper than there is room is refused for that. -/
theorem toJson_tooDeep : ∀ {v : Json} {n : Node} {room : Nat}, Says room v n → room < v.nesting →
    ∃ p, n.toJson = .error (tooDeepAt p)
  | .array items, _, 0, .array hmark _, _ => by
    obtain ⟨p, rfl⟩ := hmark.tooDeep
    exact ⟨p, by rw [Node.toJson]; rfl⟩
  | .array items, _, room + 1, .array hmark hitems, hdeep => by
    rw [nesting] at hdeep
    obtain ⟨p, hread⟩ := toItems_tooDeep hitems (by omega)
    refine ⟨p, ?_⟩
    rw [hmark.unmarked (by omega), Node.toJson, hread]
    rfl
  | .object members, _, 0, .object hmark _, _ => by
    obtain ⟨p, rfl⟩ := hmark.tooDeep
    exact ⟨p, by rw [Node.toJson]; rfl⟩
  | .object members, _, room + 1, .object hmark hmembers, hdeep => by
    rw [nesting] at hdeep
    obtain ⟨p, hread⟩ := toMembers_tooDeep hmembers (by omega)
    refine ⟨p, ?_⟩
    rw [hmark.unmarked (by omega), Node.toJson, hread]
    rfl

theorem toItems_tooDeep : ∀ {items : List Json} {nodes : List Node} {room : Nat},
    SaysItems room items nodes → room < nestingItems items →
    ∃ p, Node.toItems nodes = .error (tooDeepAt p)
  | item :: items, _, room, .cons hitem hitems, hdeep => by
    rw [nestingItems] at hdeep
    -- The first item that is too deep is met first; those before it are read.
    by_cases hfits : item.nesting ≤ room
    · obtain ⟨p, hread⟩ := toItems_tooDeep hitems (by omega)
      exact ⟨p, by rw [Node.toItems, toJson_of_saying hitem hfits, hread]; rfl⟩
    · obtain ⟨p, hread⟩ := toJson_tooDeep hitem (by omega)
      exact ⟨p, by rw [Node.toItems, hread]; rfl⟩

theorem toMembers_tooDeep : ∀ {members : List (String × Json)}
    {nodes : List (Key × Node × Place)} {room : Nat}, SaysMembers room members nodes →
    room < nestingMembers members → ∃ p, Node.toMembers nodes = .error (tooDeepAt p)
  | (name, value) :: members, _, room, .cons hvalue hmembers, hdeep => by
    rw [nestingMembers] at hdeep
    by_cases hfits : value.nesting ≤ room
    · obtain ⟨p, hread⟩ := toMembers_tooDeep hmembers (by omega)
      exact ⟨p, by rw [Node.toMembers, toJson_of_saying hvalue hfits, hread]; rfl⟩
    · obtain ⟨p, hread⟩ := toJson_tooDeep hvalue (by omega)
      exact ⟨p, by rw [Node.toMembers, hread]; rfl⟩

end

/-- A reading in two steps succeeds only if both steps do. -/
theorem exists_of_bind_eq_ok {α β : Type} {x : Except DecodeError α} {f : α → Except DecodeError β}
    {b : β} (h : x >>= f = .ok b) : ∃ a, x = .ok a ∧ f a = .ok b := by
  cases x with
  | error e => cases h
  | ok a => exact ⟨a, rfl, h⟩

mutual

/-- A value that was read is in order, whatever it was read from. -/
theorem ordered_of_toJson : ∀ {n : Node} {v : Json}, n.toJson = .ok v → v.Ordered
  | .missing _ _, _, h | .broken _ _, _, h => by cases h
  | .leaf _ _ .null, _, h | .leaf _ _ (.bool _), _, h | .leaf _ _ (.number (.ok _)), _, h
  | .leaf _ _ (.string (.ok _)), _, h => by
    cases h
    trivial
  | .leaf _ _ (.number (.error _)), _, h | .leaf _ _ (.string (.error _)), _, h => by cases h
  | .array _ _ _ nodes _, _, h => by
    rw [Node.toJson] at h
    obtain ⟨_, -, h⟩ := exists_of_bind_eq_ok h
    obtain ⟨items, hitems, h⟩ := exists_of_bind_eq_ok h
    obtain ⟨_, -, h⟩ := exists_of_bind_eq_ok h
    cases h
    exact ordered_of_toItems hitems
  | .object _ _ _ nodes _, _, h => by
    rw [Node.toJson] at h
    obtain ⟨_, -, h⟩ := exists_of_bind_eq_ok h
    obtain ⟨members, hmembers, h⟩ := exists_of_bind_eq_ok h
    obtain ⟨_, -, h⟩ := exists_of_bind_eq_ok h
    cases h
    exact ordered_mkObject (ordered_of_toMembers hmembers)
  | .keyless _ _ _ _ _, _, h => by
    rw [Node.toJson] at h
    obtain ⟨_, -, h⟩ := exists_of_bind_eq_ok h
    cases h

theorem ordered_of_toItems : ∀ {nodes : List Node} {items : List Json},
    Node.toItems nodes = .ok items → OrderedItems items
  | [], _, h => by
    cases h
    trivial
  | _ :: _, _, h => by
    rw [Node.toItems] at h
    obtain ⟨item, hitem, h⟩ := exists_of_bind_eq_ok h
    obtain ⟨rest, hrest, h⟩ := exists_of_bind_eq_ok h
    cases h
    exact ⟨ordered_of_toJson hitem, ordered_of_toItems hrest⟩

theorem ordered_of_toMembers : ∀ {nodes : List (Key × Node × Place)}
    {members : List (String × Json)}, Node.toMembers nodes = .ok members → OrderedMembers members
  | [], _, h => by
    cases h
    trivial
  | _ :: _, _, h => by
    rw [Node.toMembers] at h
    obtain ⟨name, -, h⟩ := exists_of_bind_eq_ok h
    obtain ⟨value, hvalue, h⟩ := exists_of_bind_eq_ok h
    obtain ⟨rest, hrest, h⟩ := exists_of_bind_eq_ok h
    cases h
    exact ⟨ordered_of_toJson hvalue, ordered_of_toMembers hrest⟩

end

mutual

/-- What is passed over may be nested as deep as it likes. -/
theorem skip_of_saying : ∀ {v : Json} {n : Node} {room : Nat}, Says room v n → n.skip = .ok ()
  | .null, _, _, .null => rfl
  | .bool _, _, _, .bool _ => rfl
  | .number _, _, _, .number _ => rfl
  | .string _, _, _, .string _ => rfl
  | .array _, _, _, .array _ hitems => by
    rw [Node.skip, skipItems_of_saying hitems]
    rfl
  | .object _, _, _, .object _ hmembers => by
    rw [Node.skip, skipMembers_of_saying hmembers]
    rfl

theorem skipItems_of_saying : ∀ {items : List Json} {nodes : List Node} {room : Nat},
    SaysItems room items nodes → Node.skipItems nodes = .ok ()
  | [], _, _, .nil => rfl
  | _ :: _, _, _, .cons hitem hitems => by
    rw [Node.skipItems, skip_of_saying hitem]
    exact skipItems_of_saying hitems

theorem skipMembers_of_saying : ∀ {members : List (String × Json)}
    {nodes : List (Key × Node × Place)} {room : Nat}, SaysMembers room members nodes →
    Node.skipMembers nodes = .ok ()
  | [], _, _, .nil => rfl
  | _ :: _, _, _, .cons hvalue hmembers => by
    rw [Node.skipMembers, skip_of_saying hvalue]
    exact skipMembers_of_saying hmembers

end

/-! ## Reading it as something else -/

/-- Two readings agree: both fail, or both succeed with related results. -/
def Agree {α β : Type} (related : α → β → Prop) :
    Except DecodeError α → Except DecodeError β → Prop
  | .ok a, .ok b => related a b
  | .error _, .error _ => True
  | _, _ => False

theorem Agree.bind {α β γ δ : Type} {related : α → β → Prop} {later : γ → δ → Prop}
    {x : Except DecodeError α} {y : Except DecodeError β} {f : α → Except DecodeError γ}
    {g : β → Except DecodeError δ} (h : Agree related x y)
    (hlater : ∀ a b, related a b → Agree later (f a) (g b)) : Agree later (x >>= f) (y >>= g) := by
  cases x with
  | error e => cases y with
    | error e' => exact h
    | ok b => exact h.elim
  | ok a => cases y with
    | error e' => exact h.elim
    | ok b => exact hlater a b h

/-- A reader is blind if it sees nothing of a node but the value that the node says. -/
def Blind {α : Type} (d : Decoder α) : Prop :=
  ∀ {v : Json} {n n' : Node} {room room' : Nat}, Says room v n → Says room' v n' →
    Agree Eq (d n) (d n')

namespace Blind

theorem string : Blind Decode.string := by
  intro v n n' room room' h h'
  cases h <;> cases h' <;> first | rfl | trivial

theorem uint64 : Blind Decode.uint64 := by
  intro v n n' room room' h h'
  cases h with
  | number number =>
    cases h'
    cases number <;> first | rfl | trivial
  | _ =>
    cases h'
    trivial

/-- So is one that goes on with the result alone. -/
theorem andThen {α β : Type} {d : Decoder α} (h : Blind d) (f : α → Except DecodeError β) :
    Blind fun node => d node >>= f := by
  intro v n n' room room' hmeans hmeans'
  refine Agree.bind (h hmeans hmeans') fun a b hab => ?_
  subst hab
  cases f a with
  | ok _ => exact rfl
  | error _ => trivial

end Blind

/-! ### Records -/

section
variable {ρ α : Type} {fields : List (Decode.Field ρ)}

theorem fillFromMembers_agree (hfields : ∀ f ∈ fields, ∀ r, Blind fun node => f.fill node r) :
    ∀ {members : List (String × Json)} {nodes nodes' : List (Key × Node × Place)}
      {room room' : Nat} (r : ρ), SaysMembers room members nodes →
      SaysMembers room' members nodes' →
      Agree Eq (Decode.fillFromMembers fields r nodes) (Decode.fillFromMembers fields r nodes')
  | [], _, _, _, _, r, .nil, .nil => rfl
  | (name, value) :: members, _, _, _, _, r, .cons hvalue hmembers, .cons hvalue' hmembers' => by
    simp only [Decode.fillFromMembers, orFault]
    refine Agree.bind (show Agree Eq _ _ from rfl) ?_
    rintro name _ rfl
    cases hfind : fields.find? fun f => f.name == name with
    | none =>
      rw [skip_of_saying hvalue, skip_of_saying hvalue']
      exact fillFromMembers_agree hfields r hmembers hmembers'
    | some f =>
      by_cases hfilled : f.isFilled r
      · simp only [if_pos hfilled]
        trivial
      · simp only [if_neg hfilled]
        have hblind := hfields f (List.mem_of_find?_eq_some hfind) r hvalue hvalue'
        refine Agree.bind hblind fun r' r'' hr => ?_
        subst hr
        exact fillFromMembers_agree hfields r' hmembers hmembers'

/-- The fields are filled alike, and items are left over in both cases or in neither. -/
theorem fillFromItems_agree {expected : String} {stop stop' : Place} :
    ∀ {fields : List (Decode.Field ρ)}, (∀ f ∈ fields, ∀ r, Blind fun node => f.fill node r) →
      ∀ {items : List Json} {nodes nodes' : List Node} {room room' index : Nat} (r : ρ),
      SaysItems room items nodes → SaysItems room' items nodes' →
      Agree (fun p q => p.1 = q.1 ∧ p.2.isEmpty = q.2.isEmpty)
        (Decode.fillFromItems expected (.closed stop) index r fields nodes)
        (Decode.fillFromItems expected (.closed stop') index r fields nodes')
  | [], _, [], _, _, _, _, _, r, .nil, .nil => ⟨rfl, rfl⟩
  | [], _, _ :: _, _, _, _, _, _, r, .cons _ _, .cons _ _ => ⟨rfl, rfl⟩
  | f :: fields, hfields, [], _, _, room, room', index, r, .nil, .nil => by
    simp only [Decode.fillFromItems, Closing.check]
    cases f.default with
    | none => trivial
    | some d =>
      have hnil : SaysItems room [] [] := .nil
      have hnil' : SaysItems room' [] [] := .nil
      exact fillFromItems_agree (fun g hg => hfields g (List.mem_cons_of_mem _ hg)) (d r) hnil hnil'
  | f :: fields, hfields, _ :: _, _, _, _, _, index, r, .cons hitem hitems,
      .cons hitem' hitems' => by
    simp only [Decode.fillFromItems]
    refine Agree.bind (hfields f List.mem_cons_self r hitem hitem') fun r' r'' hr => ?_
    subst hr
    exact fillFromItems_agree (fun g hg => hfields g (List.mem_cons_of_mem _ hg)) r' hitems hitems'

theorem checkNoMore_agree {start start' stop stop' : Place} {fieldCount count count' : Nat}
    {nodes nodes' : List Node} (h : nodes.isEmpty = nodes'.isEmpty) :
    Agree Eq (Decode.checkNoMore start fieldCount count (.closed stop) nodes)
      (Decode.checkNoMore start' fieldCount count' (.closed stop') nodes') := by
  cases nodes with
  | nil =>
    cases nodes' with
    | nil => exact rfl
    | cons _ _ => cases h
  | cons _ _ =>
    cases nodes' with
    | nil => cases h
    | cons _ _ => cases start <;> cases start' <;> trivial

theorem complete_agree {stop stop' : Place} (a : Except String α) :
    Agree Eq (Decode.complete stop a) (Decode.complete stop' a) := by
  cases a with
  | ok a => exact rfl
  | error name => trivial

/-- **A record is read alike from all nodes that say one value**, in either of its forms, where
there is room for one container. -/
theorem record_agree {title : String} {empty : ρ} {finish : ρ → Except String α}
    (hfields : ∀ f ∈ fields, ∀ r, Blind fun node => f.fill node r) {v : Json} {n n' : Node}
    {room room' : Nat} (h : Says room v n) (h' : Says room' v n') (hroom : 0 < room)
    (hroom' : 0 < room') :
    Agree Eq (Decode.record title fields empty finish n)
      (Decode.record title fields empty finish n') := by
  cases h with
  -- both nodes say the same array: the parts are filled alike, and so is what is left over
  | array hmark hitems =>
    cases h' with
    | array hmark' hitems' =>
      rw [hmark.unmarked hroom, hmark'.unmarked hroom']
      simp only [Decode.record, checkDepth]
      refine Agree.bind (show Agree Eq _ _ from rfl) fun _ _ _ => ?_
      refine Agree.bind (fillFromItems_agree hfields empty hitems hitems') ?_
      rintro ⟨r, rest⟩ ⟨r', rest'⟩ ⟨hr, hrest⟩
      cases hr
      exact Agree.bind (checkNoMore_agree hrest) fun _ _ _ => complete_agree (finish r)
  | object hmark hmembers =>
    cases h' with
    | object hmark' hmembers' =>
      rw [hmark.unmarked hroom, hmark'.unmarked hroom']
      simp only [Decode.record, checkDepth, Closing.check]
      refine Agree.bind (show Agree Eq _ _ from rfl) fun _ _ _ => ?_
      refine Agree.bind (fillFromMembers_agree hfields empty hmembers hmembers') ?_
      rintro r r' rfl
      exact complete_agree (finish r)
  | _ =>
    cases h'
    trivial

end

end PushWake.Json
