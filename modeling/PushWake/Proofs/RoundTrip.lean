import PushWake.Proofs.Readback
import PushWake.Trigger.Basic
import PushWake.Wallet.Event

/-!
# Messages and events survive their text

A message and an event, written as JSON text and read back, are the same, with one exception: a
payload in a message has room for 126 levels of nesting, one level less than the message itself.
-/

namespace PushWake

open Json

/-! ## Messages -/

namespace TriggerMessage

variable {m : TriggerMessage} {n : Node}

theorem hasFloat_toJson (h : m.payload.hasFloat = false) : m.toJson.hasFloat = false := by
  simp [toJson, hasFloat, hasFloatMembers, h]

/-- What the node of a message comes to depends on what the node of its payload comes to. -/
theorem decode_of_saying (h : Says (roomAt 0) m.toJson n) :
    ∃ node, Says 126 m.payload node ∧ decode n = node.toJson.map fun payload =>
      ⟨m.kind, payload⟩ := by
  cases h with
  | object hmark hmembers =>
    obtain _ | ⟨hkind, hmembers⟩ := hmembers
    cases hmembers with
    | @cons _ _ _ _ _ _ node _ _ hpayload hmembers =>
      cases hkind
      cases hmembers
      refine ⟨node, hpayload, ?_⟩
      rw [hmark.unmarked (by decide)]
      simp only [decode, Decode.record, checkDepth, fields, Decode.fillFromMembers, orFault,
        Decode.string, Closing.check, bind, Except.bind, pure, Except.pure]
      cases hread : node.toJson <;> simp [hread, Decode.complete, Except.map]

/-- **A message with a payload that fits survives its text**, compact or indented. -/
theorem ofText_printed (hv : m.payload.hasFloat = false) {text : String}
    (ht : text = m.toText ∨ text = m.toJson.pretty) :
    (m.payload.nesting ≤ 126 → ofText text = .ok { m with payload := m.payload.normal }) ∧
    (126 < m.payload.nesting →
      ∃ p, ofText text = .error (.malformed "message" (tooDeepAt p).message)) := by
  obtain ⟨n, hmeans, htext⟩ := text_printed (hasFloat_toJson hv) ht
  obtain ⟨node, hpayload, hdecode⟩ := decode_of_saying hmeans
  rw [ofText, htext, hdecode]
  refine ⟨fun hfits => ?_, fun hdeep => ?_⟩
  · rw [toJson_of_saying hpayload hfits]
    rfl
  · obtain ⟨p, hread⟩ := toJson_tooDeep hpayload hdeep
    exact ⟨p, by rw [hread]; rfl⟩

end TriggerMessage

/-! ## Events -/

namespace Event

variable {n : Node}

theorem hasFloat_toJson (e : Event) : e.toJson.hasFloat = false := by
  cases e <;> rfl

section
variable {start peek stop peek' stop' keyStop resume after : Place} {tag : Tag} {name : String}
  {nodes nodes' : List (Key × Node × Place)}

/-- A name stands for the kind beside it. -/
theorem Tag.decode_of_mem (h : (name, tag) ∈ Tag.named) :
    Tag.decode (.leaf peek stop (.string (.ok name))) = .ok tag := by
  simp only [Tag.named, List.mem_cons, Prod.mk.injEq, List.not_mem_nil, or_false] at h
  rcases h with ⟨rfl, rfl⟩ | ⟨rfl, rfl⟩ | ⟨rfl, rfl⟩ | ⟨rfl, rfl⟩ <;>
    simp [Tag.decode, Tag.named, orFault, bind, Except.bind, pure, Except.pure]

/-- An object whose first member is its type is read for what follows it. -/
theorem decode_typed (hname : (name, tag) ∈ Tag.named)
    (hnodes : splitMembers (some tag) nodes = .ok (some tag, nodes')) :
    decode (.object start peek none ((⟨.ok "type", keyStop, resume⟩,
      .leaf peek' stop' (.string (.ok name)), after) :: nodes) (.closed stop)) =
      decodeContent tag (.object .buffer .buffer none nodes' (.closed .buffer)) := by
  simp [decode, checkDepth, splitMembers, orFault, Tag.decode_of_mem hname, hnodes, Closing.check,
    bind, Except.bind]

/-- A member that is not the type is set aside, and those after it. -/
theorem splitMembers_aside {node node' : Node} (hname : name ≠ "type")
    (hnode : node.buffered = .ok node')
    (hnodes : splitMembers (some tag) nodes = .ok (some tag, nodes')) :
    splitMembers (some tag) ((⟨.ok name, keyStop, resume⟩, node, after) :: nodes) =
      .ok (some tag, (⟨.ok name, .buffer, .buffer⟩, node', .buffer) :: nodes') := by
  simp [splitMembers, orFault, hname, hnode, hnodes, bind, Except.bind, pure, Except.pure]

end

/-- **An event is read from every node that says it.** -/
theorem decode_of_saying {e : Event} (h : Says (roomAt 0) e.toJson n) : decode n = .ok e := by
  -- the members are taken apart in the order in which they are written; the tag is the first, and
  -- says how the others are read
  cases e with
  | synced =>
    cases h with
    | object hmark hmembers =>
      obtain _ | ⟨htype, hmembers⟩ := hmembers
      cases htype
      cases hmembers
      have hname : ("synced", Tag.synced) ∈ Tag.named := by simp [Tag.named]
      rw [hmark.unmarked (by decide), decode_typed hname rfl]
      rfl
  | waitingConfirmation id =>
    cases h with
    | object hmark hmembers =>
      obtain _ | ⟨htype, hmembers⟩ := hmembers
      obtain _ | ⟨hid, hmembers⟩ := hmembers
      cases htype
      cases hid
      cases hmembers
      have hname : ("payment_waiting_confirmation", Tag.waitingConfirmation) ∈ Tag.named := by
        simp [Tag.named]
      rw [hmark.unmarked (by decide), decode_typed hname (splitMembers_aside (by decide) rfl rfl)]
      rfl
  | succeeded id amount =>
    cases h with
    | object hmark hmembers =>
      obtain _ | ⟨htype, hmembers⟩ := hmembers
      obtain _ | ⟨hid, hmembers⟩ := hmembers
      obtain _ | ⟨hamount, hmembers⟩ := hmembers
      cases htype
      cases hid
      cases hamount
      cases hmembers
      have hname : ("payment_succeeded", Tag.succeeded) ∈ Tag.named := by simp [Tag.named]
      rw [hmark.unmarked (by decide), decode_typed hname
        (splitMembers_aside (by decide) rfl (splitMembers_aside (by decide) rfl rfl))]
      rfl
  | failed id reason =>
    cases h with
    | object hmark hmembers =>
      obtain _ | ⟨htype, hmembers⟩ := hmembers
      obtain _ | ⟨hid, hmembers⟩ := hmembers
      obtain _ | ⟨hreason, hmembers⟩ := hmembers
      cases htype
      cases hid
      cases hreason
      cases hmembers
      have hname : ("payment_failed", Tag.failed) ∈ Tag.named := by simp [Tag.named]
      rw [hmark.unmarked (by decide), decode_typed hname
        (splitMembers_aside (by decide) rfl (splitMembers_aside (by decide) rfl rfl))]
      rfl

end Event

/-! ## Both -/

/-- **What is written is read back.** A message without floats in its payload survives its text,
compact or indented, as long as the payload is nested at most 126 deep; with a deeper one its text
is refused as malformed for its nesting. The payload holds the members of its objects in order, as
every value does that was read (`ordered_of_toJson`). An event always survives its text. -/
theorem messages_and_events_survive_text :
    (∀ m : TriggerMessage, m.payload.hasFloat = false → m.payload.Ordered →
      ∀ text, text = m.toText ∨ text = m.toJson.pretty →
        (m.payload.nesting ≤ 126 → TriggerMessage.ofText text = .ok m) ∧
        (126 < m.payload.nesting → ∃ line column : Nat,
          TriggerMessage.ofText text = .error (.malformed "message" ("recursion limit exceeded" ++
            " at line " ++ toString line ++ " column " ++ toString column)))) ∧
    ∀ (e : Event) (text : String), text = e.toJson.compact ∨ text = e.toJson.pretty →
      Decode.text Event.decode text = .ok e := by
  refine ⟨fun m hv ho text ht => ?_, fun e text ht => ?_⟩
  · obtain ⟨hfits, hdeep⟩ := TriggerMessage.ofText_printed hv ht
    refine ⟨fun h => ?_, fun h => ?_⟩
    · rw [hfits h, normal_of_ordered ho]
    · obtain ⟨p, hread⟩ := hdeep h
      exact ⟨p.line, p.column, hread⟩
  · obtain ⟨n, hmeans, htext⟩ := text_printed e.hasFloat_toJson ht
    rw [htext, Event.decode_of_saying hmeans]

/-- A list in a list in a list, and so on, with a number in the middle. -/
def boxed : Nat → Json
  | 0 => .number (.negative ⟨Nat.pow 2 63 - 1, by decide⟩)
  | n + 1 => .array [boxed n]

theorem nesting_boxed (n : Nat) : (boxed n).nesting = n := by
  induction n with
  | zero => rfl
  | succ n ih => simp [boxed, nesting, nestingItems, ih]

theorem hasFloat_boxed (n : Nat) : (boxed n).hasFloat = false := by
  induction n with
  | zero => rfl
  | succ n ih => simp [boxed, hasFloat, hasFloatItems, ih]

theorem ordered_boxed (n : Nat) : (boxed n).Ordered := by
  induction n with
  | zero => trivial
  | succ n ih => exact ⟨ih, trivial⟩

theorem boxed_messages_and_large_payment_survive_text :
    TriggerMessage.ofText (TriggerMessage.toText ⟨"a \u0001\"\\", boxed 126⟩) =
      .ok ⟨"a \u0001\"\\", boxed 126⟩ ∧
    (∃ line column : Nat,
      TriggerMessage.ofText (TriggerMessage.toText ⟨"swap_updated", boxed 127⟩) =
      .error (.malformed "message" ("recursion limit exceeded" ++ " at line " ++ toString line ++
        " column " ++ toString column))) ∧
    Decode.text Event.decode (Event.succeeded "\x7f\n" 18446744073709551615).toJson.pretty =
      .ok (.succeeded "\x7f\n" 18446744073709551615) :=
  have hread := messages_and_events_survive_text
  ⟨(hread.1 ⟨_, boxed 126⟩ (hasFloat_boxed 126) (ordered_boxed 126) _ (.inl rfl)).1
      (Nat.le_of_eq (nesting_boxed 126)),
    (hread.1 ⟨_, boxed 127⟩ (hasFloat_boxed 127) (ordered_boxed 127) _ (.inl rfl)).2
      (Nat.lt_of_lt_of_eq (by decide) (nesting_boxed 127).symm),
    hread.2 _ _ (.inr rfl)⟩

end PushWake
