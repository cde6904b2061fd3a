import PushWake.Proofs.Readback
import PushWake.Trigger.Basic

/-!
# The two shapes of a payload

A payload comes as a value or as a string that holds the text of the value. The readers of requests
are records of strings and numbers, and records are read alike from all nodes that say one value
(`record_agree`). So both shapes of a message carry the same trigger, or none.
-/

namespace PushWake

open Json

/-- A field that takes what a blind reader gives is filled blindly. -/
theorem Json.Blind.fills {α ρ : Type} {d : Decoder α} (h : Blind d) (f : α → ρ) :
    Blind (fun node => do pure (f (← d node))) :=
  h.andThen fun a => pure (f a)

theorem SwapUpdatedRequest.fields_blind :
    ∀ f ∈ fields, ∀ r, Blind fun node => f.fill node r := by
  intro f hf r
  simp only [fields, List.mem_cons, List.not_mem_nil, or_false] at hf
  rcases hf with rfl | rfl
  · exact Blind.string.fills fun s => { r with id := some s }
  · exact Blind.string.fills fun s => { r with status := some s }

theorem PayInfoRequest.fields_blind :
    ∀ f ∈ fields, ∀ r, Blind fun node => f.fill node r := by
  intro f hf r
  simp only [fields, List.mem_cons, List.not_mem_nil, or_false] at hf
  rcases hf with rfl | rfl
  · exact Blind.string.fills fun s => { r with callbackUrl := some s }
  · exact Blind.string.fills fun s => { r with replyUrl := some s }

theorem PayInvoiceRequest.fields_blind :
    ∀ f ∈ fields, ∀ r, Blind fun node => f.fill node r := by
  intro f hf r
  simp only [fields, List.mem_cons, List.not_mem_nil, or_false] at hf
  rcases hf with rfl | rfl
  · exact Blind.uint64.fills fun n => { r with amount := some n }
  · exact Blind.string.fills fun s => { r with replyUrl := some s }

namespace Trigger

/-- Requests of every kind are read alike from all nodes that say one value. -/
theorem decoder_agree (kind : JobKind) {v : Json} {n n' : Node} {room room' : Nat}
    (h : Says room v n) (h' : Says room' v n') (hroom : 0 < room) (hroom' : 0 < room') :
    Agree Eq (decoder kind n) (decoder kind n') := by
  have hmap : ∀ {α : Type} {d : Decoder α} {f : α → Trigger}, Agree Eq (d n) (d n') →
      Agree Eq ((d n).map f) ((d n').map f) := by
    intro α d f hd
    refine Agree.bind hd ?_
    rintro a a' rfl
    exact rfl
  cases kind with
  | swapUpdated => exact hmap (record_agree SwapUpdatedRequest.fields_blind h h' hroom hroom')
  | lnurlPayInfo => exact hmap (record_agree PayInfoRequest.fields_blind h h' hroom hroom')
  | lnurlPayInvoice => exact hmap (record_agree PayInvoiceRequest.fields_blind h h' hroom hroom')

/-- A payload that is no string is read as the value that it is. -/
theorem decodePayload_of_ne_string {α : Type} (d : Decoder α) {v : Json} (h : ∀ s, v ≠ .string s) :
    decodePayload d v = Decode.value d v := by
  cases v with
  | string s => exact absurd rfl (h s)
  | _ => rfl

/-- **Both shapes of a payload are read alike.** Whatever the kind, a value that is not a string
and holds no float, and the string that holds its text, compact or indented, carry the same
trigger, or are both refused for their kind, or are both malformed payloads of that kind. It does
not matter what is in the value, how deep it is nested, or whether it names a request by members
or by items. -/
theorem payload_shapes_agree (kind : String) (v : Json) (hs : ∀ s, v ≠ .string s)
    (hv : v.hasFloat = false) (text : String) (ht : text = v.compact ∨ text = v.pretty) :
    (∃ t, ofMessage ⟨kind, v⟩ = .ok t ∧ ofMessage ⟨kind, .string text⟩ = .ok t) ∨
    (ofMessage ⟨kind, v⟩ = .error (.unknownKind kind) ∧
      ofMessage ⟨kind, .string text⟩ = .error (.unknownKind kind)) ∨
    (∃ r r', ofMessage ⟨kind, v⟩ = .error (.malformed kind r) ∧
      ofMessage ⟨kind, .string text⟩ = .error (.malformed kind r')) := by
  simp only [ofMessage]
  cases named.find? fun n => n.1 == kind with
  | none => exact .inr (.inl ⟨rfl, rfl⟩)
  | some found =>
    obtain ⟨name, job⟩ := found
    obtain ⟨n, hmeans, htext⟩ := text_printed hv ht
    have hvalue : Says (v.nesting + 1) v (Node.ofJson v) := says_ofJson v (by omega)
    -- both nodes mean the value, and a reader looks at no more than that
    have hagree := decoder_agree job hvalue hmeans (by omega) (by decide)
    have hread : decodePayload (decoder job) (.string text) = decoder job n := htext _
    simp only [decodePayload_of_ne_string _ hs, hread, Decode.value]
    cases ha : decoder job (Node.ofJson v) with
    | ok t =>
      cases hb : decoder job n with
      | ok t' =>
        rw [ha, hb] at hagree
        cases hagree
        exact .inl ⟨t, rfl, rfl⟩
      | error e =>
        rw [ha, hb] at hagree
        exact hagree.elim
    | error e =>
      cases hb : decoder job n with
      | ok t' =>
        rw [ha, hb] at hagree
        exact hagree.elim
      | error e' => exact .inr (.inr ⟨_, _, rfl, rfl⟩)

/-- A request with a member that nobody asked for. -/
def overfullRequest : Json :=
  .object [("amount", .ofUInt64 21000),
    ("extra", .array [.null, .object [("\u0001\"", .number (.negative 0)), ("a", .array [])]]),
    ("reply_url", .string "https://pay.example/\\r")]

theorem overfull_request_shapes_agree :
    (∀ s, overfullRequest ≠ .string s) ∧ overfullRequest.hasFloat = false ∧
    ((∃ t, ofMessage ⟨"lnurlpay_invoice", overfullRequest⟩ = .ok t ∧
        ofMessage ⟨"lnurlpay_invoice", .string overfullRequest.pretty⟩ = .ok t) ∨
      (ofMessage ⟨"lnurlpay_invoice", overfullRequest⟩ = .error (.unknownKind "lnurlpay_invoice") ∧
        ofMessage ⟨"lnurlpay_invoice", .string overfullRequest.pretty⟩ =
          .error (.unknownKind "lnurlpay_invoice")) ∨
      (∃ r r', ofMessage ⟨"lnurlpay_invoice", overfullRequest⟩ =
          .error (.malformed "lnurlpay_invoice" r) ∧
        ofMessage ⟨"lnurlpay_invoice", .string overfullRequest.pretty⟩ =
          .error (.malformed "lnurlpay_invoice" r'))) :=
  have hs : ∀ s, overfullRequest ≠ .string s := fun _ h => by cases h
  ⟨hs, rfl, payload_shapes_agree _ _ hs rfl _ (.inr rfl)⟩

end Trigger

end PushWake
