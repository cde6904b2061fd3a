import PushWake.Json.Access
import PushWake.Lnurl.Reply
import PushWake.Proofs.Readback

/-!
# What a payer is told survives

The metadata of a payment is JSON text in a string, and the string is itself part of a JSON text:
what is escaped once inside is escaped again outside. Every value in order that is not nested too
deep is read back as it was written (`text_toJson`), so the outer reading gives back the inner text,
character by character, and the inner reading gives back the description.
-/

namespace PushWake

open Json

/-- A value in order is read back from its text, compact or indented. -/
theorem Json.text_toJson {v : Json} (hv : v.hasFloat = false) (ho : v.Ordered)
    (hfits : v.nesting ≤ roomAt 0) {text : String} (ht : text = v.compact ∨ text = v.pretty) :
    Decode.text Node.toJson text = .ok v := by
  obtain ⟨n, hsays, hread⟩ := text_printed hv ht
  rw [hread, toJson_of_saying hsays hfits, normal_of_ordered ho]

namespace Lnurl

variable {callback description : String} {limits : ReceiveLimits} {text : String}

/-- The metadata as a value is read back from its text. -/
theorem text_metadata (description : String) :
    Decode.text Node.toJson (metadata description) = .ok (metadataJson description) := by
  refine text_toJson rfl ?_ ?_ (.inl rfl)
  · simp [metadataJson, Ordered, OrderedItems]
  · simp [metadataJson, nesting, nestingItems, roomAt, maxDepth]

theorem ordered_infoReply : (infoReply callback limits description).Ordered := by
  refine ⟨?_, trivial, trivial, trivial, trivial, trivial, trivial⟩
  have hnames : ["callback", "maxSendable", "metadata", "minSendable", "tag"].Pairwise (· < ·) := by
    decide
  exact List.pairwise_map.mp hnames

/-- The first reply to a payer is read back from its text. -/
theorem text_infoReply (ht : text = (infoReply callback limits description).compact ∨
    text = (infoReply callback limits description).pretty) :
    Decode.text Node.toJson text = .ok (infoReply callback limits description) := by
  refine text_toJson rfl ordered_infoReply ?_ ht
  simp [infoReply, ofUInt64, nesting, nestingMembers, roomAt, maxDepth]

/-- **The metadata of a payment is lossless.** For every description, the metadata is the text
of one pair in a list, the type of the description and the description. It is the same text, and
read back to the same pair, after it has gone out in the first reply to a payer and the reply
has been read, whether that was written compact or indented. Only the same description has the
same metadata. -/
theorem metadata_is_lossless (description : String) :
    Decode.text Node.toJson (metadata description) =
      .ok (.array [.array [.string "text/plain", .string description]]) ∧
    (∀ callback limits, ∃ body inner,
      Decode.text Node.toJson (infoReply callback limits description).compact = .ok body ∧
      Decode.text Node.toJson (infoReply callback limits description).pretty = .ok body ∧
      body.field "metadata" = .string inner ∧ inner = metadata description ∧
      Decode.text Node.toJson inner =
        .ok (.array [.array [.string "text/plain", .string description]])) ∧
    ∀ other, metadata other = metadata description ↔ other = description := by
  refine ⟨text_metadata description, fun callback limits => ?_, fun other => ⟨fun hsame => ?_, ?_⟩⟩
  · exact ⟨_, _, text_infoReply (.inl rfl), text_infoReply (.inr rfl), rfl, rfl,
      text_metadata description⟩
  · have hread := text_metadata other
    rw [hsame, text_metadata description] at hread
    simpa [metadataJson] using hread.symm
  · rintro rfl
    rfl

example : metadata "a \"b\" \\ \n\u0001" =
    "[[\"text/plain\",\"a \\\"b\\\" \\\\ \\n\\u0001\"]]" := by
  decide

end Lnurl

end PushWake
