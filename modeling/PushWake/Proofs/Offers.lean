import PushWake.Json.Access
import PushWake.Proofs.Replies

/-!
# What is offered and what is received

A payer is first told between which limits it may pay, in thousandths of a satoshi, and then asks
for an invoice over an amount. Whether the invoice is asked for is decided in whole satoshi, so an
amount is received if it lies between the limits that were offered once it has been rounded down.
-/

namespace PushWake

namespace PayRequest

variable {a : PayAnswers} {description : String} {limits : ReceiveLimits}

theorem body_payInfo (r : PayInfoRequest) (hlimits : a.limits = .ok limits) :
    (payInfo r).body a description = Lnurl.infoReply r.callbackUrl limits description := by
  rw [body, verdict, hlimits]

/-- An invoice is asked for if the whole satoshi of the amount are between the limits. -/
theorem invoiced_ne_nil_iff (r : PayInvoiceRequest) (hlimits : a.limits = .ok limits) :
    (payInvoice r).invoiced a ≠ [] ↔ limits.Allows (r.amount.toNat / 1000) := by
  rw [invoiced, hlimits]
  by_cases hallows : limits.Allows (r.amount.toNat / 1000)
  · simp [hallows]
  · simp [hallows]

end PayRequest

namespace Service

variable {W : Type} {env : Collaborators W} {found found' : Nat → W} {s s' t t' : Service W}
  {id id' : Identity} {c c' session session' n n' : Nat} {result result' : Except JobError Unit}
  {offer : PayInfoRequest} {request : PayInvoiceRequest} {limits : ReceiveLimits}

/-- **What is offered is received, in whole satoshi.** Where the limits are the same, an invoice is
asked for exactly if the amount, rounded down to whole satoshi, lies between the limits in the reply
to the first request. For an amount of whole satoshi, that is whether the amount itself lies between
them. -/
theorem whole_amounts_within_offer_are_received
    (hoffer : s.work? id = some (.payInfo offer)) (hunused : s.completers[c]? = some ⟨id, none⟩)
    (hrequest : s'.work? id' = some (.payInvoice request))
    (hunused' : s'.completers[c']? = some ⟨id', none⟩)
    (hlimits : (PayAnswers.heard env session found).limits = .ok limits)
    (hlimits' : (PayAnswers.heard env session' found').limits = .ok limits)
    (hended : Answering env found id c session s n t (.done result))
    (hended' : Answering env found' id' c' session' s' n' t' (.done result')) :
    ∃ body minSendable maxSendable asked,
      replies id t.record = replies id s.record ++ [(offer.replyUrl, body)] ∧
      body.field "minSendable" = .ofUInt64 minSendable ∧
      body.field "maxSendable" = .ofUInt64 maxSendable ∧
      payments id' t'.record = payments id' s'.record ++ asked ∧
      (asked ≠ [] ↔ minSendable.toNat ≤ 1000 * (request.amount.toNat / 1000) ∧
        1000 * (request.amount.toNat / 1000) ≤ maxSendable.toNat) ∧
      (request.amount.toNat % 1000 = 0 → (asked ≠ [] ↔
        minSendable.toNat ≤ request.amount.toNat ∧ request.amount.toNat ≤ maxSendable.toNat)) := by
  have hoffered := (underway (q := .payInfo offer) hoffer hunused hended).replies_eq
  have hasked := (underway (q := .payInvoice request) hrequest hunused' hended').payments_eq
  rw [PayRequest.body_payInfo offer hlimits] at hoffered
  have hiff : ((PayRequest.payInvoice request).invoiced (.heard env session' found')).map
        (fun sat => (sat, s'.config.lnurl.description)) ≠ [] ↔
      (Lnurl.toMillisat limits.minSat).toNat ≤ 1000 * (request.amount.toNat / 1000) ∧
        1000 * (request.amount.toNat / 1000) ≤ (Lnurl.toMillisat limits.maxSat).toNat := by
    rw [← Lnurl.allows_iff, ← PayRequest.invoiced_ne_nil_iff request hlimits', ne_eq,
      List.map_eq_nil_iff]
  refine ⟨_, _, _, _, hoffered, rfl, rfl, hasked, hiff, fun hwhole => ?_⟩
  have hexact : 1000 * (request.amount.toNat / 1000) = request.amount.toNat := by omega
  rw [hexact] at hiff
  exact hiff

/-- A service around a request, in a world where a hundred satoshi can be received. -/
def narrow (work : JobWork) : Service Plan :=
  { bare {} false { limits := ⟨1, 100⟩ } with works := [(⟨7⟩, work)], completers := [⟨⟨7⟩, none⟩] }

/-- The offer of that service. -/
def narrowOffer : Option (Service Plan × BodyProgress) :=
  solo Plan.collaborators ⟨7⟩ 0 3 (narrow (.payInfo ⟨"https://svc/cb", "https://svc/reply"⟩)) 3

/-- A request for one thousandth less than a hundred and one satoshi. -/
def narrowRequest : Option (Service Plan × BodyProgress) :=
  solo Plan.collaborators ⟨7⟩ 0 3 (narrow (.payInvoice ⟨100999, "https://svc/reply"⟩)) 4

/-- Rounded down to a hundred satoshi, that is what was offered. -/
theorem rounded_amount_is_within_offer : ∃ t t' body minSendable maxSendable,
    narrowOffer = some (t, .done (.ok ())) ∧ narrowRequest = some (t', .done (.ok ())) ∧
    replies ⟨7⟩ t.record = [("https://svc/reply", body)] ∧
    body.field "minSendable" = .ofUInt64 minSendable ∧
    body.field "maxSendable" = .ofUInt64 maxSendable ∧
    (payments ⟨7⟩ t'.record ≠ [] ↔ minSendable.toNat ≤ 100000 ∧ 100000 ≤ maxSendable.toNat) := by
  have hoffer : narrowOffer.isSome = true := rfl
  have hrequest : narrowRequest.isSome = true := rfl
  have hoffered := solo_reaches (p := .done (.ok ())) hoffer rfl
  have hrequested := solo_reaches (p := .done (.ok ())) hrequest rfl
  have hoffers : (narrow (.payInfo ⟨"https://svc/cb", "https://svc/reply"⟩)).work? ⟨7⟩ =
      some (.payInfo ⟨"https://svc/cb", "https://svc/reply"⟩) := rfl
  have hrequests : (narrow (.payInvoice ⟨100999, "https://svc/reply"⟩)).work? ⟨7⟩ =
      some (.payInvoice ⟨100999, "https://svc/reply"⟩) := rfl
  have hlimits : ∀ work, (PayAnswers.heard Plan.collaborators 3
      (soloWorld Plan.collaborators ⟨7⟩ 0 3 (narrow work))).limits = .ok ⟨1, 100⟩ := fun _ => rfl
  obtain ⟨body, minSendable, maxSendable, asked, hreplies, hmin, hmax, hasked, hiff, -⟩ :=
    whole_amounts_within_offer_are_received hoffers rfl hrequests rfl (hlimits _) (hlimits _)
      (answering_solo hoffered) (answering_solo hrequested)
  refine ⟨_, _, body, minSendable, maxSendable, hoffered, hrequested, hreplies, hmin, hmax, ?_⟩
  rw [hasked]
  exact hiff

/-- The amount itself is more than what was offered, and an invoice is asked for all the same. -/
theorem amount_beyond_offer_is_received : ∃ t t' body minSendable maxSendable,
    narrowOffer = some (t, .done (.ok ())) ∧ narrowRequest = some (t', .done (.ok ())) ∧
    replies ⟨7⟩ t.record = [("https://svc/reply", body)] ∧
    body.field "minSendable" = .ofUInt64 minSendable ∧
    body.field "maxSendable" = .ofUInt64 maxSendable ∧
    ¬(payments ⟨7⟩ t'.record ≠ [] ↔
      minSendable.toNat ≤ (100999 : UInt64).toNat ∧
        (100999 : UInt64).toNat ≤ maxSendable.toNat) := by
  have hoffer : narrowOffer.isSome = true := rfl
  have hrequest : narrowRequest.isSome = true := rfl
  have hoffered := solo_reaches (p := .done (.ok ())) hoffer rfl
  have hrequested := solo_reaches (p := .done (.ok ())) hrequest rfl
  have hreplied : replies ⟨7⟩ (narrowOffer.get hoffer).1.record =
      [("https://svc/reply", Lnurl.infoReply "https://svc/cb" ⟨1, 100⟩ "Pay with Lightning")] := rfl
  have hpaid : payments ⟨7⟩ (narrowRequest.get hrequest).1.record =
      [(100, "Pay with Lightning")] := rfl
  refine ⟨_, _, _, Lnurl.toMillisat 1, Lnurl.toMillisat 100, hoffered, hrequested, hreplied, rfl,
    rfl, fun hclaim => ?_⟩
  rw [hpaid, Lnurl.toNat_toMillisat, Lnurl.toNat_toMillisat] at hclaim
  have hle := (hclaim.mp (List.cons_ne_nil _ _)).2
  exact absurd hle (by decide)

end Service

end PushWake
