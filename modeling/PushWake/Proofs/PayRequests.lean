import PushWake.Proofs.Amounts
import PushWake.Proofs.FirstSignal

/-!
# Requests for replies

A payer asks what can be paid, or for an invoice. What a request comes to depends on what the wallet
answers and on what becomes of the reply, and on nothing else: `verdict` is the reply that is asked
for or the first thing that stands in its way, and `body`, `result` and `told` are what follows from
it for the payer, the job and the user. What a job does for its request is its `share` of the
record.
-/

namespace PushWake

/-! ## Requests -/

/-- A request for a reply. -/
inductive PayRequest where
  | payInfo (r : PayInfoRequest)
  | payInvoice (r : PayInvoiceRequest)
deriving DecidableEq, Repr, Inhabited

/-- What a body is answered: the limits, an invoice over an amount, and what becomes of a reply that
it posts after so many other calls. -/
structure PayAnswers where
  limits : Except SdkError ReceiveLimits
  invoice : UInt64 → String → Except SdkError Invoice
  posted : Nat → String → Json → Except String Unit

/-- What collaborators answer that a body finds in these states, turn by turn. -/
def PayAnswers.heard {W : Type} (env : Collaborators W) (session : Nat) (found : Nat → W) :
    PayAnswers where
  limits := (env.receiveLimits session (found 0)).1.result
  invoice sat description := (env.receivePayment session sat description (found 1)).1.result
  posted n url body := (env.reply url body (found n)).1.result

namespace PayRequest

/-- What there is to do for a request. -/
def work : PayRequest → JobWork
  | payInfo r => .payInfo r
  | payInvoice r => .payInvoice r

/-- Where the reply goes. -/
def replyUrl : PayRequest → String
  | payInfo r => r.replyUrl
  | payInvoice r => r.replyUrl

/-- The reply that is asked for, or the first thing that stands in its way. -/
def verdict (a : PayAnswers) (description : String) (q : PayRequest) : Except JobError Json :=
  match a.limits with
  | .error e => .error (.sdk e)
  | .ok limits =>
    match q with
    | payInfo r => .ok (Lnurl.infoReply r.callbackUrl limits description)
    | payInvoice r =>
      if limits.Allows (r.amount.toNat / 1000) then
        match a.invoice (Lnurl.toSat r.amount) description with
        | .error e => .error (.sdk e)
        | .ok invoice => .ok (Lnurl.invoiceReply invoice)
      else .error (Lnurl.outside limits (r.amount.toNat / 1000))

/-- The amounts that an invoice is asked for. -/
def invoiced (a : PayAnswers) : PayRequest → List UInt64
  | payInfo _ => []
  | payInvoice r =>
    match a.limits with
    | .error _ => []
    | .ok limits => if limits.Allows (r.amount.toNat / 1000) then [Lnurl.toSat r.amount] else []

/-- Whether the collaborators give what the reply takes that is asked for. -/
def Served (a : PayAnswers) (description : String) (q : PayRequest) : Prop :=
  ∃ limits, a.limits = .ok limits ∧ ∀ r, q = payInvoice r →
    limits.Allows (r.amount.toNat / 1000) ∧
      ∃ invoice, a.invoice (Lnurl.toSat r.amount) description = .ok invoice

/-- What a body asks the wallet for. -/
def asked (a : PayAnswers) (description : String) (id : Identity) (session : Nat) (q : PayRequest) :
    List Occurrence :=
  .receiveLimits session id ::
    (q.invoiced a).map fun sat => .receivePayment session id sat description

/-- The reply that is posted. -/
def body (a : PayAnswers) (description : String) (q : PayRequest) : Json :=
  match q.verdict a description with
  | .ok body => body
  | .error e => Lnurl.errorReply e

/-- What becomes of the reply. -/
def posted (a : PayAnswers) (description : String) (q : PayRequest) : Except String Unit :=
  a.posted (1 + (q.invoiced a).length) q.replyUrl (q.body a description)

/-- What a body comes back with: the first error, if there is one. -/
def result (a : PayAnswers) (description : String) (q : PayRequest) : Except JobError Unit :=
  match q.verdict a description with
  | .error e => .error e
  | .ok _ => (q.posted a description).mapError .reply

/-- What the user is told: why the job failed, if it did. -/
def told (a : PayAnswers) (description : String) (q : PayRequest) : List Notification :=
  match q.result a description with
  | .ok () => []
  | .error e => [⟨Service.failureTitle q.work, e.message⟩]

section
variable {a : PayAnswers} {description : String} {q : PayRequest}

end

end PayRequest

/-! ## The share of a job in the record -/

/-- The replies of a job. -/
def replies (id : Identity) (os : List Occurrence) : List (String × Json) :=
  os.filterMap fun o =>
    match o with
    | .reply job url body => if job = id then some (url, body) else none
    | _ => none

/-- The payments that a job has asked for. -/
def payments (id : Identity) (os : List Occurrence) : List (UInt64 × String) :=
  os.filterMap fun o =>
    match o with
    | .receivePayment _ job sat description => if job = id then some (sat, description) else none
    | _ => none

/-- Whether something is what a body does for its request, or the use of a completer. -/
def Occurrence.serves (id : Identity) (c : Nat) : Occurrence → Bool
  | .receiveLimits _ job => job == id
  | .receivePayment _ job _ _ => job == id
  | .reply job _ _ => job == id
  | .notify job _ => job == id
  | .jobCompleted _ c' _ => c' == c
  | _ => false

/-- What a body has done for its request. -/
def share (id : Identity) (c : Nat) (os : List Occurrence) : List Occurrence :=
  os.filter (Occurrence.serves id c)

section
variable {id : Identity} {c : Nat} {os os' : List Occurrence} {o : Occurrence}

@[simp] theorem replies_append : replies id (os ++ os') = replies id os ++ replies id os' :=
  List.filterMap_append

@[simp] theorem payments_append : payments id (os ++ os') = payments id os ++ payments id os' :=
  List.filterMap_append

@[simp] theorem share_append : share id c (os ++ os') = share id c os ++ share id c os' :=
  List.filter_append ..

theorem share_of_serves (ho : o.serves id c = true) : share id c [o] = [o] := by
  simp [share, ho]

theorem share_of_not_serves (ho : o.serves id c = false) : share id c [o] = [] := by
  simp [share, ho]

/-- A view of the record that shows only what serves a request sees the share of its job. -/
theorem filterMap_share {α : Type} {view : Occurrence → Option α}
    (h : ∀ o, o.serves id c = false → view o = none) (os : List Occurrence) :
    (share id c os).filterMap view = os.filterMap view := by
  induction os with
  | nil => rfl
  | cons o os ih =>
    cases ho : o.serves id c with
    | true =>
      rw [share, List.filter_cons_of_pos ho, List.filterMap_cons, List.filterMap_cons]
      rw [← share, ih]
    | false =>
      rw [share, List.filter_cons_of_neg (by simp [ho]), List.filterMap_cons, h o ho]
      exact ih

/-- All replies to a payer belong to the share of the job. -/
theorem replies_share : replies id (share id c os) = replies id os :=
  filterMap_share (fun o ho => by
    cases o with
    | reply job url body => exact if_neg (by simpa [Occurrence.serves] using ho)
    | _ => rfl) os

theorem payments_share : payments id (share id c os) = payments id os :=
  filterMap_share (fun o ho => by
    cases o with
    | receivePayment session job sat description =>
      exact if_neg (by simpa [Occurrence.serves] using ho)
    | _ => rfl) os

end

end PushWake
