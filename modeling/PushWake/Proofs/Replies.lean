import PushWake.Proofs.NonInterference

/-!
# A request gets one reply

The body of a job that answers a payer asks the wallet, posts one reply, and ends, and others do
what they like between its steps. At every stage of its way the job's share of the record is
determined by what the collaborators have answered (`Handled`), so that at its end one reply has
been posted.
-/

namespace PushWake

namespace Service

variable {W : Type} {env : Collaborators W} {found : Nat → W} {s t u : Service W} {id : Identity}
  {c session n : Nat}

/-! ## A body on its way -/

/-- A body on its way from a service: how many steps it has taken, the service around it, and how
far it has come. Between its steps others may do what they like. Step `n` finds the collaborators in
the state `found n`. -/
inductive Answering (env : Collaborators W) (found : Nat → W) (id : Identity) (c session : Nat)
    (s : Service W) : Nat → Service W → BodyProgress → Prop where
  | fresh : Answering env found id c session s 0 s (.waits .fresh)
  | others {n : Nat} {t u : Service W} {p : BodyProgress} :
      Answering env found id c session s n t p → Keeps id c t u →
      Answering env found id c session s n u p
  | goOn {n : Nat} {t u : Service W} {stage : BodyStage} {p : BodyProgress} :
      Answering env found id c session s n t (.waits stage) → t.world = found n →
      t.resumeBody env id c session stage = some (u, p) →
      Answering env found id c session s (n + 1) u p

/-- What a body has done for its request, and how far it has come. -/
inductive Handled (a : PayAnswers) (description : String) (q : PayRequest) (id : Identity)
    (c session : Nat) : List Occurrence → BodyProgress → Prop where
  | fresh : Handled a description q id c session [] (.waits .fresh)
  | asking {due : Nat} : Handled a description q id c session [.receiveLimits session id]
      (.waits (.askingLimits ⟨due, a.limits⟩))
  | invoicing {r : PayInvoiceRequest} {due : Nat} : q = .payInvoice r →
      q.invoiced a = [Lnurl.toSat r.amount] →
      Handled a description q id c session (q.asked a description id session)
        (.waits (.invoicing ⟨due, a.invoice (Lnurl.toSat r.amount) description⟩))
  | replying {body : Json} {due : Nat} : q.verdict a description = .ok body →
      Handled a description q id c session
        (q.asked a description id session ++ [.reply id q.replyUrl (q.body a description)])
        (.waits (.replying ⟨due, q.posted a description⟩))
  | apologizing {e : JobError} {due : Nat} : q.verdict a description = .error e →
      Handled a description q id c session
        (q.asked a description id session ++ [.reply id q.replyUrl (q.body a description)])
        (.waits (.apologizing e ⟨due, q.posted a description⟩))
  | done : Handled a description q id c session
      (q.asked a description id session ++ [.reply id q.replyUrl (q.body a description)] ++
        ((q.told a description).map (.notify id) ++
          [.jobCompleted id c (.ofResult (q.result a description))]))
      (.done (q.result a description))

/-- What the share of a body shows that has come back. -/
structure Shown (a : PayAnswers) (description : String) (q : PayRequest) (id : Identity) (c : Nat)
    (os : List Occurrence) (result : Except JobError Unit) : Prop where
  ended : result = q.result a description
  replies : replies id os = [(q.replyUrl, q.body a description)]
  payments : payments id os = (q.invoiced a).map fun sat => (sat, description)
  completions : completions c os = [.ofResult result]
  notices : notices id os = q.told a description

section
variable {a : PayAnswers} {description : String} {q : PayRequest} {os : List Occurrence}

theorem Handled.shown {result : Except JobError Unit}
    (h : Handled a description q id c session os (.done result)) :
    Shown a description q id c os result := by
  cases h
  constructor
  · rfl
  · simp [replies, PayRequest.asked, List.filterMap_map]
  · simp [payments, PayRequest.asked, List.filterMap_map]
  · simp [completions, PayRequest.asked, List.filterMap_map]
  · simp [notices, PayRequest.asked, List.filterMap_map]

end

/-- A step that notes some things, and changes neither what the jobs have to do nor the settings. -/
structure Notes (os : List Occurrence) (s t : Service W) : Prop where
  record : t.record = s.record ++ os
  work : ∀ id, t.work? id = s.work? id
  config : t.config = s.config

/-- A call that is noted. -/
theorem notes_ask {α : Type} (o : Occurrence) (reply : Answer α × W) :
    Notes [o] s ((s.note o).ask reply).1 :=
  ⟨record_note o, fun _ => rfl, rfl⟩

theorem notes_complete (hc : s.completers[c]? = some ⟨id, none⟩) (o : JobOutcome) :
    Notes [.jobCompleted id c o] s (s.complete c o) := by
  obtain ⟨wakes, he⟩ := complete_eq hc o
  rw [he]
  exact ⟨record_note _, fun _ => rfl, rfl⟩

theorem notes_endReplied (hc : s.completers[c]? = some ⟨id, none⟩) (name : String) :
    Notes [.jobCompleted id c .completed] s (s.endReplied id c name).1 := by
  have h := notes_complete (s := s.say "lnurl" .info (name ++ " job " ++ id.text ++ " replied")) hc
    .completed
  exact ⟨h.record, h.work, h.config⟩

theorem notes_endFailed (hc : s.completers[c]? = some ⟨id, none⟩) (title : String) (e : JobError) :
    Notes [.notify id ⟨title, e.message⟩, .jobCompleted id c (.failed e.message)] s
      (s.endFailed id c title e).1 := by
  have h := notes_complete (s := s.note (.notify id ⟨title, e.message⟩)) hc (.failed e.message)
  refine ⟨?_, h.work, h.config⟩
  have hnoted := h.record
  rw [record_note, List.append_assoc] at hnoted
  exact hnoted

/-- A step takes a body on: it notes something that serves the request, and one call if the body
then waits. -/
def TakesOn (a : PayAnswers) (description : String) (q : PayRequest) (id : Identity)
    (c session : Nat) (os : List Occurrence) (s : Service W) (r : Service W × BodyProgress) :
    Prop :=
  ∃ more, Notes more s r.1 ∧ share id c more = more ∧
    Handled a description q id c session (os ++ more) r.2 ∧
    ∀ stage, r.2 = .waits stage → more.length = 1 ∧ r.1.completers = s.completers

section
variable {a : PayAnswers} {description : String} {q : PayRequest} {os : List Occurrence}
  {r : Service W × BodyProgress}

theorem TakesOn.said {tag : String} {level : LogLevel} {message : String}
    (h : TakesOn a description q id c session os (s.say tag level message) r) :
    TakesOn a description q id c session os s r := by
  obtain ⟨more, hnotes, h⟩ := h
  exact ⟨more, ⟨hnotes.record, hnotes.work, hnotes.config⟩, h⟩

/-- The reply is posted, whichever it is. -/
theorem takesOn_beginReply {body : Json} (hverdict : q.verdict a description = .ok body)
    (hposted : (env.reply q.replyUrl body s.world).1.result = q.posted a description) :
    TakesOn a description q id c session (q.asked a description id session) s
      (s.beginReply env id q.replyUrl body) := by
  have hbody : q.body a description = body := by rw [PayRequest.body, hverdict]
  refine ⟨[.reply id q.replyUrl body], notes_ask _ _, share_of_serves (by simp [Occurrence.serves]),
    ?_, fun _ _ => ⟨rfl, rfl⟩⟩
  have h : Handled a description q id c session _ (.waits (.replying
      ⟨s.now + (env.reply q.replyUrl body s.world).1.delay, q.posted a description⟩)) :=
    .replying hverdict
  rw [hbody, ← hposted] at h
  exact h

theorem takesOn_beginApology {e : JobError} (hverdict : q.verdict a description = .error e)
    (hposted : (env.reply q.replyUrl (Lnurl.errorReply e) s.world).1.result =
      q.posted a description) :
    TakesOn a description q id c session (q.asked a description id session) s
      (s.beginApology env id q.replyUrl e) := by
  have hbody : q.body a description = Lnurl.errorReply e := by rw [PayRequest.body, hverdict]
  refine ⟨[.reply id q.replyUrl (Lnurl.errorReply e)], notes_ask _ _,
    share_of_serves (by simp [Occurrence.serves]), ?_, fun _ _ => ⟨rfl, rfl⟩⟩
  have h : Handled a description q id c session _ (.waits (.apologizing e
      ⟨s.now + (env.reply q.replyUrl (Lnurl.errorReply e) s.world).1.delay,
        q.posted a description⟩)) := .apologizing hverdict
  rw [hbody, ← hposted] at h
  exact h

/-- A job that has replied ends without a word to the user. -/
theorem takesOn_endReplied (hc : s.completers[c]? = some ⟨id, none⟩) (name : String)
    (hresult : q.result a description = .ok ()) :
    TakesOn a description q id c session
      (q.asked a description id session ++ [.reply id q.replyUrl (q.body a description)]) s
      (s.endReplied id c name) := by
  have htold : q.told a description = [] := by rw [PayRequest.told, hresult]
  refine ⟨_, notes_endReplied hc name, share_of_serves (by simp [Occurrence.serves]), ?_, nofun⟩
  have h : Handled a description q id c session _ (.done (q.result a description)) := .done
  rw [htold, hresult] at h
  exact h

theorem takesOn_endFailed (hc : s.completers[c]? = some ⟨id, none⟩) {e : JobError}
    (hresult : q.result a description = .error e) :
    TakesOn a description q id c session
      (q.asked a description id session ++ [.reply id q.replyUrl (q.body a description)]) s
      (s.endFailed id c (failureTitle q.work) e) := by
  have htold : q.told a description = [⟨failureTitle q.work, e.message⟩] := by
    rw [PayRequest.told, hresult]
  refine ⟨_, notes_endFailed hc _ e, by simp [share, Occurrence.serves], ?_, nofun⟩
  have h : Handled a description q id c session _ (.done (q.result a description)) := .done
  rw [htold, hresult] at h
  exact h

/-- Whoever asks for no invoice goes straight on to a reply. -/
theorem takesOn_replyAtOnce {body : Json} (hnone : q.invoiced a = [])
    (hverdict : q.verdict a description = .ok body)
    (hposted : ∀ body, (env.reply q.replyUrl body s.world).1.result = a.posted 1 q.replyUrl body) :
    TakesOn a description q id c session [.receiveLimits session id] s
      (s.beginReply env id q.replyUrl body) := by
  have hasked : q.asked a description id session = [.receiveLimits session id] := by
    rw [PayRequest.asked, hnone, List.map_nil]
  rw [← hasked]
  refine takesOn_beginReply hverdict ?_
  rw [hposted, PayRequest.posted, PayRequest.body, hnone, hverdict]
  rfl

theorem takesOn_apologyAtOnce {e : JobError} (hnone : q.invoiced a = [])
    (hverdict : q.verdict a description = .error e)
    (hposted : ∀ body, (env.reply q.replyUrl body s.world).1.result = a.posted 1 q.replyUrl body) :
    TakesOn a description q id c session [.receiveLimits session id] s
      (s.beginApology env id q.replyUrl e) := by
  have hasked : q.asked a description id session = [.receiveLimits session id] := by
    rw [PayRequest.asked, hnone, List.map_nil]
  rw [← hasked]
  refine takesOn_beginApology hverdict ?_
  rw [hposted, PayRequest.posted, PayRequest.body, hnone, hverdict]
  rfl

/-- The limits have come. An invoice is asked for if there is one to ask for; otherwise the request
is settled. -/
theorem takesOn_afterLimits (hdescription : s.config.lnurl.description = description)
    (hinvoice : ∀ sat, (env.receivePayment session sat description s.world).1.result =
      a.invoice sat description)
    (hposted : ∀ body, (env.reply q.replyUrl body s.world).1.result = a.posted 1 q.replyUrl body) :
    TakesOn a description q id c session [.receiveLimits session id] s
      (s.afterLimits env id session q.work a.limits) := by
  subst hdescription
  cases hlimits : a.limits with
  | error e =>
    have hverdict : q.verdict a s.config.lnurl.description = .error (.sdk e) := by
      rw [PayRequest.verdict, hlimits]
    cases q with
    | payInfo r => exact takesOn_apologyAtOnce rfl hverdict hposted
    | payInvoice r =>
      have hnone : (PayRequest.payInvoice r).invoiced a = [] := by rw [PayRequest.invoiced, hlimits]
      exact takesOn_apologyAtOnce hnone hverdict hposted
  | ok limits =>
    cases q with
    | payInfo r =>
      have hverdict : (PayRequest.payInfo r).verdict a s.config.lnurl.description =
          .ok (Lnurl.infoReply r.callbackUrl limits s.config.lnurl.description) := by
        rw [PayRequest.verdict, hlimits]
      rw [PayRequest.work, afterLimits]
      exact takesOn_replyAtOnce rfl hverdict hposted
    | payInvoice r =>
      rw [PayRequest.work, afterLimits, Lnurl.accept_eq]
      by_cases hallows : limits.Allows (r.amount.toNat / 1000)
      · have hsat : (PayRequest.payInvoice r).invoiced a = [Lnurl.toSat r.amount] := by
          rw [PayRequest.invoiced, hlimits]
          exact if_pos hallows
        rw [if_pos hallows]
        refine ⟨_, notes_ask _ _, share_of_serves (by simp [Occurrence.serves]), ?_,
          fun _ _ => ⟨rfl, rfl⟩⟩
        have h : Handled a s.config.lnurl.description (.payInvoice r) id c session _
            (.waits (.invoicing ⟨s.now + (env.receivePayment session (Lnurl.toSat r.amount)
              s.config.lnurl.description s.world).1.delay, _⟩)) := .invoicing rfl hsat
        rw [PayRequest.asked, hsat, ← hinvoice] at h
        exact h
      · -- outside the limits there is no invoice, and the reply is an apology
        have hverdict : (PayRequest.payInvoice r).verdict a s.config.lnurl.description =
            .error (Lnurl.outside limits (r.amount.toNat / 1000)) := by
          rw [PayRequest.verdict, hlimits]
          exact if_neg hallows
        rw [if_neg hallows]
        refine takesOn_apologyAtOnce ?_ hverdict hposted
        rw [PayRequest.invoiced, hlimits]
        exact if_neg hallows

/-- The invoice has come. -/
theorem takesOn_afterInvoice {r : PayInvoiceRequest} (hq : q = .payInvoice r)
    (hsat : q.invoiced a = [Lnurl.toSat r.amount])
    (hposted : ∀ body, (env.reply q.replyUrl body s.world).1.result = a.posted 2 q.replyUrl body) :
    TakesOn a description q id c session (q.asked a description id session) s
      (s.afterInvoice env id q.work (a.invoice (Lnurl.toSat r.amount) description)) := by
  -- an invoice has been asked for, so the limits have come and allow the amount
  obtain ⟨limits, hlimits, hallows⟩ : ∃ limits, a.limits = .ok limits ∧
      limits.Allows (r.amount.toNat / 1000) := by
    rw [hq, PayRequest.invoiced] at hsat
    split at hsat
    · cases hsat
    · rename_i limits hlimits
      refine ⟨limits, hlimits, ?_⟩
      by_contra hno
      rw [if_neg hno] at hsat
      cases hsat
  subst hq
  have hbody : ∀ body, (PayRequest.payInvoice r).body a description = body →
      (env.reply (PayRequest.payInvoice r).replyUrl body s.world).1.result =
        (PayRequest.payInvoice r).posted a description := by
    rintro body rfl
    rw [hposted, PayRequest.posted, hsat]
    rfl
  cases hinvoice : a.invoice (Lnurl.toSat r.amount) description with
  | ok invoice =>
    have hverdict : (PayRequest.payInvoice r).verdict a description =
        .ok (Lnurl.invoiceReply invoice) := by
      simp only [PayRequest.verdict, hlimits, hallows, hinvoice, if_true]
    exact takesOn_beginReply hverdict (hbody _ (by rw [PayRequest.body, hverdict]))
  | error e =>
    have hverdict : (PayRequest.payInvoice r).verdict a description = .error (.sdk e) := by
      simp only [PayRequest.verdict, hlimits, hallows, hinvoice, if_true]
    exact takesOn_beginApology hverdict (hbody _ (by rw [PayRequest.body, hverdict]))

/-- The reply has been posted, or not. -/
theorem takesOn_afterReply (hc : s.completers[c]? = some ⟨id, none⟩) {body : Json}
    (hverdict : q.verdict a description = .ok body) :
    TakesOn a description q id c session
      (q.asked a description id session ++ [.reply id q.replyUrl (q.body a description)]) s
      (s.afterReply id c q.work (q.posted a description)) := by
  have hresult : q.result a description = (q.posted a description).mapError .reply := by
    rw [PayRequest.result, hverdict]
  cases hposted : q.posted a description with
  | ok =>
    rw [hposted] at hresult
    cases q with
    | payInfo | payInvoice => exact takesOn_endReplied hc _ hresult
  | error reason =>
    rw [hposted] at hresult
    cases q with
    | payInfo | payInvoice => exact takesOn_endFailed hc hresult

/-- The payer has been told why, or not: the job has failed for the reason it had. -/
theorem takesOn_afterApology (hc : s.completers[c]? = some ⟨id, none⟩) {e : JobError}
    (hverdict : q.verdict a description = .error e) :
    TakesOn a description q id c session
      (q.asked a description id session ++ [.reply id q.replyUrl (q.body a description)]) s
      (s.afterApology id c e q.work (q.posted a description)) := by
  have hresult : q.result a description = .error e := by rw [PayRequest.result, hverdict]
  cases q.posted a description with
  | ok =>
    cases q with
    | payInfo | payInvoice => exact takesOn_endFailed hc hresult
  | error reason =>
    cases q with
    | payInfo | payInvoice => exact (takesOn_endFailed (s := s.say _ _ _) hc hresult).said

/-- The body begins with the limits. -/
theorem takesOn_beginBody (hwork : s.work? id = some q.work)
    (hlimits : (env.receiveLimits session s.world).1.result = a.limits) :
    TakesOn a description q id c session [] s (s.beginBody env id c session) := by
  have hbegin : s.beginBody env id c session = s.beginLimits env id session := by
    cases q with
    | payInfo | payInvoice => simp only [beginBody, hwork, PayRequest.work]
  rw [hbegin]
  refine ⟨_, notes_ask _ _, share_of_serves (by simp [Occurrence.serves]), ?_,
    fun _ _ => ⟨rfl, rfl⟩⟩
  have h : Handled a description q id c session _ (.waits (.askingLimits
      ⟨s.now + (env.receiveLimits session s.world).1.delay, a.limits⟩)) := .asking
  rw [← hlimits] at h
  exact h

/-- Whatever a body waits for, its next step takes it on as the collaborators answer. -/
theorem takesOn_resumeBody {stage : BodyStage} (hwork : s.work? id = some q.work)
    (hc : s.completers[c]? = some ⟨id, none⟩) (hworld : s.world = found os.length)
    (h : Handled (.heard env session found) s.config.lnurl.description q id c session os
      (.waits stage))
    (hr : s.resumeBody env id c session stage = some r) :
    TakesOn (.heard env session found) s.config.lnurl.description q id c session os s r := by
  have harrived : ∀ {α : Type} {call : Pending α} {x : α}, call.result? s.now = some x →
      x = call.result := by
    intro α call x hx
    obtain ⟨-, hx⟩ := Option.ite_none_right_eq_some.mp hx
    exact (Option.some.inj hx).symm
  -- what the body waits for says how far it has come, and so which of the answers it gets
  cases h with
  | fresh =>
    cases hr
    refine takesOn_beginBody hwork ?_
    rw [hworld]
    rfl
  | asking =>
    obtain ⟨limits, hlimits, hr⟩ := Option.bind_eq_some_iff.mp hr
    rw [hwork] at hr
    cases harrived hlimits
    cases hr
    refine takesOn_afterLimits rfl (fun sat => ?_) (fun body => ?_)
    · rw [hworld]
      rfl
    · rw [hworld]
      rfl
  | invoicing hq hsat =>
    obtain ⟨invoice, hinvoice, hr⟩ := Option.bind_eq_some_iff.mp hr
    rw [hwork] at hr
    cases harrived hinvoice
    cases hr
    refine takesOn_afterInvoice hq hsat fun body => ?_
    rw [hworld, PayRequest.asked, hsat]
    rfl
  | replying hverdict =>
    obtain ⟨result, hresult, hr⟩ := Option.bind_eq_some_iff.mp hr
    rw [hwork] at hr
    cases harrived hresult
    cases hr
    exact takesOn_afterReply hc hverdict
  | apologizing hverdict =>
    obtain ⟨result, hresult, hr⟩ := Option.bind_eq_some_iff.mp hr
    rw [hwork] at hr
    cases harrived hresult
    cases hr
    exact takesOn_afterApology hc hverdict

end

/-! ## Every course -/

/-- How a body stands that answers a request. -/
structure Underway (env : Collaborators W) (found : Nat → W) (q : PayRequest) (id : Identity)
    (c session : Nat) (s : Service W) (n : Nat) (t : Service W) (p : BodyProgress) : Prop where
  work : t.work? id = some q.work
  lnurl : t.config.lnurl = s.config.lnurl
  unused : ∀ stage, p = .waits stage → t.completers[c]? = some ⟨id, none⟩
  handled : ∃ os, share id c t.record = share id c s.record ++ os ∧
    Handled (.heard env session found) s.config.lnurl.description q id c session os p ∧
    ∀ stage, p = .waits stage → os.length = n

variable {q : PayRequest} {p : BodyProgress} {stage : BodyStage}

namespace Underway

theorem others (h : Underway env found q id c session s n t p) (hk : Keeps id c t u) :
    Underway env found q id c session s n u p where
  work := hk.work.trans h.work
  lnurl := hk.lnurl.trans h.lnurl
  unused stage hp := hk.completer.trans (h.unused stage hp)
  handled := by
    obtain ⟨os, hshare, h⟩ := h.handled
    exact ⟨os, hk.share.trans hshare, h⟩

theorem goOn (h : Underway env found q id c session s n t (.waits stage))
    (hworld : t.world = found n)
    (hr : t.resumeBody env id c session stage = some (u, p)) :
    Underway env found q id c session s (n + 1) u p := by
  have hc := h.unused stage rfl
  obtain ⟨os, hshare, hhandled, hlength⟩ := h.handled
  obtain rfl := hlength stage rfl
  rw [← h.lnurl] at hhandled
  obtain ⟨more, hnotes, hmore, hhandled, hwaits⟩ :=
    takesOn_resumeBody h.work hc hworld hhandled hr
  rw [h.lnurl] at hhandled
  refine ⟨(hnotes.work id).trans h.work, ?_, fun stage' hp => ?_, os ++ more, ?_, hhandled,
    fun stage' hp => ?_⟩
  · rw [hnotes.config]
    exact h.lnurl
  · rw [(hwaits stage' hp).2]
    exact hc
  · rw [hnotes.record, share_append, hshare, hmore, List.append_assoc]
  · rw [List.length_append, (hwaits stage' hp).1]

/-- By the time a body has come back, one reply has been posted. -/
theorem replies_eq {result : Except JobError Unit}
    (h : Underway env found q id c session s n t (.done result)) :
    replies id t.record = replies id s.record ++
      [(q.replyUrl, q.body (.heard env session found) s.config.lnurl.description)] := by
  obtain ⟨os, hshare, hhandled, -⟩ := h.handled
  rw [← replies_share (c := c), hshare, replies_append, replies_share, hhandled.shown.replies]

theorem payments_eq {result : Except JobError Unit}
    (h : Underway env found q id c session s n t (.done result)) :
    payments id t.record = payments id s.record ++
      (q.invoiced (.heard env session found)).map
        (fun sat => (sat, s.config.lnurl.description)) := by
  obtain ⟨os, hshare, hhandled, -⟩ := h.handled
  rw [← payments_share (c := c), hshare, payments_append, payments_share, hhandled.shown.payments]

end Underway

theorem underway (hwork : s.work? id = some q.work) (hfresh : s.completers[c]? = some ⟨id, none⟩)
    (h : Answering env found id c session s n t p) : Underway env found q id c session s n t p := by
  induction h with
  | fresh =>
    exact ⟨hwork, rfl, fun _ _ => hfresh, [], (List.append_nil _).symm, .fresh, fun _ _ => rfl⟩
  | others _ hk ih => exact ih.others hk
  | goOn _ hworld hr ih => exact ih.goOn hworld hr

/-- Where the body of a job is that has come so far: it is the activity `k`, or gone for good. -/
def BodyAt (s : Service W) (k : Nat) (id : Identity) (c : Nat) (connection : Connection) :
    BodyProgress → Prop
  | .waits stage => (k, .body id c connection stage) ∈ s.activities
  | .done _ => ∀ c', (id, c') ∉ s.bodies

/-- What collaborators are found in at later steps does not matter yet. -/
theorem Answering.congr {found' : Nat → W} (h : Answering env found id c session s n t p)
    (hfound : ∀ m < n, found m = found' m) : Answering env found' id c session s n t p := by
  induction h with
  | fresh => exact .fresh
  | others _ hk ih => exact .others (ih hfound) hk
  | goOn _ hworld hr ih =>
    refine .goOn (ih fun m hm => hfound m (Nat.lt_succ_of_lt hm)) ?_ hr
    exact hworld.trans (hfound _ (Nat.lt_succ_self _))

/-- A step of a body is one of the job that it does, which may have been marked as running. -/
theorem OwnStep.of_body {k : Nat} {connection : Connection} (hs : OwnStep env s k u)
    (hn : s.scene.Numbered) (ha : (k, .body id c connection stage) ∈ s.activities) :
    ∃ t r, Marked s t ∧ t.resumeBody env id c connection.session stage = some r ∧
      u = follow k (.body id c connection) (fun s result => s.endBody k id result) r := by
  cases hs with
  | freshBody hb =>
    cases hn.unique ha hb
    exact ⟨_, _, marked_markRunning id, rfl, rfl⟩
  | body hb hr =>
    cases hn.unique ha hb
    exact ⟨s, _, .refl, hr, rfl⟩
  | scheduler hb | trigger hb | enterShutdown hb | shutdown hb | reaper hb | settlement hb =>
    cases hn.unique ha hb

theorem Marked.keeps (h : Marked s t) : Keeps id c s t := by
  obtain ⟨_, -, rfl⟩ := h
  exact ⟨rfl, rfl, rfl, rfl⟩

/-- A step of the body takes it on. -/
theorem Answering.ownStep {k : Nat} {connection : Connection}
    (h : Answering env found id c connection.session s n t (.waits stage))
    (hn : t.scene.Numbered) (hnodup : (t.bodies.map Prod.fst).Nodup)
    (ha : t.BodyAt k id c connection (.waits stage)) (hs : OwnStep env t k u) :
    ∃ found p, Answering env found id c connection.session s (n + 1) u p ∧
      u.BodyAt k id c connection p := by
  obtain ⟨v, r, hmarked, hr, rfl⟩ := hs.of_body hn ha
  -- at this step the collaborators are as they are now
  have hv : Answering env (fun m => if m = n then v.world else found m) id c connection.session s n
      v (.waits stage) :=
    .others (h.congr fun m hm => (if_neg (Nat.ne_of_lt hm)).symm) hmarked.keeps
  have hanswering := hv.goOn (if_pos rfl).symm hr
  obtain ⟨_, -, rfl⟩ := hmarked
  have hturn : Turn k _ r.1 := workStable_turn.resumeBody hr .refl
  obtain ⟨stage', hp, he⟩ | ⟨result, log, hp, he⟩ := followBody_eq k id c connection r
  · rw [hp] at hanswering
    rw [he]
    exact ⟨_, _, hanswering.others ⟨rfl, rfl, rfl, rfl⟩, mem_put_self (hturn.joined.stays ha)⟩
  · rw [hp] at hanswering
    rw [he]
    have henters : Enters [] _ r.1 := workStable_enters.resumeBody hr .refl
    have hbodies : r.1.bodies = t.bodies := henters.bodies.trans (List.append_nil _)
    refine ⟨_, _, hanswering.others ⟨rfl, rfl, rfl, rfl⟩, fun c' => ?_⟩
    exact not_mem_bodies_finish (by rw [hbodies]; exact hnodup) (hturn.joined.numbered hn)
      (hturn.joined.stays ha)

/-- A body that is left to itself: time passes until it can go on. -/
def solo (env : Collaborators W) (id : Identity) (c session : Nat) (s : Service W) :
    Nat → Option (Service W × BodyProgress)
  | 0 => some (s, .waits .fresh)
  | n + 1 =>
    match solo env id c session s n with
    | some (t, .waits stage) =>
      (t.advanceTo ((dueBody? stage).getD 0)).resumeBody env id c session stage
    | _ => none

/-- The states in which a body that is left to itself finds the collaborators. -/
def soloWorld (env : Collaborators W) (id : Identity) (c session : Nat) (s : Service W)
    (n : Nat) : W :=
  ((solo env id c session s n).map fun r => r.1.world).getD s.world

theorem answering_solo {r : Service W × BodyProgress} (h : solo env id c session s n = some r) :
    Answering env (soloWorld env id c session s) id c session s n r.1 r.2 := by
  induction n generalizing r with
  | zero =>
    cases h
    exact .fresh
  | succ n ih =>
    rw [solo] at h
    split at h
    · rename_i t stage ht
      have hworld : (t.advanceTo ((dueBody? stage).getD 0)).world =
          soloWorld env id c session s n := by
        rw [soloWorld, ht]
        rfl
      have hwaited : Answering env (soloWorld env id c session s) id c session s n
          (t.advanceTo ((dueBody? stage).getD 0)) (.waits stage) :=
        (ih ht).others ⟨rfl, rfl, rfl, rfl⟩
      exact hwaited.goOn hworld h
    · cases h

/-- A body that is left to itself has come this far. -/
theorem solo_reaches {r : Option (Service W × BodyProgress)} (h : r.isSome = true)
    (hp : (r.get h).2 = p) : r = some ((r.get h).1, p) := by
  rw [← hp]
  exact (Option.some_get h).symm

/-- A service around a request for an invoice, in a world where a reply cannot be posted. -/
def unheard : Service Plan :=
  { bare {} false { reply := [.error "connection refused"] } with
    works := [(⟨7⟩, .payInvoice ⟨2000, "https://svc/reply"⟩)]
    completers := [⟨⟨7⟩, none⟩] }

end Service

end PushWake
