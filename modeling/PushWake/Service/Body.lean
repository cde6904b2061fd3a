import PushWake.Lnurl.Reply
import PushWake.Service.Jobs
/-!
# The body of a job

A swap job brings the wallet up to date and then leaves its completer to whatever resolves the swap.
The other jobs ask the wallet, post one reply, and use their completer at the end.
-/

namespace PushWake.Service

variable {W : Type}

/-- A body under way, or its result. -/
abbrev BodyProgress := Progress BodyStage (Except JobError Unit)

/-- Brings a session up to date. Events that come at once are shown before anything else happens;
those that come later are reported by an activity of their own. -/
def askSync (env : Collaborators W) (s : Service W) (session : Nat) :
    Service W × Pending (Except SdkError Unit) :=
  let (reply, world) := env.sync session s.world
  let (s, call) := s.ask (reply.answer, world)
  let s := reply.events.foldl (emit env session) s
  let s := reply.settlements.foldl
    (fun s later => s.spawn (.settlement session (s.now + later.delay) later.steps)) s
  (s, call)

/-- Asks a session to bring itself up to date for a job. -/
def beginSync (env : Collaborators W) (s : Service W) (id : Identity) (session : Nat) :
    Service W × BodyProgress :=
  let (s, call) := (s.note (.sync session id)).askSync env session
  (s, .waits (.syncing call))

/-- Asks a session for its limits. -/
def beginLimits (env : Collaborators W) (s : Service W) (id : Identity) (session : Nat) :
    Service W × BodyProgress :=
  let s := s.note (.receiveLimits session id)
  let (s, call) := s.ask (env.receiveLimits session s.world)
  (s, .waits (.askingLimits call))

/-- Asks a session for an invoice. -/
def beginInvoice (env : Collaborators W) (s : Service W) (id : Identity) (session : Nat)
    (sat : UInt64) : Service W × BodyProgress :=
  let description := s.config.lnurl.description
  let s := s.note (.receivePayment session id sat description)
  let (s, call) := s.ask (env.receivePayment session sat description s.world)
  (s, .waits (.invoicing call))

/-- Posts the reply. -/
def beginReply (env : Collaborators W) (s : Service W) (id : Identity) (url : String)
    (body : Json) :
    Service W × BodyProgress :=
  let s := s.note (.reply id url body)
  let (s, call) := s.ask (env.reply url body s.world)
  (s, .waits (.replying call))

/-- Tells the payer why there is no other reply. -/
def beginApology (env : Collaborators W) (s : Service W) (id : Identity) (url : String)
    (error : JobError) : Service W × BodyProgress :=
  let body := Lnurl.errorReply error
  let s := s.note (.reply id url body)
  let (s, call) := s.ask (env.reply url body s.world)
  (s, .waits (.apologizing error call))

/-- Ends a job that has replied. -/
def endReplied (s : Service W) (id : Identity) (completer : Nat) (name : String) :
    Service W × BodyProgress :=
  let s := s.say "lnurl" .info (name ++ " job " ++ id.text ++ " replied")
  (s.complete completer .completed, .done (.ok ()))

/-- Ends a job that has failed: the user is told. -/
def endFailed (s : Service W) (id : Identity) (completer : Nat) (title : String)
    (error : JobError) :
    Service W × BodyProgress :=
  let s := s.note (.notify id ⟨title, error.message⟩)
  (s.complete completer (.ofResult (.error error)), .done (.error error))

/-- Begins the body of a swap job. -/
def beginSwap (env : Collaborators W) (s : Service W) (id : Identity) (completer : Nat)
    (session : Nat) (job : SwapJob) : Service W × BodyProgress :=
  let s := s.say "swap" .debug ("Swap job " ++ id.text ++ " waiting on " ++ job.digest ++
    " (status " ++ job.status ++ ")")
  match job.start completer with
  | (job, .waits) => (s.setWork id (.swap job)).beginSync env id session
  | (job, .resolved r) => ((s.setWork id (.swap job)).settle id completer r, .done (.ok ()))
  | (_, .again) =>
    let s := s.say "swap" .warn ("Swap job " ++ id.text ++ " started twice")
    (s.dropCompleter completer, .done (.ok ()))

/-- Begins the body of a job. -/
def beginBody (env : Collaborators W) (s : Service W) (id : Identity) (completer : Nat)
    (session : Nat) : Service W × BodyProgress :=
  match s.work? id with
  | some (.swap job) => s.beginSwap env id completer session job
  | some (.payInfo _) => s.beginLimits env id session
  | some (.payInvoice _) => s.beginLimits env id session
  | none => (s.dropCompleter completer, .done (.ok ()))

/-- The sync of a swap job has ended. -/
def afterSync (s : Service W) (id : Identity) : Except SdkError Unit → Service W × BodyProgress
  | .ok () => (s, .done (.ok ()))
  | .error e =>
    let s := s.say "swap" .warn ("Swap job " ++ id.text ++ " sync failed: " ++ e.message)
    match s.work? id with
    | some (.swap job) => (s.resolveSwap id job (.unsynced e), .done (.error (.sdk e)))
    | _ => (s, .done (.error (.sdk e)))

/-- The limits have come. -/
def afterLimits (env : Collaborators W) (s : Service W) (id : Identity) (session : Nat) :
    JobWork → Except SdkError ReceiveLimits → Service W × BodyProgress
  | .payInfo r, .ok limits =>
    s.beginReply env id r.replyUrl
      (Lnurl.infoReply r.callbackUrl limits s.config.lnurl.description)
  | .payInfo r, .error e => s.beginApology env id r.replyUrl (.sdk e)
  | .payInvoice r, .ok limits =>
    match Lnurl.accept limits r.amount with
    | .ok sat => s.beginInvoice env id session sat
    | .error e => s.beginApology env id r.replyUrl e
  | .payInvoice r, .error e => s.beginApology env id r.replyUrl (.sdk e)
  | .swap _, _ => (s, .done (.ok ()))

/-- The invoice has come. -/
def afterInvoice (env : Collaborators W) (s : Service W) (id : Identity) :
    JobWork → Except SdkError Invoice → Service W × BodyProgress
  | .payInvoice r, .ok invoice => s.beginReply env id r.replyUrl (Lnurl.invoiceReply invoice)
  | .payInvoice r, .error e => s.beginApology env id r.replyUrl (.sdk e)
  | .payInfo _, _ => (s, .done (.ok ()))
  | .swap _, _ => (s, .done (.ok ()))

/-- What a job is called in the log. -/
def nameOf : JobWork → String
  | .swap _ => "Swap"
  | .payInfo _ => "Pay info"
  | .payInvoice _ => "Invoice"

/-- The title of the notification of a job that failed. -/
def failureTitle : JobWork → String
  | .swap _ => "Swap update failed"
  | .payInfo _ => "Receive payment failed"
  | .payInvoice _ => "Invoice request failed"

/-- The reply has been posted, or not. A reply that failed is not answered with another one. -/
def afterReply (s : Service W) (id : Identity) (completer : Nat) :
    JobWork → Except String Unit → Service W × BodyProgress
  | .swap _, _ => (s, .done (.ok ()))
  | work, .ok () => s.endReplied id completer (nameOf work)
  | work, .error reason => s.endFailed id completer (failureTitle work) (.reply reason)

/-- The apology has been posted, or not. -/
def afterApology (s : Service W) (id : Identity) (completer : Nat) (error : JobError) :
    JobWork → Except String Unit → Service W × BodyProgress
  | .swap _, _ => (s, .done (.ok ()))
  | work, .ok () => s.endFailed id completer (failureTitle work) error
  | work, .error reason =>
    (s.say "lnurl" .warn ("Failed to post LNURL error reply: " ++ reason)).endFailed id completer
      (failureTitle work) error

/-- Takes a body from a stage to the next, if it can go on. -/
def resumeBody (env : Collaborators W) (s : Service W) (id : Identity) (completer : Nat)
    (session : Nat) : BodyStage → Option (Service W × BodyProgress)
  | .fresh => some (s.beginBody env id completer session)
  | .syncing call => (call.result? s.now).map (s.afterSync id)
  | .askingLimits call => do
    let limits ← call.result? s.now
    let work ← s.work? id
    pure (s.afterLimits env id session work limits)
  | .invoicing call => do
    let invoice ← call.result? s.now
    let work ← s.work? id
    pure (s.afterInvoice env id work invoice)
  | .replying call => do
    let result ← call.result? s.now
    let work ← s.work? id
    pure (s.afterReply id completer work result)
  | .apologizing error call => do
    let result ← call.result? s.now
    let work ← s.work? id
    pure (s.afterApology id completer error work result)

end PushWake.Service
