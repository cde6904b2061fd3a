import PushWake.Proofs.VeiledCalls

/-!
# Steps behind the veil

Handling a trigger, ending the service and the scheduler commute with the veil, and so does every
step of every activity.
-/

namespace PushWake.Service

variable {W U : Type} {view : W → U} {s : Service W} {env : Collaborators W}
  {picture : Collaborators U}

/-! ## Triggers -/

theorem veiled_dropTrigger (message : String) :
    veiledWith view (s.dropTrigger message) = (s.veiled view).dropTrigger message := by
  rw [dropTrigger, veiledWith_mk, veiled_say]
  rfl

/-- The job of a trigger has been registered, or refused. -/
def afterAddJob (id : Identity) (kind : JobKind) (connection : Connection) :
    Service W × Option Nat → Service W × TriggerProgress
  | (s, none) => s.dropTrigger ("Dropping " ++ kind.name ++ " job, service is shutting down")
  | (s, some completer) => (s.spawn (.body id completer connection .fresh), .done (.ok id))

theorem veiled_afterAddJob (id : Identity) (kind : JobKind) (connection : Connection)
    (completer : Option Nat) :
    veiledWith view (afterAddJob id kind connection (s, completer)) =
      afterAddJob id kind connection (s.veiled view, completer) := by
  cases completer with
  | none => exact veiled_dropTrigger _
  | some completer =>
    rw [afterAddJob, veiledWith_mk, veiled_spawn]
    rfl

/-- A service with the work of one more job, and the identity of the job. -/
def withWork (s : Service W) (work : JobWork) : Service W × Identity :=
  ({ s.draw.1 with works := s.draw.1.works ++ [(s.draw.2, work)] }, s.draw.2)

theorem veiled_withWork (work : JobWork) :
    veiledWith view (s.withWork work) = (s.veiled view).withWork work := rfl

/-- A job is drawn and its work is kept before it is registered. -/
theorem beginJob_eq (trigger : Trigger) (connection : Connection) :
    s.beginJob trigger connection =
      afterAddJob (s.withWork (.ofTrigger trigger)).2 (JobWork.ofTrigger trigger).kind connection
        ((s.withWork (.ofTrigger trigger)).1.addJob (s.withWork (.ofTrigger trigger)).2
          (JobWork.ofTrigger trigger).kind) := by
  unfold beginJob afterAddJob withWork
  rfl

/-- The identity of a job is drawn, and not made from what it is about. -/
theorem veiled_beginJob (trigger : Trigger) (connection : Connection) :
    veiledWith view (s.beginJob trigger connection) =
      (s.veiled view).beginJob trigger connection := by
  have hadded : veiledWith view ((s.withWork (.ofTrigger trigger)).1.addJob
      (s.withWork (.ofTrigger trigger)).2 (JobWork.ofTrigger trigger).kind) = _ := veiled_addJob _ _
  rw [beginJob_eq, beginJob_eq, ← veiled_withWork]
  exact veiled_then (veiled_afterAddJob _ _ connection) hadded

/-- Plugins that did not start keep no trigger from its job. -/
theorem veiled_afterPlugins (trigger : Trigger) (connection : Connection)
    (progress : PluginStartProgress) :
    veiledWith view (afterPlugins trigger connection (s, progress)) =
      afterPlugins trigger connection (s.veiled view, progress) := by
  cases progress with
  | waits stage => rfl
  | done => exact veiled_if (veiled_dropTrigger _) (veiled_beginJob trigger connection)

/-- A trigger that gets no job starts the delay if there is no other job. -/
def turnAway (s : Service W) (e : ServiceError) : Service W × TriggerProgress :=
  (s.armIfEmpty.1, .done (.error e))

theorem veiled_turnAway (e : ServiceError) :
    veiledWith view (s.turnAway e) = (s.veiled view).turnAway e :=
  congrArg (fun r : Service U × Bool => (r.1, Progress.done (Except.error e))) veiled_armIfEmpty

section
variable (h : LooksLike view env picture)
include h

/-- A trigger with a connection gets its job; one without starts the delay, or finds the
hub closed. -/
theorem veiled_afterConnect (k : Nat) (trigger : Trigger) (progress : ConnectProgress) :
    veiledWith view (afterConnect env k trigger (s, progress)) =
      afterConnect picture k trigger (s.veiled view, progress) := by
  cases progress with
  | waits stage => rfl
  | done result =>
    cases result with
    | ok connection =>
      have hstart := veiled_enterStartAll h (s := s) k connection s.config.plugins
      -- the service may have begun to end while the session was opened
      refine veiled_if (veiled_dropTrigger _) ?_
      exact veiled_then (veiled_afterPlugins trigger connection) hstart
    | error e =>
      cases e with
      | closed => exact veiled_dropTrigger _
      | credentials | missingCredentials | sdk | listener =>
        exact veiled_turnAway (s := s.say _ _ _) _

/-- What a message asks for is read from its text, which the veil does not hide. -/
theorem veiled_enterTrigger (k : Nat) (m : TriggerMessage) :
    veiledWith view (s.enterTrigger env k m) = (s.veiled view).enterTrigger picture k m := by
  unfold enterTrigger
  refine veiled_if (veiled_dropTrigger _) ?_
  have hsent : (s.send .reset).veiled view = (s.veiled view).send .reset := veiled_send _
  rw [← hsent]
  -- a trigger that nobody understands has sent its command all the same
  cases Trigger.ofMessage m with
  | error e => exact veiled_turnAway (s := (s.send .reset).say _ _ _) _
  | ok trigger =>
    have hconnect := veiled_enterConnect h
      (s := (s.send .reset).say "service" .info ("Received " ++ trigger.summary ++ " trigger")) k
      (s.send .reset).config.connection
    exact veiled_then (veiled_afterConnect h k trigger) hconnect

/-- A trigger goes on behind the veil if it can go on, and comes as far. -/
theorem veiled_resumeTrigger (k : Nat) (m : TriggerMessage) (stage : TriggerStage) :
    (s.resumeTrigger env k m stage).map (veiledWith view) =
      (s.veiled view).resumeTrigger picture k m stage := by
  cases stage with
  | arriving => exact congrArg some (veiled_enterTrigger h k m)
  | connecting trigger stage =>
    have hconnect := veiled_resumeConnect h (s := s) k s.config.connection .jobs stage
    exact veiled_thenAny (veiled_afterConnect h k trigger) hconnect
  | startingPlugins trigger connection stage =>
    have hstart := veiled_resumeStart h (s := s) k connection s.config.plugins stage
    exact veiled_thenAny (veiled_afterPlugins trigger connection) hstart

end

/-! ## Ending the service -/

/-- The host is told behind the veil when it is told. -/
theorem veiled_endTeardown (reason : ShutdownReason) :
    veiledWith view (s.endTeardown reason) = (s.veiled view).endTeardown reason := by
  have hnoted : (s.note (.hostShutdown reason)).veiled view =
      (s.veiled view).note (.hostShutdown reason) := veiled_note _
  rw [endTeardown, veiledWith_mk, veiled_say, endTeardown, ← hnoted]
  rfl

theorem veiled_afterClosing (reason : ShutdownReason) (progress : DisconnectProgress) :
    veiledWith view (afterClosing reason (s, progress)) =
      afterClosing reason (s.veiled view, progress) := by
  cases progress with
  | waits stage => rfl
  | done => exact veiled_endTeardown reason

/-- A service that has begun to end. -/
def endingNow (s : Service W) (reason : ShutdownReason) : Service W :=
  ({ s with ending := true }.note (.teardownStarted reason)).say "teardown" .info
    ("Shutting down (" ++ reason.text ++ ")")

theorem veiled_endingNow (reason : ShutdownReason) :
    (s.endingNow reason).veiled view = (s.veiled view).endingNow reason := by
  rw [endingNow, veiled_say, veiled_note]
  rfl

theorem veiled_jobsTold : s.signalJobs.1.veiled view = (s.veiled view).signalJobs.1 :=
  congrArg Prod.fst veiled_signalJobs

section
variable (h : LooksLike view env picture)
include h

theorem veiled_afterStopping (k : Nat) (reason : ShutdownReason) (progress : PluginStopProgress) :
    veiledWith view (afterStopping env k reason (s, progress)) =
      afterStopping picture k reason (s.veiled view, progress) := by
  cases progress with
  | waits stage => rfl
  | done =>
    have hdisconnect := veiled_enterDisconnect h (s := s) k true
    exact veiled_then (veiled_afterClosing reason) hdisconnect

/-- A teardown is begun once, behind the veil and in front of it. -/
theorem veiled_enterTeardown (k : Nat) (reason : ShutdownReason) :
    veiledWith view (s.enterTeardown env k reason) =
      (s.veiled view).enterTeardown picture k reason := by
  have hstop := veiled_enterStop h (s := s.endingNow reason) k
  rw [veiled_endingNow] at hstop
  refine veiled_if rfl ?_
  exact veiled_then (veiled_afterStopping h k reason) hstop

/-- A teardown goes on behind the veil if it can go on, and comes as far. -/
theorem veiled_resumeTeardown (k : Nat) (reason : ShutdownReason) (stage : TeardownStage) :
    (s.resumeTeardown env k reason stage).map (veiledWith view) =
      (s.veiled view).resumeTeardown picture k reason stage := by
  cases stage with
  | stoppingPlugins stage =>
    exact veiled_thenAny (veiled_afterStopping h k reason) (veiled_resumeStop h k stage)
  | closingConnection stage =>
    exact veiled_thenAny (veiled_afterClosing reason) (veiled_resumeDisconnect h k true stage)

/-- A shutdown tells the jobs, cancels the scheduler and begins the teardown. -/
theorem veiled_enterShutdown (k : Nat) :
    veiledWith view (s.enterShutdown env k) = (s.veiled view).enterShutdown picture k := by
  have hended := veiled_enterTeardown h (s := s.signalJobs.1.send .cancel) k .requested
  rw [veiled_send, veiled_jobsTold] at hended
  exact veiled_if rfl hended

end

/-! ## The scheduler -/

theorem veiled_afterTeardown (reason : ShutdownReason) (progress : TeardownProgress) :
    veiledWith view (afterTeardown reason (s, progress)) =
      afterTeardown reason (s.veiled view, progress) := by
  cases progress <;> rfl

@[simp] theorem veiled_schedule (change : Scheduler → Scheduler) :
    (s.schedule change).veiled view = (s.veiled view).schedule change := rfl

/-- What is logged about a command tells the deadlines, and no secret. -/
@[simp] theorem veiled_sayCommand (command : SchedulerCommand) :
    (s.sayCommand command).veiled view = (s.veiled view).sayCommand command := by
  cases command with
  | reset =>
    unfold sayCommand
    rw [scheduler_veiled]
    cases s.scheduler.empty <;> rfl
  | armEmptyDelay =>
    unfold sayCommand
    rw [scheduler_veiled]
    cases s.scheduler.service <;> rfl
  | cancel => rfl

/-- The scheduler obeys alike, since commands and deadlines are not veiled. -/
theorem veiled_obey (command : SchedulerCommand) :
    veiledWith view (s.obey command) = (s.veiled view).obey command := by
  have hsaid : ((s.note (.obeyed command)).sayCommand command).veiled view =
      ((s.veiled view).note (.obeyed command)).sayCommand command := by
    rw [veiled_sayCommand, veiled_note]
    rfl
  rw [obey, veiledWith_mk, veiled_schedule, obey, ← hsaid]
  rfl

/-- A service whose hard limit is over. -/
def limitOver (s : Service W) : Service W :=
  (s.note (.expired .service)).say "scheduler" .info ("Service timeout reached with " ++
    toString s.jobs.entries.length ++ " active job(s)")

theorem veiled_limitOver : s.limitOver.veiled view = (s.veiled view).limitOver := by
  rw [limitOver, veiled_say, veiled_note]
  rfl

/-- A service whose delay is over. -/
def delayOver (s : Service W) : Service W :=
  (s.note (.expired .empty)).schedule Scheduler.forgetEmpty

theorem veiled_delayOver : s.delayOver.veiled view = (s.veiled view).delayOver := by
  rw [delayOver, veiled_schedule, veiled_note]
  rfl

/-- The service ends because a deadline is over. -/
def fire (env : Collaborators W) (s : Service W) (k : Nat) (reason : ShutdownReason) :
    Service W × SchedulerProgress :=
  afterTeardown reason ((s.schedule (Scheduler.fire reason)).enterTeardown env k reason)

/-- The set of jobs has been closed because it is empty, or stays open. -/
def afterCloseIfEmpty (env : Collaborators W) (k : Nat) :
    Service W × Bool → Service W × SchedulerProgress
  | (s, false) =>
    ((s.say "scheduler" .debug
      "Empty delay elapsed but jobs are active or shutdown is underway").schedule Scheduler.publish,
      .waits .listening)
  | (s, true) =>
    fire env (s.say "scheduler" .info ("No jobs for " ++
      Text.duration s.config.timeouts.emptyDelayMs.toNat ++ ", shutting down")) k .emptyDelay

/-- What happens when the delay is over depends on whether the set could be closed. -/
theorem emptyOver_eq (k : Nat) :
    s.emptyOver env k = afterCloseIfEmpty env k s.delayOver.closeIfEmpty := by
  unfold emptyOver afterCloseIfEmpty fire
  rfl

section
variable (h : LooksLike view env picture)
include h

/-- A deadline that is over ends the service for its reason. -/
theorem veiled_fire (k : Nat) (reason : ShutdownReason) :
    veiledWith view (fire env s k reason) = fire picture (s.veiled view) k reason := by
  have hended := veiled_enterTeardown h (s := s.schedule (Scheduler.fire reason)) k reason
  rw [veiled_schedule] at hended
  exact veiled_then (veiled_afterTeardown reason) hended

theorem veiled_serviceOver (k : Nat) :
    veiledWith view (s.serviceOver env k) = (s.veiled view).serviceOver picture k := by
  have hfired := veiled_fire h (s := s.limitOver.signalJobs.1) k .serviceTimeout
  rw [veiled_jobsTold, veiled_limitOver] at hfired
  exact hfired

theorem veiled_afterCloseIfEmpty (k : Nat) (closed : Bool) :
    veiledWith view (afterCloseIfEmpty env k (s, closed)) =
      afterCloseIfEmpty picture k (s.veiled view, closed) := by
  cases closed with
  | false => rfl
  | true => exact veiled_fire h k .emptyDelay

theorem veiled_emptyOver (k : Nat) :
    veiledWith view (s.emptyOver env k) = (s.veiled view).emptyOver picture k := by
  rw [emptyOver_eq, emptyOver_eq, ← veiled_delayOver, ← veiled_closeIfEmpty]
  exact veiled_afterCloseIfEmpty h k _

/-- The scheduler does the same: it takes a command, looks at a deadline, or goes on
with the end. -/
theorem veiled_resumeScheduler (k : Nat) (stage : SchedulerStage) :
    (s.resumeScheduler env k stage).map (veiledWith view) =
      (s.veiled view).resumeScheduler picture k stage := by
  cases stage with
  | listening =>
    have hcommands : (s.veiled view).commands = s.commands := rfl
    unfold resumeScheduler
    -- commands come first, whatever is due
    rw [hcommands]
    cases s.commands with
    | cons command rest =>
      exact congrArg some (veiled_obey (s := { s with commands := rest }) command)
    | nil =>
      -- without a command the clock decides which deadline is due
      rw [scheduler_veiled, now_veiled]
      cases s.scheduler.due? s.now with
      | none => rfl
      | some deadline =>
        cases deadline with
        | service => exact congrArg some (veiled_serviceOver h k)
        | empty => exact congrArg some (veiled_emptyOver h k)
  | tearingDown reason stage =>
    exact veiled_thenAny (veiled_afterTeardown reason) (veiled_resumeTeardown h k reason stage)

end

/-! ## Steps -/

/-- Who holds the service is seen from the kinds of its activities. -/
theorem veiled_cancelIfUnheld :
    s.cancelIfUnheld.veiled view = (s.veiled view).cancelIfUnheld := by
  have hheld : (s.veiled view).activities.any (fun a => holdsService a.2) =
      s.activities.any fun a => holdsService a.2 := by
    simp only [veiled, List.any_map]
    -- the veil leaves every activity of its kind
    refine congrArg (List.any _) (funext fun a => ?_)
    obtain ⟨k, a⟩ := a
    cases a <;> rfl
  have hreleased : (s.veiled view).released = s.released := rfl
  unfold cancelIfUnheld
  rw [hheld, hreleased]
  split
  · exact veiled_send _
  · rfl

@[simp] theorem veiled_answer (k : Nat) (a : CallAnswer) :
    (s.answer k a).veiled view = (s.veiled view).answer k a := by
  rw [answer, veiled_note, veiled_finish]
  rfl

/-- An activity comes to wait behind the veil, or to its end, as it does in front of it. -/
theorem veiled_follow {σ α : Type} (k : Nat) {stage stage' : σ → Activity}
    {result : Service W → α → Service W} {result' : Service U → α → Service U}
    (hstage : ∀ st, (stage st).veiled = stage' st)
    (hresult : ∀ {s : Service W} a, (result s a).veiled view = result' (s.veiled view) a)
    (r : Service W × Progress σ α) :
    (follow k stage result r).veiled view = follow k stage' result' (veiledWith view r) := by
  obtain ⟨s, progress⟩ := r
  cases progress with
  | waits st =>
    rw [follow, veiled_put, hstage]
    rfl
  | done a => exact hresult a

/-- What an activity does is followed behind the veil. -/
theorem veiled_followed {σ α : Type} (k : Nat) {stage stage' : σ → Activity}
    {result : Service W → α → Service W} {result' : Service U → α → Service U}
    {r : Option (Service W × Progress σ α)} {r' : Option (Service U × Progress σ α)}
    (hstage : ∀ st, (stage st).veiled = stage' st)
    (hresult : ∀ {s : Service W} a, (result s a).veiled view = result' (s.veiled view) a)
    (hr : r.map (veiledWith view) = r') :
    (r.map (follow k stage result)).map (veiled view) = r'.map (follow k stage' result') := by
  rw [← hr, Option.map_map, Option.map_map]
  exact congrArg (Option.map · r) (funext fun r => veiled_follow k hstage hresult r)

/-- An error of a body is logged with the kind of its work. -/
theorem veiled_endBody (k : Nat) (id : Identity) (result : Except JobError Unit) :
    (s.endBody k id result).veiled view = (s.veiled view).endBody k id result := by
  cases result with
  | ok => exact veiled_finish k
  | error e =>
    simp only [endBody, work?_veiled]
    split
    · rw [veiled_finish, veiled_say]
    · exact veiled_finish k

theorem veiled_endScheduler (k : Nat) :
    (s.endScheduler k).veiled view = (s.veiled view).endScheduler k := by
  have hfinished : (s.finish k).veiled view = (s.veiled view).finish k := veiled_finish k
  unfold endScheduler
  rw [← hfinished]
  rfl

theorem veiled_answerCurrent (k : Nat) :
    (s.answerCurrent k).veiled view = (s.veiled view).answerCurrent k := by
  rw [answerCurrent, veiled_answer, veiled_releaseSlot]
  rfl

theorem veiled_answerHandle (k : Nat) :
    (s.answerHandle k).veiled view = (s.veiled view).answerHandle k := by
  rw [answerHandle, veiled_answer, veiled_releaseShelf]
  rfl

/-- The reaper of a job sees how the job came out. -/
theorem veiled_reap (k : Nat) (id : Identity) (completer : Nat) :
    (s.act env k (.reaper id completer)).map (veiled view) =
      (s.veiled view).act picture k (.reaper id completer) := by
  have hcompleters : (s.veiled view).completers = s.completers := rfl
  have hremoved : ∀ outcome, ((s.removeJob id outcome).1.finish k).veiled view =
      ((s.veiled view).removeJob id outcome).1.finish k := by
    intro outcome
    rw [veiled_finish]
    exact congrArg (finish · k) (congrArg Prod.fst (veiled_removeJob id outcome))
  simp only [act, hcompleters]
  cases s.completers[completer]? with
  | none => rfl
  | some c =>
    cases hout : c.outcome with
    | none => simp [hout]
    | some outcome => simp [hout, hremoved]

theorem veiled_option {c : Prop} [Decidable c] {t : Service W} {t' : Service U}
    (ht : t.veiled view = t') :
    (if c then some t else none).map (veiled view) = if c then some t' else none := by
  split
  · exact congrArg some ht
  · rfl

theorem veiled_choice {c : Prop} [Decidable c] {t u : Service W} {t' u' : Service U}
    (ht : t.veiled view = t') (hu : u.veiled view = u') :
    (if c then some t else some u).map (veiled view) = if c then some t' else some u' := by
  split
  · exact congrArg some ht
  · exact congrArg some hu

section
variable (h : LooksLike view env picture)
include h

/-- A step of an activity can be taken behind the veil if it can be taken, and leads as far. -/
theorem veiled_act (k : Nat) (a : Activity) :
    (s.act env k a).map (veiled view) = (s.veiled view).act picture k a.veiled := by
  cases a with
  | scheduler stage =>
    exact veiled_followed k (fun _ => rfl) (fun _ => veiled_endScheduler k)
      (veiled_resumeScheduler h k stage)
  | trigger m stage =>
    refine veiled_followed k (fun _ => rfl) (fun result => ?_) (veiled_resumeTrigger h k m stage)
    rw [veiled_cancelIfUnheld, veiled_answer]
  | shutdown stage =>
    refine veiled_followed k (fun _ => rfl) (fun _ => ?_) ?_
    · rw [veiled_cancelIfUnheld, veiled_answer]
    · cases stage with
      | none => exact congrArg some (veiled_enterShutdown h k)
      | some stage => exact veiled_resumeTeardown h k .requested stage
  | body id completer connection stage =>
    refine veiled_followed k (fun _ => rfl) (fun _ => veiled_endBody k id _) ?_
    cases stage with
    | fresh =>
      -- a body that begins is marked as running first
      have hrunning : (s.markRunning id).1.veiled view = ((s.veiled view).markRunning id).1 :=
        congrArg Prod.fst (veiled_markRunning id)
      have hbody := veiled_resumeBody h (s := (s.markRunning id).1) id completer
        connection.session .fresh
      rw [hrunning] at hbody
      exact hbody
    | syncing | askingLimits | invoicing | replying | apologizing =>
      exact veiled_resumeBody h id completer connection.session _
  | reaper id completer => exact veiled_reap k id completer
  | settlement session due steps =>
    have hsettled : ((settleLater env session s steps).finish k).veiled view =
        (settleLater picture session (s.veiled view) steps).finish k := by
      rw [veiled_finish, veiled_settleLater h]
    exact veiled_option hsettled
  | connect config target stage =>
    refine veiled_followed k (fun _ => rfl) (fun _ => veiled_answer k _) ?_
    cases stage with
    | none => exact congrArg some (veiled_enterConnect h k config)
    | some stage => exact veiled_resumeConnect h k config target stage
  | disconnect close stage =>
    refine veiled_followed k (fun _ => rfl) (fun _ => veiled_answer k _) ?_
    cases stage with
    | none => exact congrArg some (veiled_enterDisconnect h k close)
    | some stage => exact veiled_resumeDisconnect h k close stage
  | current queued =>
    cases queued with
    | true => exact veiled_option (veiled_answerCurrent k)
    | false =>
      have hput : ((s.requestSlot k).put k (.current true)).veiled view = _ := veiled_put k _
      exact veiled_choice (veiled_answerCurrent (s := s.requestSlot k) k) hput
  | startPlugin all connection configs stage =>
    refine veiled_followed k (fun _ => rfl) (fun _ => veiled_answer k _) ?_
    cases stage with
    | none =>
      refine congrArg some (veiled_if ?_ ?_)
      · exact veiled_enterStartAll h k connection configs
      · exact veiled_enterStart h k connection configs
    | some stage => exact veiled_resumeStart h k connection configs stage
  | stopPlugins stage =>
    refine veiled_followed k (fun _ => rfl) (fun _ => veiled_answer k _) ?_
    cases stage with
    | none => exact congrArg some (veiled_enterStop h k)
    | some stage => exact veiled_resumeStop h k stage
  | handle queued =>
    cases queued with
    | true => exact veiled_option (veiled_answerHandle k)
    | false =>
      have hput : ((s.requestShelf k).put k (.handle true)).veiled view = _ := veiled_put k _
      exact veiled_choice (veiled_answerHandle (s := s.requestShelf k) k) hput
  | start id completer connection stage =>
    exact veiled_followed k (fun _ => rfl) (fun _ => veiled_answer k _)
      (veiled_resumeBody h id completer connection.session stage)

/-- **Every step commutes with the veil.** -/
theorem veiled_step (k : Nat) :
    (s.step env k).map (veiled view) = (s.veiled view).step picture k := by
  unfold step
  rw [activity?_veiled]
  cases s.activity? k with
  | none => rfl
  | some a => exact veiled_act h k a

end

end PushWake.Service
