import PushWake.Proofs.PluginShelf
import PushWake.Proofs.RunInvariant
import PushWake.Proofs.SessionSlot
import PushWake.Proofs.SetOperations

/-!
# What is started

Three things are started for a trigger: the credentials are loaded, the wallet is asked for a
session, and a plugin is asked for. With the slot or the shelf in hand each of them is started in
one place, and only by somebody who was not inside already; whatever else a service does, the end of
it included, starts none of them.
-/

namespace PushWake

/-- Whether something is the start of what a trigger needs. -/
def Occurrence.isStart : Occurrence → Bool
  | .credentialsLoad => true
  | .openSession _ _ => true
  | .createPlugin _ _ => true
  | _ => false

/-- What was started, in its order. -/
def starts (os : List Occurrence) : List Occurrence := os.filter Occurrence.isStart

theorem starts_append (os os' : List Occurrence) : starts (os ++ os') = starts os ++ starts os' :=
  List.filter_append os os'

namespace Service

variable {W : Type} {env : Collaborators W} {s t : Service W} {k : Nat}

/-- Most things that happen start nothing. -/
theorem starts_note {o : Occurrence} (ho : o.isStart = false) :
    starts (s.note o).record = starts s.record := by
  rw [record_note, starts_append]
  simp [starts, ho]

/-! ## With a lock in hand -/

/-- What an attempt to open a session starts. -/
inductive Attempt : List Occurrence → Prop where
  /-- There are no credentials. -/
  | lack : Attempt [.credentialsLoad]
  | ask (config : ConnectionConfig) (credentials : Credentials) :
      Attempt [.credentialsLoad, .openSession config credentials]

/-- What may be started with the slot in hand. -/
inductive SlotStarts (v : Slate) : Activity → List Occurrence → Prop where
  | nothing {a : Activity} : SlotStarts v a []
  | attempt {config : ConnectionConfig} {target : ListenerTarget} {stage : Option ConnectStage}
      {new : List Occurrence} : slotStance (.connect config target stage) ≠ .inside →
      v.closed = false → v.live = none → Attempt new →
      SlotStarts v (.connect config target stage) new

/-- What may be started with the shelf in hand. -/
inductive ShelfStarts (v : Rack) : Activity → List Occurrence → Prop where
  | nothing {a : Activity} : ShelfStarts v a []
  | order {all : Bool} {connection : Connection} {configs : PluginConfigs}
      {stage : Option PluginStartStage} (config : NwcConfig) :
      shelfStance (.startPlugin all connection configs stage) ≠ .inside →
      v.stopped = false → v.running = none →
      ShelfStarts v (.startPlugin all connection configs stage) [.createPlugin connection config]

/-- With the slot in hand, what is started can be read off the turn. -/
theorem slotTurn_starts {a : Activity} {b : Option Activity} {v v' : Slate}
    (h : SlotTurn k a v b v') :
    ∃ new, starts v'.record = starts v.record ++ new ∧ SlotStarts v a new := by
  cases h with
  | lack e hstage hopen hlive =>
    exact ⟨_, starts_append _ _, .attempt hstage hopen hlive .lack⟩
  | ask credentials call hstage hopen hlive =>
    exact ⟨_, starts_append _ _, .attempt hstage hopen hlive (.ask _ _)⟩
  | _ => exact ⟨_, starts_append _ _, .nothing⟩

/-- With the shelf in hand, what is started can be read off the turn. -/
theorem shelfTurn_starts {a : Activity} {b : Option Activity} {v v' : Rack}
    (h : ShelfTurn k a v b v') :
    ∃ new, starts v'.record = starts v.record ++ new ∧ ShelfStarts v a new := by
  cases h with
  | order call hstage hgoes hrunning _ _ =>
    exact ⟨_, starts_append _ _, .order _ hstage hgoes hrunning⟩
  | _ => exact ⟨_, starts_append _ _, .nothing⟩

section
variable {a : Activity} {σ α : Type} {stage : σ → Activity} {answer : α → CallAnswer}
  {r : Service W × Progress σ α}

/-- A function that keeps to the turns of the slot starts what its turn starts. -/
theorem inSlot_starts (h : InSlot k a s stage answer r) :
    ∃ new, starts r.1.record = starts s.record ++ new ∧ SlotStarts s.slate a new := by
  obtain ⟨t, progress⟩ := r
  cases progress with
  | waits st => exact slotTurn_starts h.2.2
  | done result =>
    obtain ⟨new, hnew, hstarts⟩ := slotTurn_starts h.2.2
    exact ⟨new, (starts_note rfl).symm.trans hnew, hstarts⟩

theorem inShelf_starts (h : InShelf k a s stage answer r) :
    ∃ new, starts r.1.record = starts s.record ++ new ∧ ShelfStarts s.rack a new := by
  obtain ⟨t, progress⟩ := r
  cases progress with
  | waits st => exact shelfTurn_starts h.2.2
  | done result =>
    obtain ⟨new, hnew, hstarts⟩ := shelfTurn_starts h.2.2
    exact ⟨new, (starts_note rfl).symm.trans hnew, hstarts⟩

end

/-! ## Connects and starts that go on -/

variable {config : ConnectionConfig} {target : ListenerTarget} {connection : Connection}
  {configs : PluginConfigs}

/-- A connect that goes on starts something only if it has waited for the slot, and does not wait
for it again. -/
theorem resumeConnect_starts {stage : ConnectStage} {r : Service W × ConnectProgress}
    (hr : s.resumeConnect env k config target stage = some r) :
    (∃ new, starts r.1.record = starts s.record ++ new ∧ (new = [] ∨
      stage = .awaitingSlot ∧ s.hub.closed = false ∧ s.hub.live = none ∧ Attempt new)) ∧
      r.2 ≠ .waits .awaitingSlot := by
  obtain ⟨-, hin⟩ := resumeConnect_inSlot hr
  constructor
  · obtain ⟨new, hnew, hstarts⟩ := inSlot_starts hin
    refine ⟨new, hnew, ?_⟩
    cases hstarts with
    | nothing => exact .inl rfl
    | attempt hstage hopen hlive hattempt =>
      cases stage with
      | awaitingSlot => exact .inr ⟨rfl, hopen, hlive, hattempt⟩
      | opening | abandoning => exact absurd rfl hstage
  · obtain ⟨t, progress⟩ := r
    rintro rfl
    cases (SlotTurn.stays hin.2.2).1

/-- A start that goes on starts something only if it has waited for the shelf, and does not wait for
it again. -/
theorem resumeStart_starts {stage : PluginStartStage} {r : Service W × PluginStartProgress}
    (hr : s.resumeStart env k connection configs stage = some r) :
    (∃ new, starts r.1.record = starts s.record ++ new ∧ (new = [] ∨
      stage = .awaitingShelf ∧ s.shelf.stopped = false ∧ s.shelf.running = none ∧
        ∃ config, new = [.createPlugin connection config])) ∧
      r.2 ≠ .waits .awaitingShelf := by
  -- the step is a turn with the shelf in hand, and a turn says what is started in it
  obtain ⟨-, hin⟩ := resumeStart_inShelf false hr
  constructor
  · obtain ⟨new, hnew, hstarts⟩ := inShelf_starts hin
    refine ⟨new, hnew, ?_⟩
    cases hstarts with
    | nothing => exact .inl rfl
    | order config hstage hgoes hrunning =>
      cases stage with
      | awaitingShelf => exact .inr ⟨rfl, hgoes, hrunning, config, rfl⟩
      | creating | undoing => exact absurd rfl hstage
  · obtain ⟨t, progress⟩ := r
    rintro rfl
    cases (ShelfTurn.stays hin.2.2).1

/-! ## The end of a service -/

/-- Nobody starts anything by disconnecting. -/
theorem disconnect_starts {close : Bool} {stage : Option DisconnectStage}
    {r : Service W × DisconnectProgress}
    (h : InSlot k (.disconnect close stage) s (fun st => .disconnect close (some st))
      (fun _ => .disconnected) r) : starts r.1.record = starts s.record := by
  obtain ⟨new, hnew, hstarts⟩ := inSlot_starts h
  cases hstarts
  rw [hnew, List.append_nil]

/-- Nobody starts anything by stopping the plugins. -/
theorem stop_starts {stage : Option PluginStopStage} {r : Service W × PluginStopProgress}
    (h : InShelf k (.stopPlugins stage) s (fun st => .stopPlugins (some st))
      (fun _ => .pluginsStopped) r) : starts r.1.record = starts s.record := by
  obtain ⟨new, hnew, hstarts⟩ := inShelf_starts h
  cases hstarts
  rw [hnew, List.append_nil]

theorem enterDisconnect_starts (close : Bool) :
    starts (s.enterDisconnect env k close).1.record = starts s.record := by
  unfold enterDisconnect
  extract_lets requested
  split
  · have hin : InSlot k (.disconnect close none) requested _ _
        (requested.beginDisconnect env close) := beginDisconnect_inSlot nofun
    exact disconnect_starts (s := requested) hin
  · rfl

/-- To close a session starts nothing. -/
theorem resumeDisconnect_starts {close : Bool} {stage : DisconnectStage}
    {r : Service W × DisconnectProgress} (hr : s.resumeDisconnect env k close stage = some r) :
    starts r.1.record = starts s.record := by
  obtain ⟨-, hin⟩ := resumeDisconnect_inSlot hr
  exact disconnect_starts hin

theorem enterStop_starts : starts (s.enterStop env k).1.record = starts s.record := by
  unfold enterStop
  extract_lets requested
  split
  · have hin : InShelf k (.stopPlugins none) requested _ _ (requested.beginStopAll env) :=
      beginStopAll_inShelf nofun
    exact stop_starts (s := requested) hin
  · rfl

/-- To stop plugins starts nothing. -/
theorem resumeStop_starts {stage : PluginStopStage} {r : Service W × PluginStopProgress}
    (hr : s.resumeStop env k stage = some r) : starts r.1.record = starts s.record := by
  obtain ⟨-, hin⟩ := resumeStop_inShelf hr
  exact stop_starts hin

theorem afterClosing_starts (reason : ShutdownReason) (r : Service W × DisconnectProgress) :
    starts (afterClosing reason r).1.record = starts r.1.record := by
  obtain ⟨t, progress⟩ := r
  cases progress with
  | waits stage => rfl
  | done => exact starts_note (s := t) (o := .hostShutdown reason) rfl

theorem afterStopping_starts (reason : ShutdownReason) (r : Service W × PluginStopProgress) :
    starts (afterStopping env k reason r).1.record = starts r.1.record := by
  obtain ⟨t, progress⟩ := r
  cases progress with
  | waits stage => rfl
  | done => exact (afterClosing_starts reason _).trans (enterDisconnect_starts true)

theorem enterTeardown_starts (reason : ShutdownReason) :
    starts (s.enterTeardown env k reason).1.record = starts s.record := by
  unfold enterTeardown
  split
  · rfl
  · extract_lets noted said
    have hnoted : starts said.record = starts s.record :=
      starts_note (s := { s with ending := true }) (o := .teardownStarted reason) rfl
    rw [afterStopping_starts, enterStop_starts, hnoted]

/-- **A teardown starts nothing**, whatever it waits for. -/
theorem resumeTeardown_starts {reason : ShutdownReason} {stage : TeardownStage}
    {r : Service W × TeardownProgress} (hr : s.resumeTeardown env k reason stage = some r) :
    starts r.1.record = starts s.record := by
  cases stage with
  | stoppingPlugins stage =>
    obtain ⟨p, hp, rfl⟩ := Option.map_eq_some_iff.mp hr
    rw [afterStopping_starts, resumeStop_starts hp]
  | closingConnection stage =>
    obtain ⟨p, hp, rfl⟩ := Option.map_eq_some_iff.mp hr
    rw [afterClosing_starts, resumeDisconnect_starts hp]

/-! ## Jobs and commands -/

/-- Jobs start nothing: what they ask for is asked of a session that is there. -/
theorem workBlind_starts {os : List Occurrence} :
    WorkBlind fun t : Service W => starts t.record = os where
  quiet _ _ _ _ _ h := h
  use _ _ h := (starts_note rfl).trans h
  note {_ o} ho h := by
    refine (starts_note ?_).trans h
    cases o <;> first | rfl | cases ho
  settlement _ _ _ h := h

/-- Commands start nothing. -/
theorem send_starts (c : SchedulerCommand) : starts (s.send c).record = starts s.record := by
  unfold send wakeScheduler
  split
  · split
    · exact starts_note rfl
    · exact starts_note rfl
  · exact starts_note rfl

theorem change_starts (c : JobSet.Change) : starts (s.change c).record = starts s.record := by
  unfold change
  extract_lets t
  split
  · exact send_starts _
  · rfl

theorem cancelIfUnheld_starts : starts s.cancelIfUnheld.record = starts s.record := by
  unfold cancelIfUnheld
  split
  · exact send_starts _
  · rfl

theorem answer_starts (c : CallAnswer) :
    starts (s.answer k c).cancelIfUnheld.record = starts s.record :=
  cancelIfUnheld_starts.trans (starts_note (s := s.finish k) rfl)

/-- A job that is taken out may start the delay, and nothing else. -/
theorem removeJob_starts (id : Identity) (o : JobOutcome) :
    starts (s.removeJob id o).1.record = starts s.record := by
  have hnoted : starts (s.note (.jobRemoved id o)).record = starts s.record := starts_note rfl
  unfold removeJob
  split
  · rfl
  · cases o with
    | completed => exact (change_starts _).trans hnoted
    | failed reason => exact (change_starts _).trans hnoted

theorem signalJobs_starts : starts s.signalJobs.1.record = starts s.record :=
  workBlind_starts.stable.signalJobs (fun id _ h => workBlind_starts.signal id h) (fun _ => rfl)
    fun _ => rfl

theorem enterShutdown_starts : starts (s.enterShutdown env k).1.record = starts s.record := by
  unfold enterShutdown
  split
  · rfl
  · exact (enterTeardown_starts _).trans ((send_starts _).trans signalJobs_starts)

theorem afterTeardown_starts (reason : ShutdownReason) (r : Service W × TeardownProgress) :
    starts (afterTeardown reason r).1.record = starts r.1.record := by
  obtain ⟨t, progress⟩ := r
  cases progress <;> rfl

/-- The hard limit starts nothing but the end. -/
theorem serviceOver_starts : starts (s.serviceOver env k).1.record = starts s.record := by
  unfold serviceOver
  extract_lets noted said
  have hsaid : starts said.record = starts s.record := starts_note (o := .expired .service) rfl
  refine (afterTeardown_starts _ _).trans ((enterTeardown_starts _).trans ?_)
  exact signalJobs_starts.trans hsaid

/-- The delay starts nothing but the end. -/
theorem emptyOver_starts : starts (s.emptyOver env k).1.record = starts s.record := by
  unfold emptyOver
  extract_lets expired
  have hclosed : starts expired.closeIfEmpty.1.record = starts s.record :=
    (change_starts _).trans (starts_note (o := .expired .empty) rfl)
  split
  · rename_i t he
    rw [he] at hclosed
    exact hclosed
  · rename_i t he
    rw [he] at hclosed
    exact (afterTeardown_starts _ _).trans ((enterTeardown_starts _).trans hclosed)

/-- **The scheduler starts nothing.** -/
theorem resumeScheduler_starts {stage : SchedulerStage} {r : Service W × SchedulerProgress}
    (hr : s.resumeScheduler env k stage = some r) : starts r.1.record = starts s.record := by
  cases schedulerTurn_of_resume hr with
  | @obeys command rest _ =>
    obtain ⟨log, he⟩ := obey_eq (s := { s with commands := rest }) command
    rw [he]
    exact starts_note (s := { s with commands := rest }) (o := .obeyed command) rfl
  | limit => exact serviceOver_starts
  | delay => exact emptyOver_starts
  | tearsDown hp => rw [afterTeardown_starts, resumeTeardown_starts hp]

end Service

end PushWake
