import PushWake.Proofs.PunctualRuns
import PushWake.Proofs.Starts
import PushWake.Proofs.StepStable

/-!
# How a trigger comes to its job

On its way to a job a trigger deals with sessions and plugins and sends commands, and leaves
everything else as it is (`Stirred`). In a service that is not ending each of its steps brings it
nearer to its end, even when the commands it sends are counted, and in the last of them it gets its
job or is turned away.
-/

namespace PushWake

/-- Whether something happens while a trigger is on its way. -/
def Occurrence.isTransit : Occurrence → Bool
  | .command _ => true
  | o => o.isDealing

namespace TriggerStage

/-- How much a trigger still has to do at most, what its job takes included. -/
def left : TriggerStage → Nat
  | .arriving => 18
  | .connecting _ stage => 12 + Service.toil (.connect {} .jobs (some stage))
  | .startingPlugins _ connection stage =>
    9 + Service.toil (.startPlugin false connection {} (some stage))

/-- A stage knows what its message says. -/
def Reads (m : TriggerMessage) : TriggerStage → Prop
  | .arriving => True
  | .connecting trigger _ => Trigger.ofMessage m = .ok trigger
  | .startingPlugins trigger _ _ => Trigger.ofMessage m = .ok trigger

end TriggerStage

namespace Service

variable {W : Type} {env : Collaborators W} {s t u : Service W} {k n : Nat} {m : TriggerMessage}

/-! ## On the way -/

/-- A service in which a trigger has been on its way: the scheduler has been sent so many commands
at most, and but for sessions and plugins nothing else has changed. -/
structure Stirred (n : Nat) (s t : Service W) : Prop where
  rest : ∃ world drawn hub listeners listenersAdded shelf commands history log wakes, t = { s with
    world, drawn, hub, listeners, listenersAdded, shelf, commands, history, log, wakes }
  drawn : s.drawn ≤ t.drawn
  sent : t.commands.length ≤ s.commands.length + n
  history : ∃ os, t.history = s.history ++ os ∧ ∀ o ∈ os, o.2.isTransit = true

namespace Stirred

theorem refl : Stirred 0 s s where
  rest := ⟨_, _, _, _, _, _, _, _, _, _, rfl⟩
  drawn := Nat.le_refl _
  sent := Nat.le_refl _
  history := ⟨[], by simp, nofun⟩

/-- A trigger on its way notes only what belongs to the way. -/
theorem note (h : Stirred n s t) {o : Occurrence} (ho : o.isTransit = true) :
    Stirred n s (t.note o) := by
  obtain ⟨⟨_, _, _, _, _, _, _, _, _, _, rfl⟩, hdrawn, hsent, os, hos, hall⟩ := h
  refine ⟨⟨_, _, _, _, _, _, _, _, _, _, rfl⟩, hdrawn, hsent, os ++ [(s.now, o)], ?_,
    fun x hx => ?_⟩
  · rw [← List.append_assoc, ← hos]
    rfl
  · rcases List.mem_append.mp hx with hx | hx
    · exact hall x hx
    · rw [List.mem_singleton.mp hx]
      exact ho

/-- What only sessions and plugins are about, and what nobody reads, may change. -/
theorem quiet (h : Stirred n s t) (world : W) (hub : ConnectionHub) (listeners : List Listener)
    (listenersAdded : Nat) (shelf : PluginShelf) (log : List (Nat × LogLine)) (wakes : List Nat) :
    Stirred n s { t with world, hub, listeners, listenersAdded, shelf, log, wakes } := by
  obtain ⟨⟨_, _, _, _, _, _, _, _, _, _, rfl⟩, hdrawn, hsent, hhistory⟩ := h
  exact ⟨⟨_, _, _, _, _, _, _, _, _, _, rfl⟩, hdrawn, hsent, hhistory⟩

/-- Sessions and plugins are stirred on the way, and no command is sent for them. -/
theorem session : SessionStable (W := W) (Stirred n s) where
  quiet _ _ _ _ _ _ _ h := h.quiet _ _ _ _ _ _ _
  draw h := by
    obtain ⟨⟨_, _, _, _, _, _, _, _, _, _, rfl⟩, hdrawn, hsent, hhistory⟩ := h
    exact ⟨⟨_, _, _, _, _, _, _, _, _, _, rfl⟩, Nat.le_succ_of_le hdrawn, hsent, hhistory⟩
  hub _ _ h := h.quiet _ _ _ _ _ _ _
  note {_ o} ho h := h.note (by cases o <;> first | rfl | cases ho)

theorem say (h : Stirred n s t) {tag : String} {level : LogLevel} {message : String} :
    Stirred n s (t.say tag level message) :=
  session.say _ _ _ h

/-- Each command that is sent is counted. -/
theorem send (h : Stirred n s t) (c : SchedulerCommand) : Stirred (n + 1) s (t.send c) := by
  have hn : Stirred n s (t.note (.command c)) := h.note rfl
  obtain ⟨wakes, log, he⟩ := t.send_eq c
  rw [he]
  obtain ⟨⟨_, _, _, _, _, _, _, _, _, _, rfl⟩, hdrawn, hsent, -⟩ := h
  refine ⟨⟨_, _, _, _, _, _, _, _, _, _, rfl⟩, hdrawn, ?_, hn.history⟩
  have hsent : _ ≤ s.commands.length + n := hsent
  split
  · rw [List.length_append]
    exact Nat.succ_le_succ hsent
  · exact Nat.le_succ_of_le hsent

theorem armIfEmpty (h : Stirred n s t) : Stirred (n + 1) s t.armIfEmpty.1 := by
  unfold Service.armIfEmpty JobSet.armIfEmpty
  cases t.jobs.commandIfEmpty with
  | some command => exact h.send command
  | none =>
    obtain ⟨hrest, hdrawn, hsent, hhistory⟩ := h
    exact ⟨hrest, hdrawn, Nat.le_succ_of_le hsent, hhistory⟩

theorem jobs (h : Stirred n s t) : t.jobs = s.jobs := by
  obtain ⟨⟨_, _, _, _, _, _, _, _, _, _, rfl⟩, -⟩ := h
  rfl

theorem ending (h : Stirred n s t) : t.ending = s.ending := by
  obtain ⟨⟨_, _, _, _, _, _, _, _, _, _, rfl⟩, -⟩ := h
  rfl

theorem works (h : Stirred n s t) : t.works = s.works := by
  obtain ⟨⟨_, _, _, _, _, _, _, _, _, _, rfl⟩, -⟩ := h
  rfl

theorem completers (h : Stirred n s t) : t.completers = s.completers := by
  obtain ⟨⟨_, _, _, _, _, _, _, _, _, _, rfl⟩, -⟩ := h
  rfl

theorem activities (h : Stirred n s t) : t.activities = s.activities := by
  obtain ⟨⟨_, _, _, _, _, _, _, _, _, _, rfl⟩, -⟩ := h
  rfl

theorem now (h : Stirred n s t) : t.now = s.now := by
  obtain ⟨⟨_, _, _, _, _, _, _, _, _, _, rfl⟩, -⟩ := h
  rfl

theorem begun (h : Stirred n s t) : t.begun = s.begun := by
  obtain ⟨⟨_, _, _, _, _, _, _, _, _, _, rfl⟩, -⟩ := h
  rfl

theorem config (h : Stirred n s t) : t.config = s.config := by
  obtain ⟨⟨_, _, _, _, _, _, _, _, _, _, rfl⟩, -⟩ := h
  rfl

end Stirred

/-! ## Coming nearer -/

/-- A trigger gets its job, with a connection to the live session. -/
def Employs (m : TriggerMessage) (u : Service W) (id : Identity) (t : Service W) : Prop :=
  ∃ trigger connection wakes log, Trigger.ofMessage m = .ok trigger ∧ u.Attached connection ∧
    id = ⟨u.drawn⟩ ∧ t = { u.enrolled trigger connection with wakes, log }

/-- A reaper and a body have come to those who were there. -/
theorem mem_enrolled {u : Service W} (trigger : Trigger) (connection : Connection) {j : Nat}
    {a : Activity} :
    (j, a) ∈ (u.enrolled trigger connection).activities ↔ (j, a) ∈ u.activities ∨
      (j, a) = (u.begun, .reaper ⟨u.drawn⟩ u.completers.length) ∨
      (j, a) = (u.begun + 1, .body ⟨u.drawn⟩ u.completers.length connection .fresh) := by
  rw [enrolled, List.mem_append, List.mem_append, List.mem_singleton, List.mem_singleton, or_assoc]

/-- A job that is registered is noted, and so is the command that follows it. -/
theorem mem_history_enrolled {u : Service W} (trigger : Trigger) (connection : Connection)
    {o : Nat × Occurrence} : o ∈ (u.enrolled trigger connection).history ↔ o ∈ u.history ∨
      o = (u.now, .jobAdded ⟨u.drawn⟩ (JobWork.ofTrigger trigger).kind) ∨
      o = (u.now, .command .reset) := by
  rw [enrolled, List.mem_append, List.mem_append, List.mem_singleton, List.mem_singleton, or_assoc]

/-- Where a trigger comes that still had so much to do. A command counts for two. -/
def Comes (m : TriggerMessage) (left : Nat) (s : Service W) : Service W × TriggerProgress → Prop
  | (t, .waits stage) => ∃ n, Stirred n s t ∧ stage.Reads m ∧ 2 * n + stage.left < left
  | (t, .done (.error _)) => ∃ n, Stirred n s t ∧ 2 * n < left
  | (t, .done (.ok id)) => ∃ n u, Stirred n s u ∧ 2 * n + 9 < left ∧ Employs m u id t

/-- A connect that is under way has three steps left at most. -/
theorem toil_connect_le (stage : ConnectStage) : toil (.connect {} .jobs (some stage)) ≤ 3 := by
  cases stage with
  | awaitingSlot | opening | abandoning => simp [toil]

theorem toil_startPlugin_le (connection : Connection) (stage : PluginStartStage) :
    toil (.startPlugin false connection {} (some stage)) ≤ 3 := by
  cases stage with
  | awaitingShelf | creating | undoing => simp [toil]

/-- A connect that goes on comes nearer to its end. -/
theorem resumeConnect_nearer {config : ConnectionConfig} {stage stage' : ConnectStage}
    {r : Service W × ConnectProgress} (hr : s.resumeConnect env k config .jobs stage = some r)
    (hw : r.2 = .waits stage') :
    toil (.connect {} .jobs (some stage')) < toil (.connect {} .jobs (some stage)) := by
  have hsame : ∀ st, toil (.connect config .jobs (some st)) = toil (.connect {} .jobs (some st)) :=
    fun st => by cases st <;> rfl
  obtain ⟨-, hin⟩ := resumeConnect_inSlot hr
  obtain ⟨t, progress⟩ := r
  obtain rfl : progress = .waits stage' := hw
  obtain ⟨-, -, hlt, -⟩ := SlotTurn.stays hin.2.2
  rwa [hsame, hsame] at hlt

/-- So does a start. -/
theorem resumeStart_nearer {connection : Connection} {configs : PluginConfigs}
    {stage stage' : PluginStartStage} {r : Service W × PluginStartProgress}
    (hr : s.resumeStart env k connection configs stage = some r) (hw : r.2 = .waits stage') :
    toil (.startPlugin false connection {} (some stage')) <
      toil (.startPlugin false connection {} (some stage)) := by
  have hsame : ∀ st, toil (.startPlugin false connection configs (some st)) =
      toil (.startPlugin false connection {} (some st)) := fun st => by cases st <;> rfl
  obtain ⟨-, hin⟩ := resumeStart_inShelf false hr
  obtain ⟨t, progress⟩ := r
  obtain rfl : progress = .waits stage' := hw
  obtain ⟨-, -, hlt, -⟩ := ShelfTurn.stays hin.2.2
  rwa [hsame, hsame] at hlt

section
variable {left : Nat} {trigger : Trigger} {connection : Connection}
  (hm : Trigger.ofMessage m = .ok trigger) (hopen : s.jobs.closed = false)
  (halive : s.ending = false)
include hm hopen halive

/-- The plugins of an open service have started, or are about to. -/
theorem comes_afterPlugins {r : Service W × PluginStartProgress} (h : Stirred n s r.1)
    (hc : r.1.Attached connection) (hdone : 2 * n + 9 < left)
    (hwaits : ∀ stage, r.2 = .waits stage →
      2 * n + (TriggerStage.startingPlugins trigger connection stage).left < left) :
    Comes m left s (afterPlugins trigger connection r) := by
  obtain ⟨t, progress⟩ := r
  cases progress with
  | waits stage => exact ⟨n, h, hm, hwaits stage rfl⟩
  | done running =>
    have hending : t.ending = false := h.ending.trans halive
    have hjobs : t.jobs.closed = false := by rw [h.jobs, hopen]
    obtain ⟨wakes, log, he⟩ := t.beginJob_of_open hjobs trigger connection
    simp only [afterPlugins, hending, Bool.false_eq_true, if_false, he]
    exact ⟨n, t, h, hdone, trigger, connection, wakes, log, hm, hc, rfl, rfl⟩

/-- The session has been opened, or is about to be. -/
theorem comes_afterConnect {r : Service W × ConnectProgress} (h : Stirred n s r.1)
    (hok : ConnectOk k r) (hdone : 2 * n + 12 < left)
    (hwaits : ∀ stage, r.2 = .waits stage →
      2 * n + (TriggerStage.connecting trigger stage).left < left) :
    Comes m left s (afterConnect env k trigger r) := by
  obtain ⟨t, progress⟩ := r
  cases progress with
  | waits stage => exact ⟨n, h, hm, hwaits stage rfl⟩
  | done result =>
    cases result with
    | error e =>
      have harm : Stirred (n + 1) s (t.say "service" .error
          ("Cannot run " ++ trigger.kind.name ++ " job: " ++ e.message)).armIfEmpty.1 :=
        h.say.armIfEmpty
      cases e with
      | closed => exact ⟨n, h.say, by omega⟩
      | credentials | missingCredentials | sdk | listener => exact ⟨n + 1, harm, by omega⟩
    | ok connection =>
      have hending : t.ending = false := h.ending.trans halive
      have ht : Turn k t (t.enterStartAll env k connection t.config.plugins).1 :=
        (enterStartAll_turn connection _).1
      simp only [afterConnect, hending, Bool.false_eq_true, if_false]
      refine comes_afterPlugins hm hopen halive (Stirred.session.enterStartAll k _ _ h)
        (ht.attached hok) (by omega) fun stage _ => ?_
      have hle := toil_startPlugin_le connection stage
      simp only [TriggerStage.left]
      omega

end

/-- **A trigger of an open service comes nearer to its end in each of its steps.** -/
theorem comes_resumeTrigger (hsane : Sane s) (hopen : s.jobs.closed = false)
    (halive : s.ending = false) {stage : TriggerStage} (hreads : stage.Reads m)
    (ha : (k, .trigger m stage) ∈ s.activities) {r : Service W × TriggerProgress}
    (hr : s.resumeTrigger env k m stage = some r) : Comes m stage.left s r := by
  have hsound := hsane.sound _ _ ha
  -- what is left of a trigger counts the connect and the start before it, so each of their steps
  -- brings it nearer
  cases stage with
  | arriving =>
    cases hr
    have hsent : Stirred 1 s (s.send .reset) := Stirred.refl.send .reset
    simp only [enterTrigger, halive, Bool.false_eq_true, if_false]
    split
    · exact ⟨2, hsent.say.armIfEmpty, by decide⟩
    · rename_i trigger hm
      refine comes_afterConnect hm hopen halive (Stirred.session.enterConnect k _ hsent.say)
        (enterConnect_turn _).2 (by decide) fun stage _ => ?_
      have hle := toil_connect_le stage
      simp only [TriggerStage.left]
      omega
  | connecting trigger stage =>
    obtain ⟨c, hc, rfl⟩ := Option.map_eq_some_iff.mp hr
    obtain ⟨-, hok⟩ := resumeConnect_turn hsound hc
    have hpos := toil_pos (.connect {} .jobs (some stage))
    refine comes_afterConnect hreads hopen halive (Stirred.session.resumeConnect hc .refl) hok ?_
      fun stage' hw => ?_
    · simp only [TriggerStage.left]
      omega
    · have hlt := resumeConnect_nearer hc hw
      simp only [TriggerStage.left]
      omega
  | startingPlugins trigger connection stage =>
    obtain ⟨p, hp, rfl⟩ := Option.map_eq_some_iff.mp hr
    obtain ⟨ht, -⟩ := resumeStart_turn hsane.ledger hsound.2 hsound.1 hp
    have hpos := toil_pos (.startPlugin false connection {} (some stage))
    refine comes_afterPlugins hreads hopen halive (Stirred.session.resumeStart hp .refl)
      (ht.attached hsound.2) ?_ fun stage' hw => ?_
    · simp only [TriggerStage.left]
      omega
    · have hlt := resumeStart_nearer hp hw
      simp only [TriggerStage.left]
      omega

end Service

end PushWake
