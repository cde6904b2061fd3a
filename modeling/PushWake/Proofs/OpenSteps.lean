import PushWake.Proofs.HardLimitReach
import PushWake.Proofs.WatchedSwaps

/-!
# The steps of an open service

What a step can do to a service that is wanted and is not ending: the scheduler looks at a command
or at a delay that is over for nothing, a trigger comes nearer to its job, a body goes on, a
reaper takes its job out, a session settles. `OpenStep` lists these steps, and all others begin
the end. What activities of an open service rely on (`Equipped`) is kept by each of them, and so
in every punctual run.
-/

namespace PushWake.Service

variable {W : Type} {env : Collaborators W} {Q : W → Prop} {s s' t : Service W} {k : Nat}
  {id : Identity} {c : Nat}

/-! ## What changes in a step -/

/-- A service in which jobs have been at work: but for the collaborators, what there is to do, and
what was recorded, nothing has changed. -/
def Worked (s t : Service W) : Prop := ∃ world works completers dispatched history log wakes,
  t = { s with world, works, completers, dispatched, history, log, wakes }

theorem Worked.refl : Worked s s := ⟨_, _, _, _, _, _, _, rfl⟩

theorem Worked.activities (h : Worked s t) : t.activities = s.activities := by
  obtain ⟨_, _, _, _, _, _, _, rfl⟩ := h
  rfl

theorem Worked.quiet (h : Worked s t) (world : W) (works : List (Identity × JobWork))
    (completers : List Completer) (dispatched : Nat) (history : List (Nat × Occurrence))
    (log : List (Nat × LogLine)) (wakes : List Nat) :
    Worked s { t with world, works, completers, dispatched, history, log, wakes } := by
  obtain ⟨_, _, _, _, _, _, _, rfl⟩ := h
  exact ⟨_, _, _, _, _, _, _, rfl⟩

theorem Worked.complete (h : Worked s t) (c : Nat) (o : JobOutcome) :
    Worked s (t.complete c o) := by
  obtain ⟨_, _, _, he⟩ := complete_eq_with (s := t) c o
  rw [he]
  exact h.quiet _ _ _ _ _ _ _

/-- Events leave their work, and nothing else. -/
theorem eventStrokes_worked : EventStrokes (Worked s) where
  quiet _ _ _ h := h.quiet _ _ _ _ _ _ _
  note _ _ h := h.quiet _ _ _ _ _ _ _
  same _ h := h.quiet _ _ _ _ _ _ _
  keep _ _ _ h := h.quiet _ _ _ _ _ _ _
  settle _ _ _ h := Worked.complete (t := (Service.setWork _ _ _).note _)
    (h.quiet _ _ _ _ _ _ _) _ _

/-- So do bodies. -/
theorem bodyStrokes_worked (env : Collaborators W) (id : Identity) (c : Nat) :
    BodyStrokes env id c (Worked s) where
  toEventStrokes := eventStrokes_worked
  ask _ h := h.quiet _ _ _ _ _ _ _
  sync _ h := h.quiet _ _ _ _ _ _ _
  start _ _ h := h.quiet _ _ _ _ _ _ _
  early _ _ h := Worked.complete (t := (Service.setWork _ _ _).note _) (h.quiet _ _ _ _ _ _ _) _ _
  use o h := h.complete _ o
  tell _ _ h := h.quiet _ _ _ _ _ _ _

/-- A change of the set leaves the rest as it was, but for a command at most. -/
theorem change_eq_with (change : JobSet.Change) : ∃ commands history log wakes,
    s.change change = { s with jobs := change.set, commands, history, log, wakes } ∧
      commands.length ≤ s.commands.length + 1 ∧ s.history <+: history := by
  unfold Service.change
  extract_lets changed
  split
  · rename_i command _
    obtain ⟨wakes, log, hs⟩ := changed.send_eq command
    rw [hs]
    refine ⟨_, _, _, _, rfl, ?_, List.prefix_append _ _⟩
    split
    · exact Nat.le_of_eq List.length_append
    · exact Nat.le_succ _
  · exact ⟨_, _, _, _, rfl, Nat.le_succ _, List.prefix_rfl⟩

/-- So does the removal of a member, which is noted, and which leaves the other members. -/
theorem removeJob_eq_with_of_mem (hid : id ∈ s.jobs.ids) (o : JobOutcome) :
    ∃ jobs commands history log wakes,
      (s.removeJob id o).1 = { s with jobs, commands, history, log, wakes } ∧
        commands.length ≤ s.commands.length + 1 ∧ (s.now, .jobRemoved id o) ∈ history ∧
        jobs.ids = s.jobs.ids.erase id := by
  obtain ⟨e, hf⟩ := Option.ne_none_iff_exists'.mp fun hf => JobSet.not_mem_of_find hf hid
  obtain ⟨left, log, hleft, he⟩ := s.removeJob_of_find hf o
  obtain ⟨commands, history, log, wakes, hc, hlen, hhistory⟩ := change_eq_with
    (s := { s.note (.jobRemoved id o) with log }) ⟨{ s.jobs with entries := left }, true,
      if left.isEmpty && !s.jobs.closed then some .armEmptyDelay else none⟩
  rw [he, hc]
  exact ⟨_, commands, history, log, wakes, rfl, hlen,
    hhistory.mem (List.mem_append_right _ (List.mem_singleton_self _)), hleft⟩

/-- Whoever is not a member is not taken out. -/
theorem removeJob_eq_with (id : Identity) (o : JobOutcome) : ∃ jobs commands history log wakes,
    (s.removeJob id o).1 = { s with jobs, commands, history, log, wakes } ∧
      commands.length ≤ s.commands.length + 1 ∧ jobs.ids = s.jobs.ids.erase id := by
  by_cases hid : id ∈ s.jobs.ids
  · obtain ⟨jobs, commands, history, log, wakes, he, hlen, -, hids⟩ :=
      removeJob_eq_with_of_mem hid o
    exact ⟨jobs, commands, history, log, wakes, he, hlen, hids⟩
  · have hf : s.jobs.find? id = none := by
      rw [Option.eq_none_iff_forall_ne_some]
      intro e hf
      have he := List.find?_some hf
      exact hid (eq_of_beq he ▸ List.mem_map_of_mem (List.mem_of_find?_eq_some hf))
    simp only [removeJob, hf]
    exact ⟨_, _, _, _, _, rfl, Nat.le_succ _, (List.erase_of_not_mem hid).symm⟩

/-- What the scheduler still has to do. A command counts for two, since it may start the delay. -/
def toDo (s : Service W) : Nat :=
  2 * s.commands.length + if s.scheduler.empty.isSome then 1 else 0

/-- A service in which the scheduler has dealt with something. -/
def Ticked (s t : Service W) : Prop := t.toDo < s.toDo ∧ ∃ commands scheduler history log,
  t = { s with commands, scheduler, history, log }

/-- A scheduler that obeys has its commands and its deadlines changed, and nothing else. -/
theorem ticked_obey {command : SchedulerCommand} {rest : List SchedulerCommand}
    (hc : s.commands = command :: rest) :
    Ticked s (obey { s with commands := rest } command).1 := by
  obtain ⟨log, he⟩ := obey_eq (s := { s with commands := rest }) command
  rw [he]
  refine ⟨?_, _, _, _, _, rfl⟩
  have hle : ∀ scheduler : Scheduler, (if scheduler.empty.isSome then 1 else 0) ≤ 1 := by
    intro scheduler
    split <;> decide
  have hle := hle (s.scheduler.obey s.config.timeouts s.now command)
  show 2 * rest.length + (if (s.scheduler.obey s.config.timeouts s.now command).empty.isSome then 1
    else 0) < s.toDo
  rw [toDo, hc, List.length_cons]
  omega

/-- A delay that is over while there are jobs is forgotten. -/
theorem ticked_lapse (env : Collaborators W) (k : Nat) (hdue : s.scheduler.due? s.now = some .empty)
    (hbusy : s.jobs.entries ≠ []) :
    Ticked s (s.emptyOver env k).1 ∧ (s.emptyOver env k).2 = .waits .listening := by
  obtain ⟨log, he⟩ := emptyOver_of_busy env k (fun h : s.jobs.closed = false ∧ _ => hbusy h.2)
  obtain ⟨d, hd, -⟩ := Scheduler.reached_of_due hdue
  rw [he]
  refine ⟨⟨?_, _, _, _, _, rfl⟩, rfl⟩
  simp [toDo, Scheduler.forgetEmpty, hd]

/-! ## The steps -/

/-- What a step of an open service does. -/
inductive OpenStep (env : Collaborators W) (s : Service W) (k : Nat) : Service W → Prop where
  | listens {t : Service W} : (k, .scheduler .listening) ∈ s.activities → Ticked s t →
      OpenStep env s k (t.put k (.scheduler .listening))
  | stops {t : Service W} : (k, .scheduler .listening) ∈ s.activities → Ticked s t →
      OpenStep env s k (t.endScheduler k)
  | trigger {m : TriggerMessage} {stage : TriggerStage} {r : Service W × TriggerProgress} :
      (k, .trigger m stage) ∈ s.activities → s.resumeTrigger env k m stage = some r →
      Comes m stage.left s r →
      OpenStep env s k (follow k (.trigger m) (fun s result => s.answer k (.trigger result)) r)
  | body {id : Identity} {completer : Nat} {connection : Connection} {stage : BodyStage}
      {u : Service W} {r : Service W × BodyProgress} :
      (k, .body id completer connection stage) ∈ s.activities → Marked s u →
      u.resumeBody env id completer connection.session stage = some r →
      OpenStep env s k (follow k (.body id completer connection)
        (fun s result => s.endBody k id result) r)
  | reaper {id job : Identity} {completer : Nat} {outcome : JobOutcome} :
      (k, .reaper id completer) ∈ s.activities →
      s.completers[completer]? = some ⟨job, some outcome⟩ →
      OpenStep env s k ((s.removeJob id outcome).1.finish k)
  | settlement {session due : Nat} {steps : List (LogLine × Event)} :
      (k, .settlement session due steps) ∈ s.activities → due ≤ s.now →
      OpenStep env s k ((settleLater env session s steps).finish k)

/-- A service that begins to end by itself: the hard limit is over, or there is nothing
left to do. -/
structure Closes (s : Service W) (k : Nat) (s' : Service W) : Prop where
  ending : s'.ending = true
  listens : (k, .scheduler .listening) ∈ s.activities
  idle : s.commands = []
  due : s.scheduler.due? s.now = some .service ∨ s.jobs.entries = []

/-- A teardown that begins in an open service ends it. -/
theorem ending_enterTeardown {reason : ShutdownReason} (halive : s.ending = false) :
    (schedulerStep k (afterTeardown reason (s.enterTeardown env k reason))).ending = true := by
  have hu : Unfolds _ reason (s.enterTeardown env k reason) := unfolds_enterTeardown halive
  generalize s.enterTeardown env k reason = r at hu ⊢
  cases hu with
  | waits h => exact h.ending
  | done h h' => exact h'.ending.trans h.ending

section
variable (hr : Reachable env s) (hw : Wanted s) (halive : s.ending = false)
include hr hw halive

omit hw in
/-- The scheduler ticks, or it begins the end. -/
theorem openStep_scheduler {stage : SchedulerStage} {r : Service W × SchedulerProgress}
    (ha : (k, .scheduler stage) ∈ s.activities) (hstep : s.resumeScheduler env k stage = some r) :
    OpenStep env s k (schedulerStep k r) ∨ Closes s k (schedulerStep k r) := by
  have hsteered := steered_reachable hr
  have hopen : s.jobs.closed = false := hsteered.closed.trans halive
  cases schedulerTurn_of_resume hstep with
  | @obeys command rest hc =>
    have ht := ticked_obey hc
    obtain ⟨log, he⟩ := obey_eq (s := { s with commands := rest }) command
    rw [he] at ht ⊢
    by_cases hcancel : command = .cancel
    · rw [if_pos hcancel]
      exact .inl (.stops ha ht)
    · rw [if_neg hcancel]
      exact .inl (.listens ha ht)
  | limit hc hdue =>
    have hs := signals_signalJobs (s := (s.note (.expired .service)).say "scheduler" .info
      ("Service timeout reached with " ++ toString s.jobs.entries.length ++ " active job(s)"))
        hopen
    refine .inr ⟨?_, ha, hc, .inl hdue⟩
    unfold serviceOver
    exact ending_enterTeardown (s := Service.schedule _ _) (hs.ending.trans halive)
  | delay hc hdue =>
    -- the delay closes a set that is empty, and is forgotten over one that is not
    by_cases hidle : s.jobs.entries = []
    · obtain ⟨log, he⟩ := emptyOver_of_idle env k hopen hidle
      rw [he]
      exact .inr ⟨ending_enterTeardown (s := s.idled log) halive, ha, hc, .inr hidle⟩
    · obtain ⟨ht, hwaits⟩ := ticked_lapse env k hdue hidle
      generalize s.emptyOver env k = r at ht hwaits ⊢
      obtain ⟨t, progress⟩ := r
      obtain rfl : progress = .waits .listening := hwaits
      exact .inl (.listens ha ht)
  | tearsDown =>
    -- the end of the service begins before its teardown
    have hending := hsteered.ending_of_mem ha rfl
    rw [halive] at hending
    cases hending

/-- **A step of an open service is one of these, or it begins the end.** -/
theorem openStep_of_ownStep (hreads : ∀ j m stage, (j, .trigger m stage) ∈ s.activities →
    stage.Reads m) (hs : OwnStep env s k s') : OpenStep env s k s' ∨ Closes s k s' := by
  have hsane := sane_reachable hr
  cases hs with
  | scheduler ha hstep => exact openStep_scheduler hr halive ha hstep
  | @trigger m stage r ha hstep =>
    have hopen : s.jobs.closed = false := (steered_reachable hr).closed.trans halive
    have hcomes := comes_resumeTrigger hsane hopen halive (hreads _ _ _ ha) ha hstep
    have hkept : r.1.released = false :=
      (hw.joined (resumeTrigger_turn hsane.ledger (hsane.sound _ _ ha) hstep).1.joined).kept
    have he : ∀ r : Service W × TriggerProgress, r.1.released = false →
        follow k (.trigger m) (fun s result => (s.answer k (.trigger result)).cancelIfUnheld) r =
          follow k (.trigger m) (fun s result => s.answer k (.trigger result)) r := by
      rintro ⟨t, progress⟩ hkept
      cases progress with
      | waits stage => rfl
      | done result => exact cancelIfUnheld_of_kept (s := t.answer k _) hkept
    rw [he r hkept]
    exact .inl (.trigger ha hstep hcomes)
  | enterShutdown ha => exact absurd ha hw.not_mem
  | shutdown ha _ => exact absurd ha hw.not_mem
  | @freshBody id completer connection ha => exact .inl (.body ha (marked_markRunning id) rfl)
  | body ha hstep => exact .inl (.body ha .refl hstep)
  | reaper ha hc => exact .inl (.reaper ha hc)
  | settlement ha hdue => exact .inl (.settlement ha hdue)

end

/-! ## What activities rely on -/

theorem workBlind_history {os : List (Nat × Occurrence)} :
    WorkBlind fun t : Service W => os <+: t.history where
  quiet _ _ _ _ _ h := h
  use _ _ h := h.trans (List.prefix_append _ _)
  note _ h := h.trans (List.prefix_append _ _)
  settlement _ _ _ h := h

/-- What has happened has happened. -/
theorem lasting_history {os : List (Nat × Occurrence)} : Lasting fun t : Service W =>
    os <+: t.history where
  work := workBlind_history.stable
  session := ⟨fun _ _ _ _ _ _ _ h => h, fun h => h, fun _ _ h => h,
    fun _ h => h.trans (List.prefix_append _ _)⟩
  hub _ h := h
  shelf _ h := h
  signal id _ h := workBlind_history.signal id h
  close h := h
  send {s} c h := by
    obtain ⟨_, _, he⟩ := s.send_eq c
    rw [he]
    exact h.trans (List.prefix_append _ _)
  set _ _ _ h := h
  prepare _ h := h
  start _ h := h.trans (List.prefix_append _ _)
  tell _ h := h.trans (List.prefix_append _ _)
  place _ _ h := h
  answered _ _ h := h.trans (List.prefix_append _ _)
  enroll _ _ _ h := (h.trans (List.prefix_append _ _)).trans (List.prefix_append _ _)
  remove _ _ _ _ h := h.trans (List.prefix_append _ _)
  wait _ h := h
  release h := h
  closeInbox h := h

theorem deskStable_history {os : List (Nat × Occurrence)} :
    DeskStable fun t : Service W => os <+: t.history :=
  ⟨fun _ _ h => h, fun _ h => h.trans (List.prefix_append _ _), fun h =>
    h.trans (List.prefix_append _ _)⟩

/-- What has happened stays. -/
theorem history_of_move (hr : Reachable env s) (hm : Move env s s') : s.history <+: s'.history :=
  lasting_history.move (sane_reachable hr).own hm
    (fun _ hs => lasting_history.resumeScheduler deskStable_history hs List.prefix_rfl)
      List.prefix_rfl

/-- What an activity relies on: a body has the completer of its job, and a trigger has read
its message. -/
def Relies (s : Service W) : Activity → Prop
  | .body id c _ _ => s.Owns id c
  | .trigger m stage => stage.Reads m
  | _ => True

/-- An open service in which everybody has what they rely on. -/
structure Equipped (Q : W → Prop) (s : Service W) : Prop where
  wired : Wired Q s
  tied : Tied s
  relies : ∀ j a, (j, a) ∈ s.activities → s.Relies a

/-- Nobody has come to those who were there, but for settlements. -/
def OnlySettles (s t : Service W) : Prop :=
  ∀ j a, (j, a) ∈ t.activities → (j, a) ∈ s.activities ∨
    ∃ session due steps, a = .settlement session due steps

theorem OnlySettles.of_same (h : t.activities = s.activities) : OnlySettles s t :=
  fun _ _ ha => .inl (h ▸ ha)

/-- The work of jobs sets nobody up but settlements. -/
theorem workBlind_onlySettles : WorkBlind fun t : Service W => OnlySettles s t where
  quiet _ _ _ _ _ h := h
  use _ _ h := h
  note _ h := h
  settlement session due steps h j a ha := by
    rcases mem_begin.mp ha with ha | ⟨-, rfl⟩
    · exact h j a ha
    · exact .inr ⟨session, due, steps, rfl⟩

namespace Equipped

variable (h : Equipped Q s)
include h

theorem relies_of_mem (howns : ∀ id c, s.Owns id c → t.Owns id c) {j : Nat} {a : Activity}
    (ha : (j, a) ∈ s.activities) : t.Relies a := by
  have hs := h.relies j a ha
  cases a with
  | body id c => exact howns id c hs
  | trigger => exact hs
  | _ => trivial

theorem put {a : Activity} (howns : ∀ id c, s.Owns id c → t.Owns id c) (hwired : Wired Q t)
    (htied : Tied t) (hmem : OnlySettles s t) (ha : (t.put k a).Relies a) :
    Equipped Q (t.put k a) where
  wired := hwired.quiet rfl rfl rfl rfl
  tied := htied.quiet rfl rfl
  relies j b hb := by
    rcases mem_put hb with ⟨-, rfl⟩ | ⟨hb, -⟩
    · exact ha
    · rcases hmem j b hb with hb | ⟨_, _, _, rfl⟩
      · exact h.relies_of_mem howns hb
      · trivial

theorem finish (howns : ∀ id c, s.Owns id c → t.Owns id c) (hwired : Wired Q t) (htied : Tied t)
    (hmem : OnlySettles s t) : Equipped Q (t.finish k) where
  wired := hwired.quiet rfl rfl rfl rfl
  tied := htied.quiet rfl rfl
  relies j b hb := by
    rcases hmem j b (mem_finish.mp hb).1 with hb | ⟨_, _, _, rfl⟩
    · exact h.relies_of_mem howns hb
    · trivial

omit h in
theorem note (h : Equipped Q s) (o : Occurrence) : Equipped Q (s.note o) :=
  ⟨h.wired.quiet rfl rfl rfl rfl, h.tied.quiet rfl rfl, h.relies⟩

/-- Work has been done, and whoever did it moves on or goes. -/
theorem worked {connection : Connection} {r : Service W × BodyProgress}
    (howns : ∀ j b, s.Owns j b → (follow k (.body id c connection)
      (fun s result => s.endBody k id result) r).Owns j b)
    (hwired : Wired Q r.1) (htied : Tied r.1) (hmem : OnlySettles s r.1) (ho : s.Owns id c) :
    Equipped Q (follow k (.body id c connection) (fun s result => s.endBody k id result) r) := by
  rcases followBody_eq k id c connection r with ⟨stage, -, he⟩ | ⟨-, log, -, he⟩
  · rw [he] at howns ⊢
    exact h.put howns hwired htied hmem (howns id c ho)
  · rw [he] at howns ⊢
    exact h.finish (t := { r.1 with log }) howns (hwired.quiet rfl rfl rfl rfl)
      (htied.quiet rfl rfl) hmem

/-- A trigger has got its job, and whoever handed it in has been told. -/
theorem employed {m : TriggerMessage} {n : Nat} {u : Service W} (hu : Stirred n s u)
    (howns : ∀ id c, s.Owns id c → t.Owns id c) (hwired : Wired Q t) (he : Employs m u id t) :
    Equipped Q (t.finish k) := by
  obtain ⟨trigger, connection, wakes, log, -, -, rfl, rfl⟩ := he
  have htied : Tied u := h.tied.quiet hu.works hu.completers
  refine ⟨hwired.quiet rfl rfl rfl rfl, (htied.prepared trigger).quiet rfl rfl, fun j b hb => ?_⟩
  rcases (mem_enrolled trigger connection).mp (mem_finish.mp hb).1 with hb | hb | hb
  · exact h.relies_of_mem howns (hu.activities ▸ hb)
  · cases hb
    trivial
  · cases hb
    exact ⟨none, List.getElem?_concat_length⟩

variable (hQ : ∀ {w w' : W}, env.Asked w w' → Q w → Q w')
include hQ

/-- **Every step of an open service leaves everybody what they rely on.** -/
theorem openStep (hr : Reachable env s) (halive : s.ending = false)
    (howns : ∀ id c, s.Owns id c → s'.Owns id c) (hs : OpenStep env s k s') : Equipped Q s' := by
  have hopen : s.jobs.closed = false := (steered_reachable hr).closed.trans halive
  cases hs with
  | @listens t ha ht =>
    obtain ⟨-, _, _, _, _, rfl⟩ := ht
    exact h.put howns (h.wired.quiet rfl rfl rfl rfl) (h.tied.quiet rfl rfl) (.of_same rfl) trivial
  | @stops t ha ht =>
    obtain ⟨-, _, _, _, _, rfl⟩ := ht
    exact ⟨h.wired.quiet rfl rfl rfl rfl, h.tied.quiet rfl rfl, fun j b hb =>
      h.relies_of_mem howns (mem_finish.mp hb).1⟩
  | @trigger m stage r ha hstep hcomes =>
    have hwired := h.wired.resumeTrigger hQ hopen hstep
    obtain ⟨t, progress⟩ := r
    have hstirred : ∀ {n}, Stirred n s t → Tied t ∧ OnlySettles s t :=
      fun ht => ⟨h.tied.quiet ht.works ht.completers, .of_same ht.activities⟩
    cases progress with
    | waits stage =>
      obtain ⟨n, ht, hreads, -⟩ := hcomes
      obtain ⟨htied, hmem⟩ := hstirred ht
      exact h.put howns hwired htied hmem hreads
    | done result =>
      cases result with
      | error e =>
        obtain ⟨n, ht, -⟩ := hcomes
        obtain ⟨htied, hmem⟩ := hstirred ht
        exact (h.finish (t := t) howns hwired htied hmem).note _
      | ok id =>
        obtain ⟨n, u, hu, -, he⟩ := hcomes
        exact (h.employed (t := t) hu howns hwired he).note _
  -- the strokes of a body touch nothing that is relied on but the work of its own job
  | @body id c connection stage u r ha hu hstep =>
    have ho : s.Owns id c := h.relies _ _ ha
    obtain ⟨entries, -, rfl⟩ := hu
    have hwired : Wired Q r.1 := (bodyStrokes_wired hQ id c).resumeBody
      (fun _ _ _ h => h.quiet rfl rfl rfl rfl) hstep (h.wired.quiet rfl rfl rfl rfl)
    have htied : Tied r.1 ∧ r.1.Owns id c := (bodyStrokes_tied env id c).resumeBody
      (fun _ _ _ h => ⟨h.1.quiet rfl rfl, h.2⟩) hstep ⟨h.tied.quiet rfl rfl, ho⟩
    have hmem := workBlind_onlySettles.stable.resumeBody hstep (.of_same rfl)
    exact h.worked howns hwired htied.1 hmem ho
  | @reaper id job c outcome ha hc =>
    obtain ⟨jobs, commands, history, log, wakes, he, -, -⟩ := s.removeJob_eq_with id outcome
    rw [he] at howns ⊢
    exact h.finish (t := { s with jobs, commands, history, log, wakes }) howns
      (h.wired.quiet rfl rfl rfl rfl) (h.tied.quiet rfl rfl) (.of_same rfl)
  | @settlement session due steps ha hdue =>
    have hworked : Worked s (settleLater env session s steps) :=
      eventStrokes_worked.settleLater _ _ .refl
    exact h.finish (t := settleLater env session s steps) howns
      (eventStrokes_wired.settleLater _ _ h.wired)
      (eventStrokes_tied.settleLater _ _ h.tied) (.of_same hworked.activities)

end Equipped

/-! ## What the others see -/

/-- Others than one are where they were, at the same time, and the end is no nearer. -/
structure Undisturbed (k : Nat) (s t : Service W) : Prop where
  ending : t.ending = s.ending
  now : t.now = s.now
  stay : ∀ j a, j ≠ k → (j, a) ∈ s.activities → (j, a) ∈ t.activities

namespace Undisturbed

theorem refl : Undisturbed k s s := ⟨rfl, rfl, fun _ _ _ => id⟩

theorem put (h : Undisturbed k s t) (a : Activity) : Undisturbed k s (t.put k a) :=
  ⟨h.ending, h.now, fun j b hj hb => mem_put_of_ne (h.stay j b hj hb) hj⟩

theorem finish (h : Undisturbed k s t) : Undisturbed k s (t.finish k) :=
  ⟨h.ending, h.now, fun j b hj hb => mem_finish.mpr ⟨h.stay j b hj hb, hj⟩⟩

theorem quiet (h : Undisturbed k s t) {u : Service W} (hending : u.ending = t.ending)
    (hnow : u.now = t.now) (hactivities : u.activities = t.activities) : Undisturbed k s u :=
  ⟨hending.trans h.ending, hnow.trans h.now, fun j a hj ha => hactivities ▸ h.stay j a hj ha⟩

theorem worked (h : Undisturbed k s t) {u : Service W} (hw : Worked t u) : Undisturbed k s u := by
  obtain ⟨_, _, _, _, _, _, _, rfl⟩ := hw
  exact h.quiet rfl rfl rfl

end Undisturbed

/-- The work of a job disturbs nobody. -/
theorem workBlind_undisturbed : WorkBlind fun t : Service W => Undisturbed k s t where
  quiet _ _ _ _ _ h := h.quiet rfl rfl rfl
  use _ _ h := h.quiet rfl rfl rfl
  note _ h := h.quiet rfl rfl rfl
  settlement _ _ _ h := ⟨h.ending, h.now, fun j a hj ha => mem_begin.mpr (.inl (h.stay j a hj ha))⟩

theorem Stirred.undisturbed {n : Nat} (h : Stirred n s t) : Undisturbed k s t :=
  Undisturbed.refl.quiet h.ending h.now h.activities

theorem Ticked.undisturbed (h : Ticked s t) : Undisturbed k s t := by
  obtain ⟨-, _, _, _, _, rfl⟩ := h
  exact Undisturbed.refl.quiet rfl rfl rfl

theorem Employs.undisturbed {m : TriggerMessage} (h : Employs m s id t) : Undisturbed k s t := by
  obtain ⟨trigger, connection, wakes, log, -, -, -, rfl⟩ := h
  exact ⟨rfl, rfl, fun j a _ ha => (mem_enrolled trigger connection).mpr (.inl ha)⟩

theorem Undisturbed.trans {u : Service W} (h : Undisturbed k s t) (h' : Undisturbed k t u) :
    Undisturbed k s u :=
  ⟨h'.ending.trans h.ending, h'.now.trans h.now, fun j a hj ha => h'.stay j a hj (h.stay j a hj ha)⟩

/-- **A step disturbs nobody else.** -/
theorem OpenStep.undisturbed (hs : OpenStep env s k s') : Undisturbed k s s' := by
  cases hs with
  | listens ha ht => exact ht.undisturbed.put _
  | stops ha ht => exact ht.undisturbed.finish.quiet rfl rfl rfl
  | @trigger m stage r ha hstep hcomes =>
    obtain ⟨t, progress⟩ := r
    cases progress with
    | waits stage =>
      obtain ⟨n, ht, -⟩ := hcomes
      exact ht.undisturbed.put _
    | done result =>
      have ht : Undisturbed k s t := by
        cases result with
        | error e =>
          obtain ⟨n, ht, -⟩ := hcomes
          exact ht.undisturbed
        | ok id =>
          obtain ⟨n, u, hu, -, he⟩ := hcomes
          exact hu.undisturbed.trans he.undisturbed
      exact ht.finish.quiet rfl rfl rfl
  | @body id c connection stage u r ha hu hstep =>
    obtain ⟨entries, -, rfl⟩ := hu
    have ht : Undisturbed k s r.1 := workBlind_undisturbed.stable.resumeBody hstep
      (Undisturbed.refl.quiet rfl rfl rfl)
    rcases followBody_eq k id c connection r with ⟨stage, -, he⟩ | ⟨-, log, -, he⟩
    · rw [he]
      exact ht.put _
    · rw [he]
      exact Undisturbed.finish (ht.quiet rfl rfl rfl)
  | @reaper id job c outcome ha hc =>
    obtain ⟨jobs, commands, history, log, wakes, he, -, -⟩ := s.removeJob_eq_with id outcome
    rw [he]
    exact Undisturbed.finish (t := { s with jobs, commands, history, log, wakes })
      (Undisturbed.refl.quiet rfl rfl rfl)
  | @settlement session due steps ha hdue =>
    exact (Undisturbed.refl.worked (eventStrokes_worked.settleLater _ _ .refl)).finish

/-- **A member stays, unless its reaper takes it out.** -/
theorem OpenStep.member (hs : OpenStep env s k s') (hid : id ∈ s.jobs.ids) : id ∈ s'.jobs.ids ∨
    ∃ c job o, (k, .reaper id c) ∈ s.activities ∧ s.completers[c]? = some ⟨job, some o⟩ ∧
      s' = (s.removeJob id o).1.finish k := by
  cases hs with
  | @listens t ha ht =>
    obtain ⟨-, _, _, _, _, rfl⟩ := ht
    exact .inl hid
  | @stops t ha ht =>
    obtain ⟨-, _, _, _, _, rfl⟩ := ht
    exact .inl hid
  | @trigger m stage r ha hstep hcomes =>
    obtain ⟨t, progress⟩ := r
    have hstirred : ∀ {n} {t : Service W}, Stirred n s t → id ∈ t.jobs.ids :=
      fun ht => by rwa [ht.jobs]
    cases progress with
    | waits stage =>
      obtain ⟨n, ht, -⟩ := hcomes
      exact .inl (hstirred (t := t) ht)
    | done result =>
      cases result with
      | error e =>
        obtain ⟨n, ht, -⟩ := hcomes
        exact .inl (hstirred (t := t) ht)
      | ok job =>
        obtain ⟨n, u, hu, -, trigger, connection, wakes, log, -, -, -, rfl⟩ := hcomes
        refine .inl ?_
        show id ∈ (u.jobs.entries ++ [_]).map JobEntry.id
        rw [List.map_append]
        exact List.mem_append_left _ (hstirred hu)
  | @body job c connection stage u r ha hu hstep =>
    obtain ⟨entries, hids, rfl⟩ := hu
    have hjobs : r.1.jobs = { s.jobs with entries } := workBlind_jobs.stable.resumeBody hstep rfl
    have hmem : id ∈ r.1.jobs.ids := by
      rw [hjobs, JobSet.ids, hids]
      exact hid
    rcases followBody_eq k job c connection r with ⟨stage, -, he⟩ | ⟨-, log, -, he⟩
    · rw [he]
      exact .inl hmem
    · rw [he]
      exact .inl hmem
  -- a reaper takes out the job that it was given, and no other
  | @reaper id' job c outcome ha hc =>
    by_cases hne : id = id'
    · subst hne
      exact .inr ⟨c, job, outcome, ha, hc, rfl⟩
    · obtain ⟨jobs, commands, history, log, wakes, he, -, hids⟩ := s.removeJob_eq_with id' outcome
      rw [he]
      refine .inl ?_
      show id ∈ jobs.ids
      rw [hids]
      exact (List.mem_erase_of_ne hne).mpr hid
  | @settlement session due steps ha hdue =>
    have hworked : Worked s (settleLater env session s steps) :=
      eventStrokes_worked.settleLater session steps .refl
    obtain ⟨_, _, _, _, _, _, _, he⟩ := hworked
    rw [he]
    exact .inl hid

/-! ## Open runs -/

/-- Every trigger on its way reads what its message says. -/
theorem Equipped.reads (h : Equipped Q s) (j : Nat) (m : TriggerMessage) (stage : TriggerStage)
    (ha : (j, .trigger m stage) ∈ s.activities) : stage.Reads m :=
  h.relies j _ ha

section
variable (hQ : ∀ {w w' : W}, env.Asked w w' → Q w → Q w')
include hQ

/-- **What is ahead of a service that stays open leaves everybody what they rely on.** -/
theorem Equipped.ahead (h : Equipped Q s) (hr : Reachable env s) (hw : Wanted s)
    (ha : Ahead env s s') (halive : s'.ending = false) : Equipped Q s' := by
  have hbefore : s.ending = false := open_of_later hr (.move .refl ha.move) halive
  cases ha with
  | wait t => exact ⟨h.wired.quiet rfl rfl rfl rfl, h.tied.quiet rfl rfl, h.relies⟩
  | act hs =>
    rcases openStep_of_ownStep hr hw hbefore h.reads
      (ownStep_of_step (sane_reachable hr).own hs) with
      hopen | hcloses
    · exact h.openStep hQ hr hbefore (fun _ _ ho => ho.move hr (.act hs)) hopen
    · rw [hcloses.ending] at halive
      cases halive

/-- Throughout a punctual run an open service is equipped. -/
theorem Punctual.equipped {ms : List (Nat × TriggerMessage)} (hr : Reachable env s) (hw : Wanted s)
    (h : Equipped Q s) (hp : Punctual env s ms s') (halive : s'.ending = false) :
    Equipped Q s' := by
  induction hp with
  | refl => exact h
  | @ahead ms s₁ s₂ hp ha ih =>
    have hr₁ := hr.later hp.later
    exact (ih (open_of_later hr₁ (.move .refl ha.move) halive)).ahead hQ hr₁ (hp.wanted hr hw)
      ha halive
  | @trigger ms s₁ m hp hkept ih =>
    obtain ⟨hwired, htied, hrelies⟩ := ih halive
    refine ⟨hwired.quiet rfl rfl rfl rfl, htied.quiet rfl rfl, fun j a ha => ?_⟩
    rcases mem_begin.mp ha with ha | ⟨-, rfl⟩
    · exact hrelies j a ha
    · trivial
  | @report ms s₁ session e hp ih =>
    have hr₁ := hr.later hp.later
    have hworked : Worked s₁ (s₁.emit env session e) := eventStrokes_worked.emit session e .refl
    have h₁ := ih (open_of_later hr₁ (.move .refl (.report session e)) halive)
    exact ⟨eventStrokes_wired.emit session e h₁.wired, eventStrokes_tied.emit session e h₁.tied,
      fun j a ha => h₁.relies_of_mem (fun _ _ ho => ho.move hr₁ (.report session e))
        (hworked.activities ▸ ha)⟩
  | @rouse ms s₁ wakes hp ih =>
    obtain ⟨hwired, htied, hrelies⟩ := ih halive
    exact ⟨hwired.quiet rfl rfl rfl rfl, htied.quiet rfl rfl, hrelies⟩

end

end PushWake.Service
