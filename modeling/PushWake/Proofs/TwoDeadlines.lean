import PushWake.Proofs.OneEnd

/-!
# The two deadlines

The scheduler keeps two deadlines and publishes them. What they should be can be read off what it
has dealt with so far: the hard limit is counted from the last time that it was started over, and
the delay from the last time that it was started, unless something has called it off since. `Tended`
are the services whose scheduler has been listening all along while anything at all went on beside
it: commands came in any order and at any time, and jobs came and went. For these the scheduler
holds and publishes what the reference says; and since every reachable service whose scheduler
listens is one of them, this is true of every run.
-/

namespace PushWake

/-! ## The reference -/

/-- What the scheduler has dealt with, with the times, in its order. -/
def clockwork (os : List (Nat × Occurrence)) : List (Nat × Occurrence) :=
  os.filter fun o => o.2.isClockwork

/-- When the hard limit was last started over. -/
def limitStart (os : List (Nat × Occurrence)) : Option Nat :=
  os.reverse.findSome? fun o =>
    match o.2 with
    | .obeyed .reset => some o.1
    | _ => none

/-- When the delay was last started, if nothing has called it off since: the hard limit has not
started over, and the delay has not run out. -/
def delayStart (os : List (Nat × Occurrence)) : Option Nat :=
  Option.join (os.reverse.findSome? fun o =>
    match o.2 with
    | .obeyed .armEmptyDelay => some (some o.1)
    | .obeyed .reset => some none
    | .expired .empty => some none
    | _ => none)

/-- The deadlines that a scheduler should hold after what it has dealt with, and what it should
publish. Nothing counts until the hard limit has been started. -/
def Scheduler.reference (t : Timeouts) (os : List (Nat × Occurrence)) : Scheduler :=
  match limitStart os with
  | none => {}
  | some start =>
    let service := start + t.serviceMs.toNat
    let empty := (delayStart os).map (· + t.emptyDelayMs.toNat)
    { service := some service, empty, state := .armed service empty }

section
variable {os os' : List (Nat × Occurrence)} {now : Nat} {t : Timeouts}

@[simp] theorem clockwork_append : clockwork (os ++ os') = clockwork os ++ clockwork os' :=
  List.filter_append ..

theorem clockwork_eq_nil (h : ∀ o ∈ os, o.2.isClockwork = false) : clockwork os = [] :=
  List.filter_eq_nil_iff.mpr fun o ho => by rw [h o ho]; exact Bool.false_ne_true

theorem Scheduler.reference_reset : reference t (os ++ [(now, .obeyed .reset)]) =
    { service := some (now + t.serviceMs.toNat), empty := none,
      state := .armed (now + t.serviceMs.toNat) none } := by
  simp [reference, limitStart, delayStart]

/-- Each command does to the deadlines what the reference makes of it. -/
theorem Scheduler.reference_obey {c : SchedulerCommand} (hc : c ≠ .cancel) :
    (reference t os).obey t now c = reference t (os ++ [(now, .obeyed c)]) := by
  cases c with
  | reset => rw [reference_reset]; rfl
  | cancel => exact absurd rfl hc
  | armEmptyDelay =>
    have hlimit : limitStart (os ++ [(now, .obeyed .armEmptyDelay)]) = limitStart os := by
      simp [limitStart]
    have hdelay : delayStart (os ++ [(now, .obeyed .armEmptyDelay)]) = some now := by
      simp [delayStart]
    unfold reference
    rw [hlimit, hdelay]
    cases limitStart os with
    | none => rfl
    | some start => rfl

/-- A delay that has run out for nothing is forgotten. -/
theorem Scheduler.reference_forget :
    (reference t os).forgetEmpty.publish = reference t (os ++ [(now, .expired .empty)]) := by
  have hlimit : limitStart (os ++ [(now, .expired .empty)]) = limitStart os := by
    simp [limitStart]
  have hdelay : delayStart (os ++ [(now, .expired .empty)]) = none := by
    simp [delayStart]
  unfold reference
  rw [hlimit, hdelay]
  cases limitStart os with
  | none => rfl
  | some start => rfl

end

namespace Scheduler

variable {s : Scheduler} {now d : Nat}

theorem due_service (hd : s.service = some d) (h : d ≤ now) : s.due? now = some .service := by
  simp [due?, isReached, hd, h]

theorem not_isReached {deadline : Option Nat} (h : ∀ d, deadline = some d → now < d) :
    isReached now deadline = false := by
  cases deadline with
  | none => rfl
  | some d => simpa [isReached] using h d rfl

theorem due_empty (hlimit : ∀ d, s.service = some d → now < d) (hd : s.empty = some d)
    (h : d ≤ now) :
    s.due? now = some .empty := by
  have hreached : isReached now s.empty = true := by simp [isReached, hd, h]
  simp [due?, not_isReached hlimit, hreached]

theorem due_none (hlimit : ∀ d, s.service = some d → now < d)
    (hdelay : ∀ d, s.empty = some d → now < d) : s.due? now = none := by
  simp [due?, not_isReached hlimit, not_isReached hdelay]

end Scheduler

namespace Service

variable {W : Type} {env : Collaborators W} {s s' t u v : Service W} {k : Nat}
  {reason : ShutdownReason}

/-! ## A scheduler among others -/

/-- What may happen beside a scheduler. Only its own part is left alone: its deadlines, what it has
dealt with, and the order of the commands that wait for it. -/
structure Beside (s t : Service W) : Prop where
  config : t.config = s.config
  now : s.now ≤ t.now
  scheduler : t.scheduler = s.scheduler
  commands : s.commands <+: t.commands
  clockwork : clockwork t.history = clockwork s.history

/-- The services whose scheduler has been listening all along, whatever went on beside it. -/
inductive Tended (env : Collaborators W) : Service W → Prop where
  | start (config : ServiceConfig) (makesPlugins : Bool) (world : W) :
      Tended env (initial config makesPlugins world)
  | beside {s t : Service W} : Tended env s → Beside s t → Tended env t
  | turn {s t : Service W} {k : Nat} : Tended env s →
      s.resumeScheduler env k .listening = some (t, .waits .listening) → Tended env t

namespace Beside

theorem trans (h : Beside s t) (h' : Beside t u) : Beside s u where
  config := h'.config.trans h.config
  now := Nat.le_trans h.now h'.now
  scheduler := h'.scheduler.trans h.scheduler
  commands := h.commands.trans h'.commands
  clockwork := h'.clockwork.trans h.clockwork

/-- The scheduler has dealt with nothing of what has happened. -/
theorem of_history (os : List (Nat × Occurrence)) (hconfig : t.config = s.config)
    (hnow : s.now ≤ t.now) (hscheduler : t.scheduler = s.scheduler)
    (hcommands : s.commands <+: t.commands) (hos : t.history = s.history ++ os)
    (hno : ∀ o ∈ os, o.2.isClockwork = false) : Beside s t :=
  ⟨hconfig, hnow, hscheduler, hcommands,
    by rw [hos, clockwork_append, clockwork_eq_nil hno, List.append_nil]⟩

theorem put {a : Activity} : Beside s (s.put k a) :=
  ⟨rfl, Nat.le_refl _, rfl, List.prefix_rfl, rfl⟩

theorem told {reason : ShutdownReason} : Beside s (s.told reason) :=
  of_history [(s.now, .hostShutdown reason)] rfl (Nat.le_refl _) rfl List.prefix_rfl rfl
    fun o ho => by rw [List.mem_singleton.mp ho]; rfl

end Beside

/-- What is aside from the end is beside a scheduler that still reads its commands. -/
theorem Aside.beside (h : Aside s t) (hopen : t.inboxOpen = true) : Beside s t := by
  obtain ⟨os, hos, hno⟩ := h.history
  refine .of_history os h.config h.now h.scheduler (h.inbox hopen).2 hos fun o ho => ?_
  have hsteering := hno o ho
  generalize o.2 = o at hsteering
  cases o <;> first | rfl | cases hsteering

/-- So is a host that is told. -/
theorem Aside.beside_told (h : Aside s t) (h' : Aside (t.told reason) u)
    (hopen : u.inboxOpen = true) :
    Beside s u :=
  (h.beside (h'.inbox hopen).1).trans (Beside.told.trans (h'.beside hopen))

/-- A host that ends the service does so beside its scheduler. -/
theorem Begins.beside (h : Begins s .requested u) : Beside s u := by
  cases h with
  | host halive hopen =>
    have hs := signals_signalJobs hopen
    obtain ⟨os, hos, -, hall⟩ := hs.history
    have hos : s.signalJobs.1.history = s.history ++ os := hos
    have hnow : s.signalJobs.1.now = s.now := hs.now
    have hcommands : s.signalJobs.1.commands = s.commands := hs.commands
    obtain ⟨wakes, log, he⟩ := s.signalJobs.1.send_eq .cancel
    rw [he]
    refine .of_history (os ++ [(s.now, .command .cancel), (s.now, .teardownStarted .requested)])
      hs.config (Nat.le_of_eq hnow.symm) hs.scheduler ?_ ?_ ?_
    · show s.commands <+: if s.signalJobs.1.inboxOpen then s.signalJobs.1.commands ++ [.cancel]
        else s.signalJobs.1.commands
      rw [hcommands]
      split
      · exact List.prefix_append _ _
      · exact List.prefix_rfl
    · simp [note, hos, hnow]
    · intro o ho
      rcases List.mem_append.mp ho with ho | ho
      · have hreaction := hall o ho
        generalize o.2 = o at hreaction
        cases o <;> first | rfl | cases hreaction
      · simp only [List.mem_cons, List.not_mem_nil, or_false] at ho
        rcases ho with rfl | rfl <;> rfl

/-! ## Turns -/

/-- The scheduler that starts to take a service down listens no more. -/
theorem afterTeardown_leaves {r : Service W × TeardownProgress} :
    (afterTeardown reason r).2 ≠ .waits .listening := by
  obtain ⟨t, progress⟩ := r
  cases progress with
  | waits stage => nofun
  | done => nofun

/-- What is published and the set stay as they are while a service is taken down. -/
theorem afterTeardown_enterTeardown :
    (afterTeardown reason (s.enterTeardown env k reason)).1.scheduler = s.scheduler ∧
      (afterTeardown reason (s.enterTeardown env k reason)).1.jobs.closed = s.jobs.closed := by
  rw [Steady.afterTeardown_fst]
  cases halive : s.ending with
  | true =>
    simp only [enterTeardown, halive, if_true]
    exact ⟨rfl, rfl⟩
  | false =>
    have hr : Unfolds _ reason (s.enterTeardown env k reason) := unfolds_enterTeardown halive
    generalize s.enterTeardown env k reason = r at hr ⊢
    cases hr with
    | waits h => exact ⟨h.scheduler, h.closed⟩
    | done h h' => exact ⟨h'.scheduler.trans h.scheduler, h'.closed.trans h.closed⟩

/-- A scheduler that goes on listening has dealt with a command, or its delay is over
for nothing. -/
theorem listening_cases (hr : s.resumeScheduler env k .listening = some (t, .waits .listening)) :
    (∃ c rest log, s.commands = c :: rest ∧ c ≠ .cancel ∧ t =
      { s with
        commands := rest
        scheduler := s.scheduler.obey s.config.timeouts s.now c
        history := s.history ++ [(s.now, .obeyed c)]
        log }) ∨
    (s.commands = [] ∧ s.scheduler.due? s.now = some .empty ∧ ∃ log, t =
      { s with
        scheduler := s.scheduler.forgetEmpty.publish
        history := s.history ++ [(s.now, .expired .empty)]
        log }) := by
  have hturn := schedulerTurn_of_resume hr
  generalize hp : (t, Progress.waits SchedulerStage.listening) = r at hturn
  cases hturn with
  | @obeys command rest hc =>
    obtain ⟨log, he⟩ := obey_eq (s := { s with commands := rest }) command
    rw [he, Prod.mk.injEq] at hp
    obtain ⟨rfl, hprogress⟩ := hp
    refine .inl ⟨command, rest, log, hc, ?_, rfl⟩
    rintro rfl
    cases hprogress
  | limit =>
    -- the hard limit takes the service down, and whoever does that listens no more
    have hleaves : (s.serviceOver env k).2 ≠ .waits .listening := afterTeardown_leaves
    rw [← hp] at hleaves
    exact absurd rfl hleaves
  | delay hc hdue =>
    by_cases hbusy : s.jobs.closed = false ∧ s.jobs.entries = []
    · obtain ⟨log, he⟩ := emptyOver_of_idle env k hbusy.1 hbusy.2
      have hleaves : (s.emptyOver env k).2 ≠ .waits .listening := he ▸ afterTeardown_leaves
      rw [← hp] at hleaves
      exact absurd rfl hleaves
    · obtain ⟨log, he⟩ := emptyOver_of_busy env k hbusy
      rw [he, Prod.mk.injEq] at hp
      exact .inr ⟨hc, hdue, log, hp.1⟩

/-- What a listening scheduler does in its turn. Commands come before deadlines, and the hard limit
before the delay; only the last command, the hard limit, and a delay that closes an empty open set
end it, and a scheduler that has begun to take the service down listens no more. -/
structure Turns (env : Collaborators W) (k : Nat) (s : Service W) : Prop where
  command : ∀ c rest, s.commands = c :: rest → ∃ t,
    s.resumeScheduler env k .listening =
      some (t, if c = .cancel then .done () else .waits .listening) ∧
    t.commands = rest ∧ t.jobs = s.jobs ∧ t.history = s.history ++ [(s.now, .obeyed c)] ∧
    t.scheduler = s.scheduler.obey s.config.timeouts s.now c
  limit : s.commands = [] → ∀ d, s.scheduler.service = some d → d ≤ s.now → ∃ t progress,
    s.resumeScheduler env k .listening = some (t, progress) ∧ progress ≠ .waits .listening ∧
    t.scheduler.state = .fired .serviceTimeout
  idle : s.commands = [] → (∀ d, s.scheduler.service = some d → s.now < d) →
    ∀ d, s.scheduler.empty = some d → d ≤ s.now → s.jobs.closed = false → s.jobs.entries = [] →
    ∃ t progress, s.resumeScheduler env k .listening = some (t, progress) ∧
      progress ≠ .waits .listening ∧ t.jobs.closed = true ∧
      t.scheduler.state = .fired .emptyDelay
  busy : s.commands = [] → (∀ d, s.scheduler.service = some d → s.now < d) →
    ∀ d, s.scheduler.empty = some d → d ≤ s.now →
    ¬(s.jobs.closed = false ∧ s.jobs.entries = []) → ∃ t,
      s.resumeScheduler env k .listening = some (t, .waits .listening) ∧ t.commands = [] ∧
      t.jobs = s.jobs ∧ t.history = s.history ++ [(s.now, .expired .empty)] ∧
      t.scheduler = s.scheduler.forgetEmpty.publish
  waits : s.commands = [] → (∀ d, s.scheduler.service = some d → s.now < d) →
    (∀ d, s.scheduler.empty = some d → s.now < d) → s.resumeScheduler env k .listening = none
  leaves : ∀ reason stage t progress,
    s.resumeScheduler env k (.tearingDown reason stage) = some (t, progress) →
    progress ≠ .waits .listening

theorem turns (s : Service W) : Turns env k s where
  command c rest hc := by
    obtain ⟨log, he⟩ := obey_eq (s := { s with commands := rest }) c
    have hr : s.resumeScheduler env k .listening = some (obey { s with commands := rest } c) := by
      simp only [resumeScheduler, hc]
    exact ⟨_, hr.trans (congrArg some he), rfl, rfl, rfl, rfl⟩
  limit hc d hd hreached := by
    have hdue : s.scheduler.due? s.now = some .service :=
      Scheduler.due_service hd hreached
    refine ⟨(s.serviceOver env k).1, (s.serviceOver env k).2, ?_, afterTeardown_leaves, ?_⟩
    · simp only [resumeScheduler, hc, hdue]
    · rw [serviceOver, afterTeardown_enterTeardown.1]
      rfl
  idle hc hlimit d hd hreached hopen hempty := by
    have hdue : s.scheduler.due? s.now = some .empty := Scheduler.due_empty hlimit hd hreached
    obtain ⟨log, he⟩ := emptyOver_of_idle env k hopen hempty
    refine ⟨(s.emptyOver env k).1, (s.emptyOver env k).2, ?_, he ▸ afterTeardown_leaves, ?_, ?_⟩
    · simp only [resumeScheduler, hc, hdue]
    · rw [he, afterTeardown_enterTeardown.2]
      rfl
    · rw [he, afterTeardown_enterTeardown.1]
      rfl
  busy hc hlimit d hd hreached hbusy := by
    have hdue : s.scheduler.due? s.now = some .empty := Scheduler.due_empty hlimit hd hreached
    obtain ⟨log, he⟩ := emptyOver_of_busy env k hbusy
    have hr : s.resumeScheduler env k .listening = some (s.emptyOver env k) := by
      simp only [resumeScheduler, hc, hdue]
    exact ⟨_, hr.trans (congrArg some he), hc, rfl, rfl, rfl⟩
  waits hc hlimit hdelay := by
    simp only [resumeScheduler, hc, Scheduler.due_none hlimit hdelay]
  leaves reason stage t progress hr := by
    obtain ⟨p, -, he⟩ := Option.map_eq_some_iff.mp hr
    have hleaves : (afterTeardown reason p).2 ≠ .waits .listening := afterTeardown_leaves
    rwa [he] at hleaves

/-! ## The reference is kept -/

/-- A scheduler that has been listening all along holds and publishes what the reference says. -/
theorem Tended.reference (h : Tended env s) :
    s.scheduler = Scheduler.reference s.config.timeouts (clockwork s.history) := by
  induction h with
  | start => rfl
  | beside _ hb ih => rw [hb.scheduler, hb.config, hb.clockwork, ih]
  | @turn s t k _ hr ih =>
    rcases listening_cases hr with ⟨c, rest, log, -, hc, rfl⟩ | ⟨-, -, log, rfl⟩
    · show s.scheduler.obey s.config.timeouts s.now c =
        .reference s.config.timeouts (clockwork (s.history ++ [(s.now, .obeyed c)]))
      rw [clockwork_append, ih]
      exact Scheduler.reference_obey hc
    · show s.scheduler.forgetEmpty.publish =
        .reference s.config.timeouts (clockwork (s.history ++ [(s.now, .expired .empty)]))
      rw [clockwork_append, ih]
      exact Scheduler.reference_forget

/-- How far apart the deadlines are. -/
structure Spaced (s : Service W) : Prop where
  service : ∀ d, s.scheduler.service = some d → d ≤ s.now + s.config.timeouts.serviceMs.toNat
  empty : ∀ e, s.scheduler.empty = some e → ∃ d, s.scheduler.service = some d ∧
    d + s.config.timeouts.emptyDelayMs.toNat ≤ e + s.config.timeouts.serviceMs.toNat

/-- The delay is started after the hard limit. -/
theorem Tended.spaced (h : Tended env s) : Spaced s := by
  induction h with
  | start => exact ⟨nofun, nofun⟩
  | @beside s t _ hb ih =>
    refine ⟨fun d hd => ?_, fun e he => ?_⟩
    · rw [hb.scheduler] at hd
      have hlimit := ih.service d hd
      have hnow := hb.now
      rw [hb.config]
      omega
    · rw [hb.scheduler] at he ⊢
      rw [hb.config]
      exact ih.empty e he
  | @turn s t k _ hr ih =>
    rcases listening_cases hr with ⟨c, rest, log, -, hc, rfl⟩ | ⟨-, -, log, rfl⟩
    · cases c with
      | reset =>
        refine ⟨fun d hd => ?_, fun e he => ?_⟩
        · cases hd
          exact Nat.le_refl _
        · cases he
      | cancel => exact absurd rfl hc
      | armEmptyDelay =>
        cases hs : s.scheduler.service with
        | none =>
          have hsame : s.scheduler.obey s.config.timeouts s.now .armEmptyDelay = s.scheduler := by
            simp [Scheduler.obey, Scheduler.arm, hs]
          refine ⟨fun d hd => ?_, fun e he => ?_⟩
          · exact ih.service d (hsame ▸ hd)
          · obtain ⟨d, hd, -⟩ := ih.empty e (hsame ▸ he)
            rw [hs] at hd
            cases hd
        | some limit =>
          have harm : s.scheduler.obey s.config.timeouts s.now .armEmptyDelay =
              Scheduler.publish { s.scheduler with
                empty := some (s.now + s.config.timeouts.emptyDelayMs.toNat) } := by
            simp [Scheduler.obey, Scheduler.arm, hs]
          have hlimit := ih.service limit hs
          refine ⟨fun d hd => ?_, fun e he => ?_⟩
          · simp only [harm, Scheduler.publish_service] at hd
            exact ih.service d hd
          · simp only [harm, Scheduler.publish_empty, Option.some.injEq] at he
            subst he
            -- the limit is no further away than its whole length, and the delay is just started
            refine ⟨limit, by simp [harm, hs], ?_⟩
            show limit + s.config.timeouts.emptyDelayMs.toNat ≤
              s.now + s.config.timeouts.emptyDelayMs.toNat + s.config.timeouts.serviceMs.toNat
            omega
    · refine ⟨fun d hd => ?_, fun e he => ?_⟩
      · simp only [Scheduler.publish_service] at hd
        exact ih.service d hd
      · simp [Scheduler.forgetEmpty] at he

/-- A delay that is no shorter than the hard limit is never what is due. -/
theorem Tended.patient (h : Tended env s)
    (hlong : s.config.timeouts.serviceMs.toNat ≤ s.config.timeouts.emptyDelayMs.toNat) :
    s.scheduler.due? s.now ≠ some .empty := by
  intro hdue
  obtain ⟨e, he, hreached⟩ := Scheduler.reached_of_due hdue
  -- by then the hard limit has been reached too, and it comes first
  obtain ⟨d, hd, hspace⟩ := h.spaced.empty e he
  rw [Scheduler.due_service hd (by omega)] at hdue
  cases hdue

/-! ## Every run -/

/-- A move leaves the reference with a scheduler that still listens. -/
theorem Tended.course (h : s.Listens → Tended env s) (hclocked : Clocked s')
    (hc : Course env s s') (hl : s'.Listens) : Tended env s' := by
  have hopen := inboxOpen_of_listens hclocked hl
  cases hc with
  | aside ha hp => exact .beside (h (hp.listens.mp hl)) (ha.beside hopen)
  | @obeyed c rest hlistens hcommands he _ hcancel =>
    obtain ⟨log, ho⟩ := obey_eq (s := { s with commands := rest }) c
    have hr : s.resumeScheduler env 0 .listening = some (obey { s with commands := rest } c) := by
      simp only [resumeScheduler, hcommands]
    rw [ho, if_neg (hcancel hl)] at he hr
    rw [he]
    exact .beside (.turn (h hlistens) hr) .put
  | lapsed hlistens hcommands hdue hbusy he _ =>
    obtain ⟨log, ho⟩ := emptyOver_of_busy env 0 hbusy
    have hr : s.resumeScheduler env 0 .listening = some (s.emptyOver env 0) := by
      simp only [resumeScheduler, hcommands, hdue]
    rw [ho] at he hr
    rw [he]
    exact .beside (.turn (h hlistens) hr) .put
  | begun hb ha _ hhost =>
    obtain ⟨rfl, hlistens⟩ := hhost hl
    exact .beside (h hlistens) (hb.beside.trans (ha.beside hopen))
  | atOnce hb ha ha' _ hhost =>
    obtain ⟨rfl, hlistens⟩ := hhost hl
    exact .beside (h hlistens) (hb.beside.trans (ha.beside_told ha'.toAside hopen))
  | concluded ha ha' _ hlistens => exact .beside (h (hlistens hl)) (ha.beside_told ha' hopen)

theorem Course.config (hc : Course env s s') : s'.config = s.config := by
  cases hc with
  | aside ha => exact ha.config
  | @obeyed c rest _ _ he =>
    obtain ⟨log, ho⟩ := obey_eq (s := { s with commands := rest }) c
    rw [he, ho]
    split <;> rfl
  | lapsed _ _ _ hbusy he =>
    obtain ⟨log, ho⟩ := emptyOver_of_busy env 0 hbusy
    rw [he, ho]
    rfl
  | begun hb ha => exact ha.config.trans hb.onset.config
  | atOnce hb ha ha' => exact ha'.config.trans (ha.config.trans hb.onset.config)
  | concluded ha ha' => exact ha'.config.trans ha.config

/-- Between any two moves, the scheduler has kept to the reference for as long as it listens. -/
theorem tended_of_listens (h : Reachable env s) : s.Listens → Tended env s := by
  induction h with
  | @start config makesPlugins world _ hs =>
    obtain ⟨message, rfl⟩ := start_eq hs
    exact fun _ => .beside (.start config makesPlugins world)
      ⟨rfl, Nat.le_refl _, rfl, List.prefix_rfl, rfl⟩
  | move hr hm ih =>
    exact Tended.course ih (clocked_reachable (.move hr hm)) (hr.course hm)

/-- Where the delay is no shorter than the hard limit, no service ends for having nothing to do. -/
theorem never_idle (h : Reachable env s)
    (hlong : s.config.timeouts.serviceMs.toNat ≤ s.config.timeouts.emptyDelayMs.toNat) :
    .emptyDelay ∉ reasonsBegun s.record := by
  induction h with
  | start hs =>
    obtain ⟨message, rfl⟩ := start_eq hs
    exact List.not_mem_nil
  | @move s s' hr hm ih =>
    have hc : Course env s s' := hr.course hm
    rw [hc.config] at hlong
    obtain ⟨os, hno, ⟨he, -⟩ | ⟨reason, u, hb, he, -⟩⟩ := hc.record
    · rw [he, reasonsBegun_append, reasonsBegun_eq_nil hno, List.append_nil]
      exact ih hlong
    · rw [he, reasonsBegun_append, reasonsBegun_eq_nil hno, List.append_nil, hb.onset.reasons.1]
      intro hmem
      rcases List.mem_append.mp hmem with hmem | hmem
      · exact ih hlong hmem
      · cases List.mem_singleton.mp hmem
        cases hb with
        | idle _ _ _ _ hl _ hdue => exact (tended_of_listens hr hl).patient hlong hdue

/-- The turns of a scheduler that listens are the steps of its activity. -/
theorem step_of_listens (hn : s.scene.Numbered) (hclocked : Clocked s) (hl : s.Listens) :
    s.step env 0 = (s.resumeScheduler env 0 .listening).map (schedulerStep 0) := by
  obtain ⟨k, a, ha, hlistens⟩ := mem_gathered.mp hl
  obtain rfl : k = 0 := (hclocked k a ha (isScheduler_of_listens? hlistens)).1
  have hstage : a = .scheduler .listening := by
    cases a with
    | scheduler stage =>
      cases stage with
      | listening => rfl
      | tearingDown => cases hlistens
    | _ => cases hlistens
  have hactivity : s.activity? 0 = some (.scheduler .listening) := activity?_of_mem hn (hstage ▸ ha)
  rw [step, hactivity]
  rfl

/-- **The scheduler keeps to two deadlines.** Whatever goes on beside a scheduler that has been
listening all along, whichever commands it has dealt with and whenever, it holds and publishes what
the reference says: it is idle, and a delay is not started, before the hard limit has been started,
and from then on the hard limit is counted from its last start and the delay from its own, unless
that has been called off. It ends with the last command, with the hard limit, or with a delay that
closes an empty open set, looking at its commands first and at the hard limit next. In every run it
takes its turns like that for as long as it listens, and a service whose delay is no shorter than
its hard limit never ends for having nothing to do. -/
theorem scheduler_keeps_two_deadlines (s : Service W) :
    (Tended env s →
      s.scheduler = Scheduler.reference s.config.timeouts (clockwork s.history) ∧
      (limitStart (clockwork s.history) = none → s.scheduler.state = .idle ∧
        ∀ now, s.scheduler.obey s.config.timeouts now .armEmptyDelay = s.scheduler) ∧
      ∀ start, limitStart (clockwork s.history) = some start →
        s.scheduler.state = .armed (start + s.config.timeouts.serviceMs.toNat)
          ((delayStart (clockwork s.history)).map (· + s.config.timeouts.emptyDelayMs.toNat))) ∧
    (∀ k, Turns env k s) ∧
    (Reachable env s →
      (s.Listens → Tended env s ∧
        s.step env 0 = (s.resumeScheduler env 0 .listening).map (schedulerStep 0)) ∧
      (s.config.timeouts.serviceMs.toNat ≤ s.config.timeouts.emptyDelayMs.toNat →
        .teardownStarted .emptyDelay ∉ s.record ∧ .hostShutdown .emptyDelay ∉ s.record ∧
        s.terminated ≠ some .emptyDelay ∧ s.scheduler.state ≠ .fired .emptyDelay)) := by
  refine ⟨fun ht => ?_, fun k => turns s, fun hr => ⟨fun hl => ?_, fun hlong => ?_⟩⟩
  · have href := ht.reference
    refine ⟨href, fun hnone => ?_, fun start hstart => ?_⟩
    · rw [Scheduler.reference, hnone] at href
      rw [href]
      exact ⟨rfl, fun _ => rfl⟩
    · rw [Scheduler.reference, hstart] at href
      rw [href]
  · exact ⟨tended_of_listens hr hl,
      step_of_listens (sane_reachable hr).numbered (clocked_reachable hr) hl⟩
  · have hnever := never_idle hr hlong
    have hsteered := steered_reachable hr
    -- what is published is the reason with which the end began
    have hunpublished : s.terminated ≠ some .emptyDelay := by
      intro hterm
      rw [hsteered.begun, hterm] at hnever
      exact hnever (List.mem_append_right _ (List.mem_singleton.mpr rfl))
    refine ⟨fun hmem => hnever (mem_reasonsBegun.mpr hmem), fun hmem => ?_, hunpublished,
      fun hfired => ?_⟩
    · have htold := mem_reasonsTold.mpr hmem
      rw [hsteered.told] at htold
      exact hunpublished (Option.mem_toList.mp htold)
    · rw [(hsteered.fired _ hfired).1] at hnever
      exact hnever (List.mem_singleton.mpr rfl)

/-- Two triggers that lead nowhere, for a service whose delay is as long as its hard limit, and a
long time after them. -/
def tiedRun : Option (Service Plan) :=
  playFrom Plan.collaborators { timeouts := { serviceMs := 1000, emptyDelayMs := 1000 } } false {}
    [.trigger strayMessage, .turn 1, .turn 0, .turn 0, .wait 400, .trigger strayMessage, .turn 2,
      .turn 0, .turn 0, .wait 2000]

/-- Both deadlines count from the second trigger, and the hard limit has it. -/
theorem hard_limit_wins_tie : ∃ s, tiedRun = some s ∧ s.Listens ∧ Tended Plan.collaborators s ∧
    s.scheduler.state = .armed 1400 (some 1400) ∧ s.now = 2000 ∧
    (∃ t progress, s.resumeScheduler Plan.collaborators 0 .listening = some (t, progress) ∧
      progress ≠ .waits .listening ∧ t.scheduler.state = .fired .serviceTimeout) ∧
    s.terminated ≠ some .emptyDelay := by
  have hrun : tiedRun.isSome = true := rfl
  obtain ⟨hkept, hturns, hreach⟩ := @scheduler_keeps_two_deadlines _ Plan.collaborators
    (tiedRun.get hrun)
  obtain ⟨hlistening, hnever⟩ := hreach (reachable_of_playFrom (Option.some_get hrun).symm)
  have hl : (tiedRun.get hrun).Listens :=
    listens_of_mem (k := 0) (List.mem_of_getElem? (i := 0) rfl)
  have htended := (hlistening hl).1
  refine ⟨tiedRun.get hrun, (Option.some_get hrun).symm, hl, htended, ?_, rfl, ?_, ?_⟩
  · exact (hkept htended).2.2 400 rfl
  · have hreached : 1400 ≤ 2000 := by decide
    exact (hturns 0).limit rfl 1400 rfl hreached
  · exact (hnever (Nat.le_refl 1000)).2.2.1

end Service

end PushWake
