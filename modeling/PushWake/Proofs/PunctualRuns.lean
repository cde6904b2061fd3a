import PushWake.Proofs.RunInvariant
import PushWake.Proofs.SetOperations

/-!
# Runs on time

A run is punctual if its timers are exact: time passes only when nobody can go on, and never past a
moment that somebody waits for. Nobody asks such a service to shut down, and nobody lets go of it;
triggers are handed in and sessions report events at any point, and who goes on first is left open.
`Ensues` says what comes of a service that is left to itself on time, whoever goes on first.
-/

namespace PushWake.Service

variable {W : Type} {env : Collaborators W} {s s' s'' : Service W} {k : Nat} {m : TriggerMessage}
  {ms ms' : List (Nat × TriggerMessage)}

/-- Nobody can go on. -/
def Still (env : Collaborators W) (s : Service W) : Prop :=
  ∀ j a, (j, a) ∈ s.activities → s.act env j a = none

/-- What a service does by itself and on time. -/
inductive Ahead (env : Collaborators W) (s : Service W) : Service W → Prop where
  | act {k : Nat} {s' : Service W} : s.step env k = some s' → Ahead env s s'
  | wait (t : Nat) : s.Still env → s.now < t →
      (∀ j a d, (j, a) ∈ s.activities → s.due? a = some d → s.now < d → t ≤ d) →
      Ahead env s (s.advanceTo t)

/-- A punctual run, with the triggers that are handed in on the way and the numbers of
their calls. -/
inductive Punctual (env : Collaborators W) (s : Service W) :
    List (Nat × TriggerMessage) → Service W → Prop where
  | refl : Punctual env s [] s
  | ahead {ms : List (Nat × TriggerMessage)} {s₁ s₂ : Service W} :
      Punctual env s ms s₁ → Ahead env s₁ s₂ → Punctual env s ms s₂
  | trigger {ms : List (Nat × TriggerMessage)} {s₁ : Service W} (m : TriggerMessage) :
      Punctual env s ms s₁ → s₁.released = false →
      Punctual env s (ms ++ [(s₁.begun, m)]) (s₁.begin (.trigger m .arriving))
  | report {ms : List (Nat × TriggerMessage)} {s₁ : Service W} (session : Nat) (e : Event) :
      Punctual env s ms s₁ → Punctual env s ms (s₁.emit env session e)
  | rouse {ms : List (Nat × TriggerMessage)} {s₁ : Service W} (wakes : List Nat) :
      Punctual env s ms s₁ → Punctual env s ms { s₁ with wakes }

/-- To go ahead is to move. -/
theorem Ahead.move (h : Ahead env s s') : Move env s s' := by
  cases h with
  | act hs => exact .act hs
  | wait t => exact .wait t

namespace Punctual

/-- A punctual run is a run. -/
theorem later (h : Punctual env s ms s') : Later env s s' := by
  induction h with
  | refl => exact .refl
  | ahead _ ha ih => exact .move ih ha.move
  | trigger m _ hr ih => exact .move ih (.call (.trigger m) hr)
  | report session e _ ih => exact .move ih (.report session e)
  | rouse wakes _ ih => exact .move ih (.rouse wakes)

/-- Punctual runs may be put one after the other, and so are the messages handed in. -/
theorem trans (h : Punctual env s ms s') (h' : Punctual env s' ms' s'') :
    Punctual env s (ms ++ ms') s'' := by
  induction h' with
  | refl => rwa [List.append_nil]
  | ahead _ ha ih => exact .ahead ih ha
  | trigger m _ hr ih =>
    rw [← List.append_assoc]
    exact .trigger m ih hr
  | report session e _ ih => exact .report session e ih
  | rouse wakes _ ih => exact .rouse wakes ih

end Punctual

/-! ## Who somebody is -/

/-- What an activity of a service began as. -/
def entry : Activity → Activity
  | .scheduler _ => .scheduler .listening
  | .trigger m _ => .trigger m .arriving
  | .shutdown _ => .shutdown none
  | .body id completer connection _ => .body id completer connection .fresh
  | a => a

/-- A step takes whoever makes it to another stage or to their end, and meanwhile
workers may join. -/
inductive Stride (s : Service W) (k : Nat) (s' : Service W) : Prop where
  | goes {t : Service W} {a b : Activity} : (k, a) ∈ s.activities → Joined s.scene t.scene →
      entry b = entry a → s'.activities = (t.put k b).activities → s'.begun = t.begun →
      s'.released = t.released → Stride s k s'
  | ends {t : Service W} {a : Activity} : (k, a) ∈ s.activities → Joined s.scene t.scene →
      s'.activities = (t.finish k).activities → s'.begun = t.begun → s'.released = t.released →
      Stride s k s'

theorem scene_cancelIfUnheld : s.cancelIfUnheld.scene = s.scene := by
  unfold cancelIfUnheld
  split
  · obtain ⟨wakes, log, he⟩ := s.send_eq .cancel
    rw [he]
    rfl
  · rfl

namespace Stride

variable {t : Service W}

/-- A call that is answered is over. -/
theorem answer {a : Activity} (ha : (k, a) ∈ s.activities) (hj : Joined s.scene t.scene)
    (c : CallAnswer) :
    Stride s k (t.answer k c).cancelIfUnheld := by
  have hscene := scene_cancelIfUnheld (s := t.answer k c)
  exact .ends ha hj (congrArg Scene.activities hscene) (congrArg Scene.begun hscene)
    (congrArg Scene.released hscene)

theorem shutdown {stage : Option TeardownStage} {r : Service W × TeardownProgress}
    (ha : (k, .shutdown stage) ∈ s.activities) (hj : Joined s.scene r.1.scene) :
    Stride s k (follow k (fun stage => .shutdown (some stage))
      (fun s _ => (s.answer k .shutDown).cancelIfUnheld) r) := by
  obtain ⟨t, progress⟩ := r
  cases progress with
  | waits stage => exact .goes (t := t) (b := .shutdown (some stage)) ha hj rfl rfl rfl rfl
  | done => exact .answer ha hj _

/-- A body waits on, or it is over. -/
theorem body {id : Identity} {completer : Nat} {connection : Connection} {stage : BodyStage}
    {r : Service W × BodyProgress} (ha : (k, .body id completer connection stage) ∈ s.activities)
    (hj : Joined s.scene r.1.scene) : Stride s k (follow k (.body id completer connection)
      (fun s result => s.endBody k id result) r) := by
  obtain ⟨stage, -, he⟩ | ⟨result, log, -, he⟩ := followBody_eq k id completer connection r
  · rw [he]
    exact .goes (t := r.1) (b := .body id completer connection stage) ha hj rfl rfl rfl rfl
  · rw [he]
    exact .ends (t := { r.1 with log }) ha hj rfl rfl rfl

end Stride

/-- **Every step is a stride**: whoever takes it waits on as who it was, or is over, and whoever
joins is a worker. -/
theorem stride_ownStep (hsane : Sane s) (hs : OwnStep env s k s') : Stride s k s' := by
  cases hs with
  | @scheduler stage r ha hr =>
    have hj := (resumeScheduler_turn (hsane.sound _ _ ha) hr).1.joined
    obtain ⟨t, progress⟩ := r
    cases progress with
    | waits stage => exact .goes (t := t) (b := .scheduler stage) ha hj rfl rfl rfl rfl
    | done => exact .ends (t := t) ha hj rfl rfl rfl
  | @trigger m stage r ha hr =>
    have hj := (resumeTrigger_turn hsane.ledger (hsane.sound _ _ ha) hr).1.joined
    obtain ⟨t, progress⟩ := r
    cases progress with
    | waits stage => exact .goes (t := t) (b := .trigger m stage) ha hj rfl rfl rfl rfl
    | done result => exact .answer ha hj _
  | enterShutdown ha => exact .shutdown ha enterShutdown_turn.1.joined
  | shutdown ha hr => exact .shutdown ha (resumeTeardown_turn (hsane.sound _ _ ha) hr).1.joined
  | freshBody ha => exact .body ha (freshBody_turn (k := k) _ _ _).joined
  | @body id completer connection stage r ha hr =>
    have ht : Turn k s r.1 := workStable_turn.resumeBody hr .refl
    exact .body ha ht.joined
  | @reaper id job completer outcome ha hc =>
    have ht : Turn k s (s.removeJob id outcome).1 := removeJob_turn id outcome
    exact .ends ha ht.joined rfl rfl rfl
  | @settlement session due steps ha hdue =>
    have ht : Turn k s (settleLater env session s steps) := workStable_turn.settleLater _ _ .refl
    exact .ends ha ht.joined rfl rfl rfl

/-- Somebody with a number is what it began as, or has ended. -/
def Remains (k : Nat) (a : Activity) (s : Service W) : Prop :=
  k < s.begun ∧ ∀ b, (k, b) ∈ s.activities → entry b = a

namespace Remains

variable {a b : Activity} {j : Nat}

theorem joined (h : Remains k a s) (hj : Joined s.scene s'.scene) : Remains k a s' :=
  ⟨Nat.lt_of_lt_of_le h.1 hj.begun_le, fun b hb => h.2 b (hj.mem_old hb h.1)⟩

theorem begin (h : Remains k a s) : Remains k a (s.begin b) := by
  refine ⟨Nat.lt_succ_of_lt h.1, fun c hc => ?_⟩
  rcases mem_begin.mp hc with hc | ⟨rfl, -⟩
  · exact h.2 c hc
  · exact absurd h.1 (Nat.lt_irrefl _)

theorem stride (h : Remains k a s) (hs : Stride s j s') : Remains k a s' := by
  cases hs with
  | @goes t b c hb hj hentry hactivities hbegun =>
    have ht := h.joined hj
    refine ⟨hbegun ▸ ht.1, fun d hd => ?_⟩
    rw [hactivities] at hd
    rcases mem_put hd with ⟨rfl, rfl⟩ | ⟨hd, -⟩
    · exact hentry.trans (h.2 _ hb)
    · exact ht.2 d hd
  | @ends t b hb hj hactivities hbegun =>
    have ht := h.joined hj
    refine ⟨hbegun ▸ ht.1, fun d hd => ?_⟩
    rw [hactivities] at hd
    exact ht.2 d (mem_finish.mp hd).1

end Remains

/-- Whoever handed in a trigger has a number, and that trigger has it and no one else. -/
theorem Punctual.remains (hs : Reachable env s) (h : Punctual env s ms s') (hm : (k, m) ∈ ms) :
    Remains k (.trigger m .arriving) s' := by
  induction h with
  | refl => cases hm
  | @ahead ms s₁ s₂ h ha ih =>
    have hsane := sane_reachable (hs.later h.later)
    cases ha with
    | act hact => exact (ih hm).stride (stride_ownStep hsane (ownStep_of_step hsane.own hact))
    | wait t => exact ih hm
  | @trigger ms s₁ m' h _ ih =>
    rcases List.mem_append.mp hm with hm | hm
    · exact (ih hm).begin
    · cases List.mem_singleton.mp hm
      refine ⟨Nat.lt_succ_self _, fun b hb => ?_⟩
      rcases mem_begin.mp hb with hb | ⟨-, rfl⟩
      · exact absurd ((sane_reachable (hs.later h.later)).numbered.2 _ _ hb) (Nat.lt_irrefl _)
      · rfl
  | @report ms s₁ session e h ih =>
    have ht : Turn 0 s₁ (s₁.emit env session e) := workStable_turn.emit session e .refl
    exact (ih hm).joined ht.joined
  | rouse wakes h ih => exact ih hm

/-! ## Nobody asks for the end -/

/-- Whether an activity is a request to shut down. -/
def asksForEnd? : Activity → Option Unit
  | .shutdown _ => some ()
  | _ => none

/-- A service whose host is still there, and has not asked it to shut down. -/
structure Wanted (s : Service W) : Prop where
  kept : s.released = false
  unasked : s.gathered asksForEnd? = []

/-- Nobody who joins in a step asks for the end. -/
theorem asksForEnd?_of_isWorker (a : Activity) (ha : isWorker a = true) : asksForEnd? a = none := by
  cases a with
  | body | reaper | settlement => rfl
  | _ => cases ha

/-- Who asks for the end is known from the way somebody came in. -/
theorem asksForEnd?_entry (a : Activity) : asksForEnd? (entry a) = asksForEnd? a := by
  cases a <;> rfl

/-- The scheduler hears of nobody who lets go. -/
theorem cancelIfUnheld_of_kept (h : s.released = false) : s.cancelIfUnheld = s := by
  simp [cancelIfUnheld, h]

namespace Wanted

theorem not_mem (h : Wanted s) {stage : Option TeardownStage} :
    (k, .shutdown stage) ∉ s.activities := by
  intro ha
  have hmem : () ∈ s.gathered asksForEnd? := mem_gathered.mpr ⟨k, _, ha, rfl⟩
  rw [h.unasked] at hmem
  cases hmem

theorem joined (h : Wanted s) (hj : Joined s.scene s'.scene) : Wanted s' :=
  ⟨hj.unchanged.1.trans h.kept, (gathered_joined asksForEnd?_of_isWorker hj).trans h.unasked⟩

/-- A step brings in nobody who asks for the end. -/
theorem stride (h : Wanted s) (hsane : Sane s) (hs : Stride s k s') : Wanted s' := by
  have hn := hsane.numbered
  have hgathered : ∀ {t : Service W}, s'.activities = t.activities →
      t.gathered asksForEnd? = s.gathered asksForEnd? → s'.gathered asksForEnd? = [] := by
    intro t he ht
    rw [gathered, he]
    exact ht.trans h.unasked
  cases hs with
  | @goes t a b ha hj hentry hactivities _ hreleased =>
    refine ⟨hreleased.trans (h.joined hj).kept, hgathered hactivities ?_⟩
    refine gathered_turn_put asksForEnd?_of_isWorker hn hj ha ?_
    rw [← asksForEnd?_entry, ← hentry, asksForEnd?_entry]
  | @ends t a ha hj hactivities _ hreleased =>
    refine ⟨hreleased.trans (h.joined hj).kept, hgathered hactivities ?_⟩
    refine gathered_turn_finish asksForEnd?_of_isWorker hn hj ha ?_
    cases a with
    | shutdown => exact absurd ha h.not_mem
    | _ => rfl

theorem ahead (h : Wanted s) (hsane : Sane s) (ha : Ahead env s s') : Wanted s' := by
  cases ha with
  | act hs => exact h.stride hsane (stride_ownStep hsane (ownStep_of_step hsane.own hs))
  | wait t => exact ⟨h.kept, h.unasked⟩

/-- Neither does an event. -/
theorem report (h : Wanted s) (session : Nat) (e : Event) : Wanted (s.emit env session e) := by
  have ht : Turn 0 s (s.emit env session e) := workStable_turn.emit session e .refl
  exact h.joined ht.joined

theorem trigger (h : Wanted s) (m : TriggerMessage) : Wanted (s.begin (.trigger m .arriving)) :=
  ⟨h.kept, (gathered_begin rfl).trans h.unasked⟩

end Wanted

/-- Nobody asks for the end in a punctual run. -/
theorem Punctual.wanted (hs : Reachable env s) (hw : Wanted s) (h : Punctual env s ms s') :
    Wanted s' := by
  induction h with
  | refl => exact hw
  | ahead h ha ih => exact ih.ahead (sane_reachable (hs.later h.later)) ha
  | trigger m _ _ ih => exact ih.trigger m
  | report session e _ ih => exact ih.report session e
  | rouse wakes _ ih => exact ⟨ih.kept, ih.unasked⟩

/-- A service that is left to itself comes to something on time, whoever goes on first. -/
inductive Ensues (env : Collaborators W) (P : Service W → Prop) : Service W → Prop where
  | now {s : Service W} : P s → Ensues env P s
  | later {s : Service W} : (∃ s', Ahead env s s') →
      (∀ s', Ahead env s s' → Ensues env P s') → Ensues env P s

/-- What always holds on the way may be used of what ensues. -/
theorem Ensues.mono {P P' I : Service W → Prop} (h : Ensues env P s)
    (hstep : ∀ {s s' : Service W}, I s → Ahead env s s' → I s')
    (himp : ∀ {s : Service W}, I s → P s → P' s) (hi : I s) : Ensues env P' s := by
  induction h with
  | now hp => exact .now (himp hi hp)
  | later hgoes _ ih => exact .later hgoes fun s' ha => ih s' ha (hstep hi ha)

end PushWake.Service
