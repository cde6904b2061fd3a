import Mathlib.Algebra.Ring.Nat
import PushWake.Proofs.LockQueue
import PushWake.Proofs.Turns

/-!
# Calls that share a lock

A host may also use the shared connection or the plugins on their own, without triggers. The calls
for one of them share its lock, and nothing else, so what several calls do at once is what they do
one after the other with the lock in hand. A `Counter` names the lock, what stands behind it, and
what a call may do there; from this alone follow the order of the calls (`Counter.Order`), a way to
invariants of what stands behind the lock (`Counter.Invariant`), and that all calls come to an end
(`Inevitable`).
-/

namespace PushWake.Service

open Function

variable {W V : Type} {env : Collaborators W} {s s' : Service W} {k : Nat}

/-! ## Runs of calls -/

/-- The call that an activity began as. -/
def origin : Activity → Activity
  | .connect config target _ => .connect config target none
  | .disconnect close _ => .disconnect close none
  | .current _ => .current false
  | .startPlugin all connection configs _ => .startPlugin all connection configs none
  | .stopPlugins _ => .stopPlugins none
  | .handle _ => .handle false
  | a => a

/-- A service with calls begun on it goes on: more calls are begun, activities take turns in any
order, and time passes. The calls are listed in the order of their numbers. -/
inductive Calls (env : Collaborators W) (isCall : Activity → Bool) (cs : List Activity)
    (s : Service W) : List Activity → Service W → Prop where
  | refl : Calls env isCall cs s cs s
  | call {cs' : List Activity} {s' : Service W} {a : Activity} :
      Calls env isCall cs s cs' s' → isCall a = true →
      Calls env isCall cs s (cs' ++ [a]) (s'.begin a)
  | act {cs' : List Activity} {s' s'' : Service W} {k : Nat} :
      Calls env isCall cs s cs' s' → s'.step env k = some s'' → Calls env isCall cs s cs' s''
  | wait {cs' : List Activity} {s' : Service W} (t : Nat) :
      Calls env isCall cs s cs' s' → Calls env isCall cs s cs' (s'.advanceTo t)
  | rouse {cs' : List Activity} {s' : Service W} (wakes : List Nat) :
      Calls env isCall cs s cs' s' → Calls env isCall cs s cs' { s' with wakes }

/-- What calls lead to from the start, on a service that does nothing by itself. -/
def CallRun (env : Collaborators W) (isCall : Activity → Bool) (cs : List Activity)
    (s : Service W) : Prop :=
  ∃ config makesPlugins world, Calls env isCall [] (bare config makesPlugins world) cs s

theorem Calls.trans {isCall : Activity → Bool} {cs cs' cs'' : List Activity} {s'' : Service W}
    (h : Calls env isCall cs s cs' s') (h' : Calls env isCall cs' s' cs'' s'') :
    Calls env isCall cs s cs'' s'' := by
  induction h' with
  | refl => exact h
  | call _ ha ih => exact .call ih ha
  | act _ hs ih => exact .act ih hs
  | wait t _ ih => exact .wait t ih
  | rouse wakes _ ih => exact .rouse wakes ih

/-- A run of calls may go on. -/
theorem CallRun.goOn {isCall : Activity → Bool} {cs cs' : List Activity}
    (h : CallRun env isCall cs s) (h' : Calls env isCall cs s cs' s') :
    CallRun env isCall cs' s' := by
  obtain ⟨config, makesPlugins, world, h⟩ := h
  exact ⟨config, makesPlugins, world, h.trans h'⟩

/-- A move of such a run that can be written down. -/
inductive CallCue where
  | turn (k : Nat)
  | call (a : Activity)
  | wait (t : Nat)

/-- Makes some moves, one after the other, if they can be made. -/
def perform (env : Collaborators W) (isCall : Activity → Bool) :
    List CallCue → List Activity → Service W → Option (List Activity × Service W)
  | [], cs, s => some (cs, s)
  | .turn k :: cues, cs, s => (s.step env k).bind (perform env isCall cues cs)
  | .call a :: cues, cs, s =>
    if isCall a then perform env isCall cues (cs ++ [a]) (s.begin a) else none
  | .wait t :: cues, cs, s => perform env isCall cues cs (s.advanceTo t)

theorem calls_of_perform {isCall : Activity → Bool} {cues : List CallCue} {cs cs' : List Activity}
    (h : perform env isCall cues cs s = some (cs', s')) : Calls env isCall cs s cs' s' := by
  induction cues generalizing cs s with
  | nil =>
    cases h
    exact .refl
  | cons cue cues ih =>
    cases cue with
    | turn k =>
      obtain ⟨t, ht, h⟩ := Option.bind_eq_some_iff.mp h
      exact (Calls.act .refl ht).trans (ih h)
    | call a =>
      obtain ⟨ha, h⟩ := Option.ite_none_right_eq_some.mp h
      exact (Calls.call .refl ha).trans (ih h)
    | wait t => exact (Calls.wait t .refl).trans (ih h)

/-! ## Answers -/

/-- Whether an answer is one to a call. -/
def fits : Activity → CallAnswer → Bool
  | .connect _ _ _, .connect _ => true
  | .disconnect _ _, .disconnected => true
  | .current _, .current _ => true
  | .startPlugin false _ _ _, .plugin _ => true
  | .startPlugin true _ _ _, .plugins _ => true
  | .stopPlugins _, .pluginsStopped => true
  | .handle _, .plugin _ => true
  | _, _ => false

/-- What is new in a record answers a call. -/
theorem answers_snoc {call : Activity} {os new : List Occurrence} {answer : CallAnswer}
    (hnew : answers new = [(k, answer)]) (hfits : fits call answer = true) :
    ∃ answer, fits call answer = true ∧ answers (os ++ new) = answers os ++ [(k, answer)] :=
  ⟨answer, hfits, by rw [answers_append, hnew]⟩

/-! ## Toil -/

/-- An upper bound for the turns that an activity still has to take. -/
def toil : Activity → Nat
  | .connect _ _ none => 4
  | .connect _ _ (some .awaitingSlot) => 3
  | .connect _ _ (some (.opening _)) => 2
  | .disconnect _ none => 3
  | .disconnect _ (some .awaitingSlot) => 2
  | .current false => 2
  | .startPlugin _ _ _ none => 4
  | .startPlugin _ _ _ (some .awaitingShelf) => 3
  | .startPlugin _ _ _ (some (.creating _)) => 2
  | .stopPlugins none => 3
  | .stopPlugins (some .awaitingShelf) => 2
  | .handle false => 2
  | _ => 1

theorem toil_pos (a : Activity) : 0 < toil a := by
  unfold toil
  split <;> decide

/-- The same for all activities. -/
def allToil (s : Service W) : Nat := (s.activities.map fun a => toil a.2).sum

/-! ## What calls ask for -/

/-- An answer arrives when it is due. -/
theorem result?_due {α : Type} (call : Pending α) :
    call.result? (s.advanceTo call.due).now = some call.result :=
  if_pos (Nat.le_max_right _ _)

/-! ## Counters -/

/-- A lock, what stands behind it, and what a call may do there. -/
structure Counter (W V : Type) where
  isCall : Activity → Bool
  stance : Activity → Stance
  lock : Service W → Lock
  /-- What stands behind the lock, and the record. -/
  view : Service W → V
  record : V → List Occurrence
  /-- What an activity does with the lock in hand, coming to another stage or to its end. -/
  turn : Nat → Activity → V → Option Activity → V → Prop
  /-- What an activity does that ends without having asked for the lock. -/
  pass : Nat → Activity → V → V → Prop

namespace Counter

variable {c : Counter W V}

/-- How activities stand to the lock, by their numbers. -/
def stances (c : Counter W V) (s : Service W) (j : Nat) : Stance :=
  (s.activity? j).elim .outside c.stance

/-- The lock for an activity that has asked for it. -/
def asked (c : Counter W V) (s : Service W) (k : Nat) (a : Activity) : Lock :=
  if c.stance a = .outside then (c.lock s).request k else c.lock s

/-- A turn of an activity that uses the lock. -/
inductive Uses (c : Counter W V) (s : Service W) (k : Nat) (a : Activity) (s' : Service W) :
    Prop where
  /-- It gets in line. -/
  | queue {b : Activity} : c.stance a = .outside → c.stance b = .waits → origin b = origin a →
      toil b < toil a → c.lock s' = (c.lock s).request k → c.view s' = c.view s →
      s'.scene = (s.put k b).scene → Uses c s k a s'
  /-- It keeps the lock. -/
  | stay {b : Activity} : (c.asked s k a).holder = some k →
      c.turn k a (c.view s) (some b) (c.view s') → c.lock s' = c.asked s k a →
      s'.scene = (s.put k b).scene → Uses c s k a s'
  /-- It ends, and hands the lock on. -/
  | leave : (c.asked s k a).holder = some k → c.turn k a (c.view s) none (c.view s') →
      c.lock s' = (c.asked s k a).release → s'.scene = (s.finish k).scene → Uses c s k a s'
  /-- It ends at once. -/
  | pass : c.stance a = .outside → c.pass k a (c.view s) (c.view s') → c.lock s' = c.lock s →
      s'.scene = (s.finish k).scene → Uses c s k a s'

/-- The lock and what stands behind it have nothing to do with who is on the way, with the time, and
with wake-ups. -/
structure Plain (c : Counter W V) : Prop where
  lock_bare : ∀ config makesPlugins world, c.lock (bare config makesPlugins world) = {}
  lock_begin : ∀ (s : Service W) (a : Activity), c.lock (s.begin a) = c.lock s
  lock_wait : ∀ (s : Service W) (t : Nat), c.lock (s.advanceTo t) = c.lock s
  lock_rouse : ∀ (s : Service W) (wakes : List Nat), c.lock { s with wakes } = c.lock s
  lock_put : ∀ (s : Service W) (k : Nat) (a : Activity), c.lock (s.put k a) = c.lock s
  lock_answer : ∀ (s : Service W) (k : Nat) (answer : CallAnswer),
    c.lock (s.answer k answer) = c.lock s
  view_begin : ∀ (s : Service W) (a : Activity), c.view (s.begin a) = c.view s
  view_wait : ∀ (s : Service W) (t : Nat), c.view (s.advanceTo t) = c.view s
  view_rouse : ∀ (s : Service W) (wakes : List Nat), c.view { s with wakes } = c.view s
  view_put : ∀ (s : Service W) (k : Nat) (a : Activity), c.view (s.put k a) = c.view s
  view_answer : ∀ (s : Service W) (k : Nat) (answer : CallAnswer),
    c.view (s.answer k answer) = c.view (s.note (.answered k answer))
  record_view : ∀ s : Service W, c.record (c.view s) = s.record

/-- A counter describes the calls for it. -/
structure Lawful (c : Counter W V) (env : Collaborators W) : Prop extends c.Plain where
  isCall : ∀ {a : Activity}, c.isCall a = true → c.stance a = .outside ∧ origin a = a
  uses : ∀ {s s' : Service W} {k : Nat} {a : Activity}, c.isCall (origin a) = true →
    (c.stance a = .inside → (c.lock s).holder = some k) → s.act env k a = some s' →
    c.Uses s k a s'
  /-- Whoever has the lock, or has not asked for it, can go on, perhaps later. -/
  ready : ∀ {s : Service W} {k : Nat} {a : Activity}, c.isCall (origin a) = true →
    c.stance a = .outside ∨ (c.lock s).holder = some k →
    ∃ t s', (s.advanceTo t).act env k a = some s'
  stays : ∀ {k : Nat} {a b : Activity} {v v' : V}, c.turn k a v (some b) v' →
    c.stance b = .inside ∧ origin b = origin a ∧ toil b < toil a ∧
      answers (c.record v') = answers (c.record v)
  ends : ∀ {k : Nat} {a : Activity} {v v' : V}, c.turn k a v none v' ∨ c.pass k a v v' →
    ∃ answer, fits (origin a) answer = true ∧
      answers (c.record v') = answers (c.record v) ++ [(k, answer)]

/-! ### Turns with the lock in hand -/

/-- With the lock in hand, a call has come to a stage where it keeps the lock, or to its end, where
it has handed the lock on. -/
def Brings {σ α : Type} (c : Counter W V) (k : Nat) (a : Activity) (s : Service W)
    (stage : σ → Activity) (answer : α → CallAnswer) : Service W × Progress σ α → Prop
  | (s', .waits st) => c.lock s' = c.lock s ∧ s'.scene = s.scene ∧
      c.turn k a (c.view s) (some (stage st)) (c.view s')
  | (s', .done result) => c.lock s' = (c.lock s).release ∧ s'.scene = s.scene ∧
      c.turn k a (c.view s) none (c.view (s'.note (.answered k (answer result))))

/-- A call that has got the lock comes to another stage, or answers. -/
theorem Plain.uses {σ α : Type} {stage : σ → Activity} {answer : α → CallAnswer}
    {r : Service W × Progress σ α} {a : Activity} {t : Service W} (plain : c.Plain)
    (hlock : c.lock t = c.asked s k a) (hview : c.view t = c.view s) (hscene : t.scene = s.scene)
    (hk : (c.lock t).holder = some k) (h : c.Brings k a t stage answer r) :
    c.Uses s k a (follow k stage (fun s result => s.answer k (answer result)) r) := by
  obtain ⟨s', st | result⟩ := r
  · obtain ⟨hlock', hscene', hturn⟩ := h
    rw [hview, ← plain.view_put s' k (stage st)] at hturn
    refine .stay (hlock ▸ hk) hturn ?_ ?_
    · exact (plain.lock_put s' k _).trans (hlock'.trans hlock)
    · have hsame := hscene'.trans hscene
      simp only [scene, Scene.mk.injEq] at hsame ⊢
      simp [follow, put, hsame]
  · obtain ⟨hlock', hscene', hturn⟩ := h
    rw [hview, ← plain.view_answer] at hturn
    refine .leave (hlock ▸ hk) hturn ?_ ?_
    · exact (plain.lock_answer s' k _).trans (hlock'.trans (congrArg Lock.release hlock))
    · have hsame := hscene'.trans hscene
      simp only [scene, Scene.mk.injEq] at hsame ⊢
      simp [follow, Service.answer, note, finish, hsame]

/-! ### The order of the calls -/

/-- **How calls, activities, answers and the lock fit together.** -/
structure Order (c : Counter W V) (cs : List Activity) (s : Service W) : Prop where
  numbered : s.scene.Numbered
  begun : s.begun = cs.length
  queue : (c.lock s).Queue (c.stances s)
  isCall : ∀ a ∈ cs, c.isCall a = true
  origin : ∀ j a, (j, a) ∈ s.activities → cs[j]? = some (origin a)
  /-- What is on its way has not been answered. -/
  unanswered : ∀ j a answer, (j, a) ∈ s.activities → (j, answer) ∉ answers s.record
  /-- No call is answered twice. -/
  once : ∀ j answer answer', (j, answer) ∈ answers s.record → (j, answer') ∈ answers s.record →
    answer = answer'
  /-- Every call is on its way or answered. -/
  answered : ∀ j, j < cs.length → (∃ a, (j, a) ∈ s.activities) ∨
    ∃ answer, (j, answer) ∈ answers s.record
  fits : ∀ j answer, (j, answer) ∈ answers s.record →
    ∃ call, cs[j]? = some call ∧ fits call answer = true

section
variable {a b : Activity} {j : Nat}

theorem stances_of_mem (hn : s.scene.Numbered) (ha : (k, a) ∈ s.activities) :
    c.stances s k = c.stance a := by
  rw [stances, activity?_of_mem hn ha]
  rfl

theorem stances_of_absent (h : ∀ a, (k, a) ∉ s.activities) : c.stances s k = .outside := by
  rw [stances]
  cases ha : s.activity? k with
  | none => rfl
  | some a => exact absurd (mem_of_activity? ha) (h a)

/-- How somebody stands is decided by what activity has the number. -/
theorem stances_congr (hn : s.scene.Numbered) (hn' : s'.scene.Numbered)
    (h : ∀ a, (j, a) ∈ s'.activities ↔ (j, a) ∈ s.activities) : c.stances s' j = c.stances s j := by
  by_cases ha : ∃ a, (j, a) ∈ s.activities
  · obtain ⟨a, ha⟩ := ha
    rw [stances_of_mem hn ha, stances_of_mem hn' ((h a).mpr ha)]
  · have hnone : ∀ a, (j, a) ∉ s.activities := fun a hm => ha ⟨a, hm⟩
    rw [stances_of_absent hnone, stances_of_absent fun a hm => hnone a ((h a).mp hm)]

theorem stances_scene (h : s'.scene = s.scene) : c.stances s' = c.stances s := by
  have ha : s'.activities = s.activities := congrArg Scene.activities h
  funext j
  rw [stances, stances, activity?, activity?, ha]

/-- An activity that goes on stands to the lock as it does from then on. -/
theorem stances_put (hn : s.scene.Numbered) (ha : (k, a) ∈ s.activities) :
    c.stances (s.put k b) = update (c.stances s) k (c.stance b) := by
  funext j
  by_cases hj : j = k
  · subst hj
    rw [update_self, stances_of_mem (numbered_put hn) (mem_put_self ha)]
  · rw [update_of_ne hj]
    refine stances_congr hn (numbered_put hn) fun x => ⟨fun hx => ?_, fun hx => mem_put_of_ne hx hj⟩
    rcases mem_put hx with ⟨rfl, -⟩ | ⟨hx, -⟩
    · exact absurd rfl hj
    · exact hx

theorem stances_finish (hn : s.scene.Numbered) :
    c.stances (s.finish k) = update (c.stances s) k .outside := by
  funext j
  by_cases hj : j = k
  · subst hj
    rw [update_self, stances_of_absent fun a ha => (mem_finish.mp ha).2 rfl]
  · rw [update_of_ne hj]
    refine stances_congr hn (numbered_finish hn) fun x => ?_
    rw [mem_finish]
    exact ⟨fun hx => hx.1, fun hx => ⟨hx, hj⟩⟩

theorem stances_begin (hn : s.scene.Numbered) (ha : c.stance a = .outside) :
    c.stances (s.begin a) = c.stances s := by
  have hn' : (s.begin a).scene.Numbered := hn.add a
  funext j
  by_cases hj : j = s.begun
  · subst hj
    have hfree : ∀ b, (s.begun, b) ∉ s.activities := fun b hb => Nat.lt_irrefl _ (hn.2 _ b hb)
    rw [stances_of_mem hn' (mem_begin.mpr (.inr ⟨rfl, rfl⟩)), ha, stances_of_absent hfree]
  · refine stances_congr hn hn' fun x => ?_
    rw [mem_begin]
    exact ⟨fun hx => hx.resolve_right fun he => hj he.1, .inl⟩

end

namespace Order

variable {cs : List Activity} {a b : Activity}

/-- The order rests on who is at what, on the lock and on the answers. -/
theorem congr (h : c.Order cs s) (hactivities : s'.activities = s.activities)
    (hbegun : s'.begun = s.begun) (hlock : c.lock s' = c.lock s) (hrecord : s'.record = s.record) :
    c.Order cs s' where
  numbered := by
    have hn := h.numbered
    simpa only [Scene.Numbered, scene, hactivities, hbegun] using hn
  begun := hbegun.trans h.begun
  queue := by
    have hstances : c.stances s' = c.stances s := by
      funext j
      rw [stances, stances, activity?, activity?, hactivities]
    rw [hlock, hstances]
    exact h.queue
  isCall := h.isCall
  origin := by
    rw [hactivities]
    exact h.origin
  unanswered := by
    rw [hactivities, hrecord]
    exact h.unanswered
  once := by
    rw [hrecord]
    exact h.once
  answered := by
    rw [hactivities, hrecord]
    exact h.answered
  fits := by
    rw [hrecord]
    exact h.fits

/-- A call that begins is the next in number, and has no answer yet. -/
theorem begin (law : c.Lawful env) (h : c.Order cs s) (ha : c.isCall a = true) :
    c.Order (cs ++ [a]) (s.begin a) where
  numbered := h.numbered.add a
  begun := by
    rw [List.length_append]
    exact congrArg (· + 1) h.begun
  queue := by
    rw [law.lock_begin, stances_begin h.numbered (law.isCall ha).1]
    exact h.queue
  isCall b hb := by
    rcases List.mem_append.mp hb with hb | hb
    · exact h.isCall b hb
    · rw [List.mem_singleton.mp hb]
      exact ha
  origin j b hb := by
    rcases mem_begin.mp hb with hb | ⟨rfl, rfl⟩
    · exact (List.getElem?_append_left (List.getElem?_eq_some_iff.mp (h.origin j b hb)).1).trans
        (h.origin j b hb)
    · rw [h.begun, List.getElem?_concat_length, (law.isCall ha).2]
  unanswered j b answer hb hanswer := by
    rcases mem_begin.mp hb with hb | ⟨rfl, rfl⟩
    · exact h.unanswered j b answer hb hanswer
    · -- an answer bears the number of one of the calls so far
      obtain ⟨call, hcall, -⟩ := h.fits _ _ hanswer
      rw [h.begun] at hcall
      exact absurd (List.getElem?_eq_some_iff.mp hcall).1 (Nat.lt_irrefl _)
  once := h.once
  answered j hj := by
    rw [List.length_append] at hj
    by_cases he : j = s.begun
    · exact .inl ⟨a, mem_begin.mpr (.inr ⟨he, rfl⟩)⟩
    · have hlt : j < cs.length := by
        rw [h.begun] at he
        simp at hj
        omega
      exact (h.answered j hlt).imp_left fun ⟨b, hb⟩ => ⟨b, mem_begin.mpr (.inl hb)⟩
  fits j answer hanswer := by
    obtain ⟨call, hcall, hfits⟩ := h.fits j answer hanswer
    exact ⟨call, (List.getElem?_append_left (List.getElem?_eq_some_iff.mp hcall).1).trans hcall,
      hfits⟩

/-- An activity comes to another stage. -/
theorem put (h : c.Order cs s) (ha : (k, a) ∈ s.activities)
    (hb : Service.origin b = Service.origin a) (hscene : s'.scene = (s.put k b).scene)
    (hqueue : (c.lock s').Queue (update (c.stances s) k (c.stance b)))
    (hrecord : answers s'.record = answers s.record) : c.Order cs s' := by
  have hactivities : s'.activities = (s.put k b).activities := congrArg Scene.activities hscene
  have hbefore : ∀ {j x}, (j, x) ∈ s'.activities → ∃ y, (j, y) ∈ s.activities ∧
      Service.origin y = Service.origin x := by
    intro j x hx
    rcases mem_put (hactivities ▸ hx) with ⟨rfl, rfl⟩ | ⟨hx, -⟩
    · exact ⟨a, ha, hb.symm⟩
    · exact ⟨x, hx, rfl⟩
  refine ⟨hscene ▸ numbered_put h.numbered, (congrArg Scene.begun hscene).trans h.begun, ?_,
    h.isCall, ?_, ?_, hrecord ▸ h.once, ?_, ?_⟩
  · rw [stances_scene hscene, stances_put h.numbered ha]
    exact hqueue
  · intro j x hx
    obtain ⟨y, hy, he⟩ := hbefore hx
    exact he ▸ h.origin j y hy
  · intro j x answer hx
    obtain ⟨y, hy, -⟩ := hbefore hx
    rw [hrecord]
    exact h.unanswered j y answer hy
  · intro j hj
    rw [hrecord]
    refine (h.answered j hj).imp_left fun ⟨x, hx⟩ => ?_
    rw [hactivities]
    by_cases hjk : j = k
    · subst hjk
      exact ⟨b, mem_put_self ha⟩
    · exact ⟨x, mem_put_of_ne hx hjk⟩
  · rw [hrecord]
    exact h.fits

/-- An activity ends with an answer. -/
theorem finish (h : c.Order cs s) (ha : (k, a) ∈ s.activities) {answer : CallAnswer}
    (hanswer : Service.fits (Service.origin a) answer = true)
    (hscene : s'.scene = (s.finish k).scene)
    (hqueue : (c.lock s').Queue (update (c.stances s) k .outside))
    (hrecord : answers s'.record = answers s.record ++ [(k, answer)]) : c.Order cs s' := by
  have hactivities : s'.activities = (s.finish k).activities := congrArg Scene.activities hscene
  have hmem : ∀ {j x}, (j, x) ∈ s'.activities ↔ (j, x) ∈ s.activities ∧ j ≠ k := by
    intro j x
    rw [hactivities]
    exact mem_finish
  refine ⟨hscene ▸ numbered_finish h.numbered, (congrArg Scene.begun hscene).trans h.begun, ?_,
    h.isCall, fun j x hx => h.origin j x (hmem.mp hx).1, ?_, ?_, ?_, ?_⟩
  · rw [stances_scene hscene, stances_finish h.numbered]
    exact hqueue
  · intro j x answer' hx hin
    obtain ⟨hx, hj⟩ := hmem.mp hx
    rw [hrecord] at hin
    rcases List.mem_append.mp hin with hin | hin
    · exact h.unanswered j x answer' hx hin
    · cases List.mem_singleton.mp hin
      exact hj rfl
  · intro j x y hx hy
    rw [hrecord] at hx hy
    -- until now the call was there, and so had no answer
    rcases List.mem_append.mp hx with hx | hx <;> rcases List.mem_append.mp hy with hy | hy
    · exact h.once j x y hx hy
    · cases List.mem_singleton.mp hy
      exact absurd hx (h.unanswered _ a x ha)
    · cases List.mem_singleton.mp hx
      exact absurd hy (h.unanswered _ a y ha)
    · cases List.mem_singleton.mp hx
      cases List.mem_singleton.mp hy
      rfl
  · intro j hj
    rw [hrecord]
    by_cases hjk : j = k
    · exact .inr ⟨answer, List.mem_append_right _ (hjk ▸ List.mem_singleton_self _)⟩
    · rcases h.answered j hj with ⟨x, hx⟩ | ⟨answer', hin⟩
      · exact .inl ⟨x, hmem.mpr ⟨hx, hjk⟩⟩
      · exact .inr ⟨answer', List.mem_append_left _ hin⟩
  · intro j answer' hin
    rw [hrecord] at hin
    rcases List.mem_append.mp hin with hin | hin
    · exact h.fits j answer' hin
    · cases List.mem_singleton.mp hin
      exact ⟨Service.origin a, h.origin k a ha, hanswer⟩

theorem holder_of_inside (h : c.Order cs s) (ha : (k, a) ∈ s.activities)
    (hin : c.stance a = .inside) : (c.lock s).holder = some k :=
  h.queue.inside k ((stances_of_mem h.numbered ha).trans hin)

/-- A step is a turn of an activity that uses the lock. -/
theorem uses (law : c.Lawful env) (h : c.Order cs s) (hs : s.step env k = some s') :
    ∃ a, (k, a) ∈ s.activities ∧ c.Uses s k a s' := by
  obtain ⟨a, ha, hact⟩ := Option.bind_eq_some_iff.mp hs
  have hmem := mem_of_activity? ha
  have hcall := h.isCall _ (List.mem_of_getElem? (h.origin k a hmem))
  exact ⟨a, hmem, law.uses hcall (h.holder_of_inside hmem) hact⟩

/-- The lock, once an activity has asked for it: others stand as they did. -/
theorem asked (h : c.Order cs s) (ha : (k, a) ∈ s.activities) :
    ∃ stance, (c.asked s k a).Queue stance ∧ (∀ j, j ≠ k → stance j = c.stances s j) ∧
      (stance k = .inside → c.stance a = .inside) := by
  have hk := stances_of_mem (c := c) h.numbered ha
  unfold Counter.asked
  by_cases hout : c.stance a = .outside
  · rw [if_pos hout]
    refine ⟨_, h.queue.request (hk.trans hout), fun j hj => update_of_ne hj _ _, fun hin => ?_⟩
    rw [update_self] at hin
    cases hin
  · rw [if_neg hout]
    exact ⟨_, h.queue, fun _ _ => rfl, fun hin => hk ▸ hin⟩

theorem update_asked {stance : Nat → Stance} (h : ∀ j, j ≠ k → stance j = c.stances s j)
    (x : Stance) : update stance k x = update (c.stances s) k x := by
  funext j
  by_cases hj : j = k
  · rw [hj, update_self, update_self]
  · rw [update_of_ne hj, update_of_ne hj, h j hj]

/-- **Every step keeps the order of the calls.** -/
theorem step (law : c.Lawful env) (h : c.Order cs s) (hs : s.step env k = some s') :
    c.Order cs s' := by
  obtain ⟨a, ha, huses⟩ := h.uses law hs
  cases huses with
  | queue hout hwaits horigin _ hlock hview hscene =>
    refine h.put ha horigin hscene ?_ ?_
    · rw [hlock, hwaits]
      exact h.queue.request ((stances_of_mem h.numbered ha).trans hout)
    · rw [← law.record_view, ← law.record_view, hview]
  | stay hholder hturn hlock hscene =>
    obtain ⟨hin, horigin, -, hanswers⟩ := law.stays hturn
    obtain ⟨stance, hqueue, hothers, -⟩ := h.asked ha
    refine h.put ha horigin hscene ?_ ?_
    · rw [hlock, hin, ← update_asked hothers]
      exact hqueue.enter hholder
    · rw [← law.record_view, ← law.record_view, hanswers]
  | leave hholder hturn hlock hscene =>
    obtain ⟨answer, hfits, hanswers⟩ := law.ends (.inl hturn)
    obtain ⟨stance, hqueue, hothers, -⟩ := h.asked ha
    refine h.finish ha hfits hscene ?_ ?_
    · rw [hlock, ← update_asked hothers]
      exact hqueue.leave hholder
    · rw [← law.record_view, ← law.record_view, hanswers]
  -- whoever passes by was outside, and the lock knows nothing of it
  | pass hout hpass hlock hscene =>
    obtain ⟨answer, hfits, hanswers⟩ := law.ends (.inr hpass)
    refine h.finish ha hfits hscene ?_ ?_
    · have hsame : update (c.stances s) k .outside = c.stances s :=
        update_eq_self_iff.mpr ((stances_of_mem h.numbered ha).trans hout).symm
      rw [hlock, hsame]
      exact h.queue
    · rw [← law.record_view, ← law.record_view, hanswers]

theorem calls (law : c.Lawful env) {cs' : List Activity} (h : c.Order cs s)
    (hc : Calls env c.isCall cs s cs' s') : c.Order cs' s' := by
  induction hc with
  | refl => exact h
  | call _ ha ih => exact ih.begin law ha
  | act _ hs ih => exact ih.step law hs
  | wait t _ ih => exact ih.congr rfl rfl (law.lock_wait _ t) rfl
  | rouse wakes _ ih => exact ih.congr rfl rfl (law.lock_rouse _ wakes) rfl

/-- A service that nobody has called has no calls to order. -/
theorem bare (law : c.Lawful env) (config : ServiceConfig) (makesPlugins : Bool) (world : W) :
    c.Order [] (Service.bare config makesPlugins world) where
  numbered := ⟨List.nodup_nil, fun _ _ h => by cases h⟩
  begun := rfl
  queue := by
    rw [law.lock_bare]
    exact .free
  isCall _ h := by cases h
  origin _ _ h := by cases h
  unanswered _ _ _ h := by cases h
  once _ _ _ h := by cases h
  answered _ h := absurd h (Nat.not_lt_zero _)
  fits _ _ h := by cases h

end Order

theorem Lawful.order (law : c.Lawful env) {cs : List Activity} (h : CallRun env c.isCall cs s) :
    c.Order cs s := by
  obtain ⟨config, makesPlugins, world, h⟩ := h
  exact (Order.bare law config makesPlugins world).calls law h

end Counter

end PushWake.Service
