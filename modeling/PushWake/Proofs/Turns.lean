import Mathlib.Data.List.Basic
import Mathlib.Logic.Relation
import PushWake.Proofs.Ledger
import PushWake.Proofs.Runs
import PushWake.Proofs.WorkStable

/-!
# Turns

What an activity does in its turn is a series of deals. An activity that waits in the middle of a
deal holds the lock of what the deal is about, and a turn of somebody else leaves that alone: so
what is known about an activity when it comes to wait is still true when it goes on. `Sound` is what
is known at each stage, and `Turn` is what one activity may do to the others.
-/

namespace PushWake

open Relation

/-! ## What deals do not undo -/

/-- What holds on from one point to a later one: what is closed or stopped stays so, and a session
is kept until the service closes. -/
structure Onward (h h' : Holdings) : Prop where
  closed : h.closed = true → h'.closed = true
  stopped : h.stopped = true → h'.stopped = true
  live : ∀ live, h.live = some live → h'.closed = false → h'.live = some live

theorem Onward.refl (h : Holdings) : Onward h h :=
  ⟨fun hc => hc, fun hs => hs, fun _ hl _ => hl⟩

theorem Onward.trans {h h' h'' : Holdings} (ho : Onward h h') (ho' : Onward h' h'') :
    Onward h h'' where
  closed hc := ho'.closed (ho.closed hc)
  stopped hs := ho'.stopped (ho.stopped hs)
  live live hl hc := by
    refine ho'.live live (ho.live live hl ?_) hc
    rw [Bool.eq_false_iff]
    intro hc'
    rw [ho'.closed hc'] at hc
    cases hc

theorem Deal.onward {h h' : Holdings} (hd : Deal h h') : Onward h h' := by
  cases hd with
  | «open» _ hlive _ => exact ⟨fun hc => hc, fun hs => hs, fun _ hl _ => by simp [hlive] at hl⟩
  | shut _ _ => exact ⟨fun _ => rfl, fun hs => hs, fun _ _ hc => by cases hc⟩
  | close _ _ => exact ⟨fun _ => rfl, fun hs => hs, fun _ _ hc => by cases hc⟩
  | halt _ => exact ⟨fun hc => hc, fun _ => rfl, fun _ hl _ => hl⟩
  | stop _ => exact ⟨fun hc => hc, fun _ => rfl, fun _ hl _ => hl⟩
  | _ => exact ⟨fun hc => hc, fun hs => hs, fun _ hl _ => hl⟩

/-- A series of deals. -/
abbrev Deals : Holdings → Holdings → Prop := ReflTransGen Deal

theorem Deals.onward {h h' : Holdings} (hd : Deals h h') : Onward h h' := by
  induction hd with
  | refl => exact .refl _
  | tail _ hd ih => exact ih.trans hd.onward

/-- A deal only adds to the record. -/
theorem Deal.grows {h h' : Holdings} (hd : Deal h h') : h.record <+: h'.record := by
  cases hd with
  | shut | halt => exact List.prefix_rfl
  | _ => exact List.prefix_append _ _

theorem Deals.grows {h h' : Holdings} (hd : Deals h h') : h.record <+: h'.record := by
  induction hd with
  | refl => exact List.prefix_rfl
  | tail _ hd ih => exact ih.trans hd.grows

theorem Deals.ledger {h h' : Holdings} (hd : Deals h h') (hl : Ledger h) : Ledger h' := by
  induction hd with
  | refl => exact hl
  | tail _ hd ih => exact hd.ledger ih

namespace Service

variable {W : Type} {env : Collaborators W} {s s' s'' : Service W} {k : Nat}

/-- The holdings of a service. -/
def holdings (s : Service W) : Holdings where
  live := s.hub.live
  closed := s.hub.closed
  opened := s.hub.opened
  accepted := s.listenersAdded
  running := s.shelf.running
  stopped := s.shelf.stopped
  created := s.shelf.created
  record := s.record

theorem holdings_note (o : Occurrence) :
    (s.note o).holdings = { s.holdings with record := s.holdings.record ++ [o] } := by
  rw [holdings, record_note]
  rfl

/-! ## What is known at a stage -/

/-- A connection that is still the one of the live session, unless the service has closed. -/
def Attached (s : Service W) (connection : Connection) : Prop :=
  s.hub.closed = false → s.hub.live.map LiveSession.connection = some connection

/-- A connection stays the one of the live session. -/
theorem Attached.deals {connection : Connection} (hc : s.Attached connection)
    (hd : Deals s.holdings s'.holdings) : s'.Attached connection := by
  have ho := hd.onward
  intro hclosed'
  -- a service that is still open was open before the turn, and has kept its session
  have hclosed : s.hub.closed = false := by
    rw [Bool.eq_false_iff]
    intro hc'
    rw [show s'.hub.closed = true from ho.closed hc'] at hclosed'
    cases hclosed'
  obtain ⟨live, hl, hlc⟩ := Option.map_eq_some_iff.mp (hc hclosed)
  rw [show s'.hub.live = some live from ho.live live hl hclosed', Option.map_some, hlc]

/-- Whoever opens a session, or gives one up, holds the slot, and the slot is empty. -/
def OpensAlone (s : Service W) (k : Nat) : Prop :=
  s.hub.lock.holder = some k ∧ s.hub.live = none ∧ s.hub.closed = false

/-- Whoever makes a plugin, or gives one up, holds the shelf, and the shelf is empty. -/
def MakesAlone (s : Service W) (k : Nat) : Prop :=
  s.shelf.lock.holder = some k ∧ s.shelf.running = none ∧ s.shelf.stopped = false

/-- What is known of a connect. -/
def ConnectSound (s : Service W) (k : Nat) : ConnectStage → Prop
  | .awaitingSlot => True
  | .opening _ => s.OpensAlone k
  | .abandoning _ _ _ => s.OpensAlone k

/-- What is known of a start. -/
def StartSound (s : Service W) (k : Nat) : PluginStartStage → Prop
  | .awaitingShelf => True
  | .creating _ => s.MakesAlone k
  | .undoing _ _ _ => s.MakesAlone k

/-- What is known of a teardown: the shelf, and then the slot, are in hand and shut. -/
def TeardownSound (s : Service W) (k : Nat) : TeardownStage → Prop
  | .stoppingPlugins .awaitingShelf => True
  | .stoppingPlugins (.stopping _ _) =>
      s.shelf.lock.holder = some k ∧ s.shelf.stopped = true
  | .closingConnection .awaitingSlot => s.shelf.stopped = true
  | .closingConnection (.closing _ _) =>
      s.shelf.stopped = true ∧ s.hub.lock.holder = some k ∧ s.hub.closed = true

/-- What is known of an activity. -/
def Sound (s : Service W) (k : Nat) : Activity → Prop
  | .scheduler (.tearingDown _ stage) => s.TeardownSound k stage
  | .shutdown (some stage) => s.TeardownSound k stage
  | .trigger _ (.connecting _ stage) => s.ConnectSound k stage
  | .trigger _ (.startingPlugins _ connection stage) =>
      s.StartSound k stage ∧ s.Attached connection
  | _ => True

/-- What is known of an activity is about the slot and the shelf. -/
theorem Sound.congr {j : Nat} {a : Activity} (h : s.Sound j a) (hhub : s'.hub = s.hub)
    (hshelf : s'.shelf = s.shelf) : s'.Sound j a := by
  unfold Sound TeardownSound ConnectSound StartSound OpensAlone MakesAlone Attached at h ⊢
  rw [hhub, hshelf]
  exact h

/-- Whether an activity does the work of a job, and deals with nobody. -/
def isWorker : Activity → Bool
  | .body _ _ _ _ => true
  | .reaper _ _ => true
  | .settlement _ _ _ => true
  | _ => false

theorem sound_of_isWorker {a : Activity} (ha : isWorker a = true) : s.Sound k a := by
  cases a with
  | body | reaper | settlement => trivial
  | _ => cases ha

theorem isOwn_of_isWorker {a : Activity} (ha : isWorker a = true) : isOwn a = true := by
  cases a with
  | body | reaper | settlement => rfl
  | _ => cases ha

/-! ## New activities -/

/-- Where a turn takes place: who is there, whether the host still is, and what no turn changes. -/
structure Scene where
  activities : List (Nat × Activity)
  /-- How many activities have been begun. -/
  begun : Nat
  released : Bool
  inboxOpen : Bool
  now : Nat
  config : ServiceConfig

/-- The scene of a service. -/
def scene (s : Service W) : Scene :=
  ⟨s.activities, s.begun, s.released, s.inboxOpen, s.now, s.config⟩

/-- The scene with one activity more. -/
def Scene.add (c : Scene) (a : Activity) : Scene :=
  { c with activities := c.activities ++ [(c.begun, a)], begun := c.begun + 1 }

/-- No two activities have one number, and the next number is free. -/
def Scene.Numbered (c : Scene) : Prop :=
  (c.activities.map Prod.fst).Nodup ∧ ∀ j a, (j, a) ∈ c.activities → j < c.begun

theorem Scene.Numbered.add {c : Scene} (h : c.Numbered) (a : Activity) : (c.add a).Numbered := by
  obtain ⟨hnodup, hlt⟩ := h
  have hfree : c.begun ∉ c.activities.map Prod.fst := by
    intro hn
    obtain ⟨⟨_, b⟩, hb, hj⟩ := List.mem_map.mp hn
    exact Nat.lt_irrefl _ (hj ▸ hlt _ b hb)
  constructor
  · rw [Scene.add, List.map_append, List.nodup_append]
    refine ⟨hnodup, by simp, ?_⟩
    rintro j hj i hi rfl
    obtain rfl : j = c.begun := List.mem_singleton.mp hi
    exact hfree hj
  · intro j b hb
    rcases List.mem_append.mp hb with hb | hb
    · exact Nat.lt_succ_of_lt (hlt j b hb)
    · cases List.mem_singleton.mp hb
      exact Nat.lt_succ_self _

/-- A number stands for one activity. -/
theorem Scene.Numbered.unique {c : Scene} (h : c.Numbered) {a b : Activity}
    (ha : (k, a) ∈ c.activities) (hb : (k, b) ∈ c.activities) : a = b := by
  have hnodup := h.1
  revert ha hb hnodup
  generalize c.activities = activities
  intro ha hb hnodup
  induction activities with
  | nil => cases ha
  | cons x rest ih =>
    obtain ⟨hx, hrest⟩ := List.nodup_cons.mp hnodup
    rcases List.mem_cons.mp ha with rfl | ha'
    · rcases List.mem_cons.mp hb with hb' | hb'
      · exact (congrArg Prod.snd hb').symm
      · exact absurd (List.mem_map_of_mem (f := Prod.fst) hb') hx
    · rcases List.mem_cons.mp hb with rfl | hb'
      · exact absurd (List.mem_map_of_mem (f := Prod.fst) ha') hx
      · exact ih ha' hb' hrest

theorem activity?_of_mem (h : s.scene.Numbered) {a : Activity} (ha : (k, a) ∈ s.activities) :
    s.activity? k = some a := by
  cases hf : s.activities.find? fun b => b.1 == k with
  | none => exact absurd (beq_self_eq_true k) (List.find?_eq_none.mp hf _ ha)
  | some b =>
    have hb : s.activity? k = some b.2 := by rw [activity?, hf, Option.map_some]
    rw [hb, h.unique ha (mem_of_activity? hb)]

/-- Activities that only work have joined. -/
inductive Joined (c : Scene) : Scene → Prop where
  | refl : Joined c c
  | join {c' : Scene} {a : Activity} : Joined c c' → isWorker a = true → Joined c (c'.add a)

namespace Joined

variable {c c' c'' : Scene}

theorem trans (h : Joined c c') (h' : Joined c' c'') : Joined c c'' := by
  induction h' with
  | refl => exact h
  | join _ ha ih => exact .join ih ha

/-- Whoever is there was there, or has joined as a worker. -/
theorem mem (h : Joined c c') {j : Nat} {a : Activity} (ha : (j, a) ∈ c'.activities) :
    (j, a) ∈ c.activities ∨ isWorker a = true := by
  induction h with
  | refl => exact .inl ha
  | join _ hb ih =>
    rcases List.mem_append.mp ha with ha | ha
    · exact ih ha
    · cases List.mem_singleton.mp ha
      exact .inr hb

theorem begun_le (h : Joined c c') : c.begun ≤ c'.begun := by
  induction h with
  | refl => exact Nat.le_refl _
  | join _ _ ih => exact Nat.le_succ_of_le ih

/-- Whoever has an old number was there before. -/
theorem mem_old (h : Joined c c') {j : Nat} {a : Activity} (ha : (j, a) ∈ c'.activities)
    (hj : j < c.begun) : (j, a) ∈ c.activities := by
  induction h with
  | refl => exact ha
  | join h _ ih =>
    rcases List.mem_append.mp ha with ha | ha
    · exact ih ha
    · cases List.mem_singleton.mp ha
      exact absurd hj (Nat.not_lt.mpr h.begun_le)

/-- Whoever was there still is. -/
theorem stays (h : Joined c c') {j : Nat} {a : Activity} (ha : (j, a) ∈ c.activities) :
    (j, a) ∈ c'.activities := by
  induction h with
  | refl => exact ha
  | join _ _ ih => exact List.mem_append_left _ ih

theorem numbered (h : Joined c c') (hc : c.Numbered) : c'.Numbered := by
  induction h with
  | refl => exact hc
  | join _ _ ih => exact ih.add _

theorem unchanged (h : Joined c c') :
    c'.released = c.released ∧ c'.inboxOpen = c.inboxOpen ∧ c'.now = c.now ∧
      c'.config = c.config := by
  induction h with
  | refl => exact ⟨rfl, rfl, rfl, rfl⟩
  | join _ _ ih => exact ih

end Joined

/-- An activity that goes on keeps its number. -/
theorem numbered_put {a : Activity} (h : s.scene.Numbered) : (s.put k a).scene.Numbered := by
  have hfst : (s.put k a).activities.map Prod.fst = s.activities.map Prod.fst := by
    rw [put, List.map_map]
    refine List.map_congr_left fun b _ => ?_
    simp only [Function.comp]
    split
    · rename_i hb
      exact (beq_iff_eq.mp hb).symm
    · rfl
  refine ⟨hfst ▸ h.1, fun j b hb => ?_⟩
  have hj : j ∈ s.activities.map Prod.fst := hfst ▸ List.mem_map_of_mem hb
  obtain ⟨⟨_, c⟩, hc, rfl⟩ := List.mem_map.mp hj
  exact h.2 _ c hc

theorem numbered_finish (h : s.scene.Numbered) : (s.finish k).scene.Numbered :=
  ⟨h.1.sublist (List.Sublist.map _ List.filter_sublist),
    fun j b hb => h.2 j b (mem_finish.mp hb).1⟩

/-- An activity stands alone under its number: it moves, or goes, and the others stay in
their places. -/
theorem activities_split (h : s.scene.Numbered) {a : Activity} (ha : (k, a) ∈ s.activities) :
    ∃ before after, s.activities = before ++ (k, a) :: after ∧
      (∀ b, (s.put k b).activities = before ++ (k, b) :: after) ∧
      (s.finish k).activities = before ++ after := by
  obtain ⟨before, after, he⟩ := List.append_of_mem ha
  have hnum := h.1
  simp only [scene, he, List.map_append, List.map_cons, List.nodup_append, List.nodup_cons,
    List.mem_cons] at hnum
  -- its number is on neither side of it
  obtain ⟨-, ⟨hafter, -⟩, hbefore⟩ := hnum
  have hleft : ∀ x ∈ before, (x.1 == k) = false := by
    intro x hx
    exact beq_eq_false_iff_ne.mpr (hbefore _ (List.mem_map_of_mem hx) _ (.inl rfl))
  have hright : ∀ x ∈ after, (x.1 == k) = false := by
    rintro ⟨j, b⟩ hx
    refine beq_eq_false_iff_ne.mpr ?_
    rintro rfl
    exact hafter (List.mem_map_of_mem (f := Prod.fst) hx)
  refine ⟨before, after, he, fun b => ?_, ?_⟩
  · have hsame : ∀ xs : List (Nat × Activity), (∀ x ∈ xs, (x.1 == k) = false) →
        (xs.map fun x => if x.1 == k then (k, b) else x) = xs := by
      intro xs hxs
      refine (List.map_congr_left fun x hx => ?_).trans (List.map_id xs)
      rw [hxs x hx]
      rfl
    rw [put, he, List.map_append, List.map_cons, hsame before hleft, hsame after hright,
      if_pos (beq_self_eq_true k)]
  · have hkept : ∀ xs : List (Nat × Activity), (∀ x ∈ xs, (x.1 == k) = false) →
        (xs.filter fun x => x.1 != k) = xs :=
      fun xs hxs => List.filter_eq_self.mpr fun x hx => by simp [bne, hxs x hx]
    simp [finish, he, hkept before hleft, hkept after hright]

/-! ## Who is at what -/

/-- What a function picks of the activities, in their order. -/
def gathered {α : Type} (f : Activity → Option α) (s : Service W) : List α :=
  s.activities.filterMap fun a => f a.2

section
variable {α : Type} {f : Activity → Option α} {x : α}

theorem mem_gathered : x ∈ s.gathered f ↔ ∃ j a, (j, a) ∈ s.activities ∧ f a = some x := by
  simp [gathered]

theorem gathered_begin {a : Activity} (ha : f a = none) :
    (s.begin a).gathered f = s.gathered f := by
  simp [gathered, begin, ha]

/-- Whoever is the same to the function after its move changes nothing. -/
theorem gathered_put {a : Activity} (hk : ∀ b, (k, b) ∈ s.activities → f b = f a) :
    (s.put k a).gathered f = s.gathered f := by
  rw [gathered, put, List.filterMap_map]
  refine List.filterMap_congr fun b hb => ?_
  obtain ⟨j, b⟩ := b
  by_cases hj : j = k
  · subst hj
    simp [hk b hb]
  · simp [hj]

theorem gathered_finish (hk : ∀ b, (k, b) ∈ s.activities → f b = none) :
    (s.finish k).gathered f = s.gathered f := by
  rw [gathered, finish, List.filterMap_filter]
  refine List.filterMap_congr fun b hb => ?_
  obtain ⟨j, b⟩ := b
  by_cases hj : j = k
  · subst hj
    simp [hk b hb]
  · simp [hj]

/-- Somebody comes to be picked. -/
theorem gathered_put_some (hn : s.scene.Numbered) {a b : Activity} (ha : (k, a) ∈ s.activities)
    (hnone : f a = none) (hb : f b = some x) :
    ((s.put k b).gathered f).Perm (x :: s.gathered f) := by
  obtain ⟨before, after, he, hput, -⟩ := activities_split hn ha
  simp only [gathered, hput b, he, List.filterMap_append, List.filterMap_cons, hnone, hb]
  exact List.perm_middle

/-- Whoever was picked is gone. -/
theorem gathered_finish_some (hn : s.scene.Numbered) {a : Activity} (ha : (k, a) ∈ s.activities)
    (hx : f a = some x) : (s.gathered f).Perm (x :: (s.finish k).gathered f) := by
  obtain ⟨before, after, he, -, hfinish⟩ := activities_split hn ha
  simp only [gathered, hfinish, he, List.filterMap_append, List.filterMap_cons, hx]
  exact List.perm_middle

/-- Whoever joins a turn is not picked if no worker is. -/
theorem gathered_joined (hf : ∀ a, isWorker a = true → f a = none) (hj : Joined s.scene s'.scene) :
    s'.gathered f = s.gathered f := by
  have hscene : ∀ c : Scene, Joined s.scene c →
      c.activities.filterMap (fun a => f a.2) = s.gathered f := by
    intro c hc
    induction hc with
    | refl => rfl
    | @join c a _ ha ih => simp [Scene.add, ih, hf a ha]
  exact hscene _ hj

section
variable (hf : ∀ a, isWorker a = true → f a = none) (hn : s.scene.Numbered)
  (hj : Joined s.scene s'.scene) {a b : Activity} (ha : (k, a) ∈ s.activities)
include hf hn hj ha

/-- Whoever moves at the end of its turn, and is the same to the function, changes nothing. -/
theorem gathered_turn_put (he : f a = f b) : (s'.put k b).gathered f = s.gathered f := by
  rw [gathered_put, gathered_joined hf hj]
  intro c hc
  rw [(hj.numbered hn).unique hc (hj.stays ha), he]

theorem gathered_turn_finish (he : f a = none) : (s'.finish k).gathered f = s.gathered f := by
  rw [gathered_finish, gathered_joined hf hj]
  intro c hc
  rw [(hj.numbered hn).unique hc (hj.stays ha), he]

end

end

/-! ## Turns -/

/-- A lock and what it guards are left alone while somebody else holds it. -/
structure Turn (k : Nat) (s s' : Service W) : Prop where
  deals : Deals s.holdings s'.holdings
  slot : ∀ j, j ≠ k → s.hub.lock.holder = some j →
    s'.hub.lock.holder = some j ∧ s'.hub.live = s.hub.live ∧ s'.hub.closed = s.hub.closed
  shelf : ∀ j, j ≠ k → s.shelf.lock.holder = some j →
    s'.shelf.lock.holder = some j ∧ s'.shelf.running = s.shelf.running ∧
      s'.shelf.stopped = s.shelf.stopped
  joined : Joined s.scene s'.scene

namespace Turn

theorem refl : Turn k s s where
  deals := .refl
  slot _ _ h := ⟨h, rfl, rfl⟩
  shelf _ _ h := ⟨h, rfl, rfl⟩
  joined := .refl

theorem trans (h : Turn k s s') (h' : Turn k s' s'') : Turn k s s'' where
  deals := ReflTransGen.trans h.deals h'.deals
  slot j hj hh := by
    obtain ⟨hh₁, hl₁, hc₁⟩ := h.slot j hj hh
    obtain ⟨hh₂, hl₂, hc₂⟩ := h'.slot j hj hh₁
    exact ⟨hh₂, hl₂.trans hl₁, hc₂.trans hc₁⟩
  shelf j hj hh := by
    obtain ⟨hh₁, hr₁, hs₁⟩ := h.shelf j hj hh
    obtain ⟨hh₂, hr₂, hs₂⟩ := h'.shelf j hj hh₁
    exact ⟨hh₂, hr₂.trans hr₁, hs₂.trans hs₁⟩
  joined := h.joined.trans h'.joined

/-- What touches neither the slot nor the shelf is a turn if it deals and begins nothing else. -/
theorem aside (hd : Deals s.holdings s'.holdings) (hhub : s'.hub = s.hub)
    (hshelf : s'.shelf = s.shelf) (hscene : s'.scene = s.scene) : Turn k s s' where
  deals := hd
  slot _ _ h := by rw [hhub]; exact ⟨h, rfl, rfl⟩
  shelf _ _ h := by rw [hshelf]; exact ⟨h, rfl, rfl⟩
  joined := hscene ▸ .refl

/-- With the slot in hand, anything goes that leaves the shelf alone. -/
theorem inSlot (hk : s.hub.lock.holder = some k) (hd : Deals s.holdings s'.holdings)
    (hshelf : s'.shelf = s.shelf) (hscene : s'.scene = s.scene) : Turn k s s' where
  deals := hd
  slot j hj h := absurd (Option.some.inj (h.symm.trans hk)) hj
  shelf _ _ h := by rw [hshelf]; exact ⟨h, rfl, rfl⟩
  joined := hscene ▸ .refl

/-- With the shelf in hand, anything goes that leaves the slot alone. -/
theorem inShelf (hk : s.shelf.lock.holder = some k) (hd : Deals s.holdings s'.holdings)
    (hhub : s'.hub = s.hub) (hscene : s'.scene = s.scene) : Turn k s s' where
  deals := hd
  slot _ _ h := by rw [hhub]; exact ⟨h, rfl, rfl⟩
  shelf j hj h := absurd (Option.some.inj (h.symm.trans hk)) hj
  joined := hscene ▸ .refl

theorem note {o : Occurrence} (ho : o.isDeal = false) : Turn k s (s.note o) :=
  .aside (.single (by rw [holdings_note]; exact .other ho)) rfl rfl rfl

/-- Noting what belongs to no deal prolongs a turn. -/
theorem noted {o : Occurrence} (h : Turn k s s') (ho : o.isDeal = false) : Turn k s (s'.note o) :=
  h.trans (.note ho)

/-- So does a line of the log. -/
theorem said {tag : String} {level : LogLevel} {message : String} (h : Turn k s s') :
    Turn k s (s'.say tag level message) :=
  h.trans (.aside .refl rfl rfl rfl)

/-- A worker that begins joins those who are there. -/
theorem begin {a : Activity} (ha : isWorker a = true) : Turn k s (s.begin a) where
  deals := .refl
  slot _ _ h := ⟨h, rfl, rfl⟩
  shelf _ _ h := ⟨h, rfl, rfl⟩
  joined := .join .refl ha

/-- A connection stays attached while others take their turns. -/
theorem attached (h : Turn k s s') {connection : Connection} (hc : s.Attached connection) :
    s'.Attached connection :=
  hc.deals h.deals

/-- **Nobody is disturbed by the turn of somebody else.** -/
theorem sound (h : Turn k s s') {j : Nat} (hj : j ≠ k) {a : Activity} (ha : s.Sound j a) :
    s'.Sound j a := by
  have ho := h.deals.onward
  -- what a stage knows of a lock's contents it knows because it holds the lock
  have hopens : s.OpensAlone j → s'.OpensAlone j := by
    rintro ⟨hh, hl, hc⟩
    obtain ⟨hh', hl', hc'⟩ := h.slot j hj hh
    exact ⟨hh', hl'.trans hl, hc'.trans hc⟩
  have hmakes : s.MakesAlone j → s'.MakesAlone j := by
    rintro ⟨hh, hr, hs⟩
    obtain ⟨hh', hr', hs'⟩ := h.shelf j hj hh
    exact ⟨hh', hr'.trans hr, hs'.trans hs⟩
  -- and what a teardown has shut stays shut, whoever holds the lock
  have hteardown : ∀ stage, s.TeardownSound j stage → s'.TeardownSound j stage := by
    intro stage hs
    cases stage with
    | stoppingPlugins stage =>
      cases stage with
      | awaitingShelf => trivial
      | stopping => exact ⟨(h.shelf j hj hs.1).1, ho.stopped hs.2⟩
    | closingConnection stage =>
      cases stage with
      | awaitingSlot => exact ho.stopped hs
      | closing => exact ⟨ho.stopped hs.1, (h.slot j hj hs.2.1).1, ho.closed hs.2.2⟩
  cases a with
  | scheduler stage =>
    cases stage with
    | listening => trivial
    | tearingDown reason stage => exact hteardown stage ha
  | shutdown stage =>
    cases stage with
    | none => trivial
    | some stage => exact hteardown stage ha
  | trigger m stage =>
    cases stage with
    | arriving => trivial
    | connecting trigger stage =>
      cases stage with
      | awaitingSlot => trivial
      | opening | abandoning => exact hopens ha
    | startingPlugins trigger connection stage =>
      refine ⟨?_, ?_⟩
      · cases stage with
        | awaitingShelf => trivial
        | creating | undoing => exact hmakes ha.1
      · exact h.attached ha.2
  | _ => trivial

end Turn

end Service

end PushWake
