import PushWake.Collaborators.Plan
import PushWake.Proofs.OneEnd
import PushWake.Proofs.Starts

/-!
# Who is in line when the end begins

A service that has begun to end takes no trigger, and turns away those that come out of a connect or
of a start. But whoever is in line for the slot or for the shelf by then stays in line, in front of
the teardown. If the one in front fails, the next in line finds a hub that is not closed yet, or
plugins that are not stopped yet, and makes its own attempt. So the end may still start something,
at most once for everybody in line; a move of an ending service starts nothing that does not shorten
a line (`Ebbs`), and nobody joins a line any more.
-/

namespace PushWake

/-! ## What is counted -/

namespace Occurrence

/-- Whether something is a load of the credentials. -/
def isLoad : Occurrence → Bool
  | .credentialsLoad => true
  | _ => false

/-- Whether something is a request for a session. -/
def asksSession : Occurrence → Bool
  | .openSession _ _ => true
  | _ => false

/-- Whether something is a request for a plugin. -/
def asksPlugin : Occurrence → Bool
  | .createPlugin _ _ => true
  | _ => false

end Occurrence

/-- Starts can be counted among the starts. -/
theorem tally_starts {p : Occurrence → Bool} (hp : ∀ o, p o = true → o.isStart = true)
    (os : List Occurrence) : tally p (starts os) = tally p os := by
  rw [tally, starts, List.countP_filter]
  refine List.countP_congr fun o _ => ?_
  simp only [Bool.and_eq_true, and_iff_left_iff_imp]
  exact hp o

theorem isStart_of_isLoad (o : Occurrence) (h : o.isLoad = true) : o.isStart = true := by
  cases o with
  | credentialsLoad => rfl
  | _ => cases h

theorem isStart_of_asksSession (o : Occurrence) (h : o.asksSession = true) : o.isStart = true := by
  cases o with
  | openSession => rfl
  | _ => cases h

theorem isStart_of_asksPlugin (o : Occurrence) (h : o.asksPlugin = true) : o.isStart = true := by
  cases o with
  | createPlugin => rfl
  | _ => cases h

/-- Whatever is started is one of the three. -/
theorem starts_eq_nil {os : List Occurrence} (hload : tally Occurrence.isLoad os = 0)
    (hsession : tally Occurrence.asksSession os = 0)
    (hplugin : tally Occurrence.asksPlugin os = 0) : starts os = [] := by
  rw [starts, List.filter_eq_nil_iff]
  intro o ho hstart
  rw [tally, List.countP_eq_zero] at hload hsession hplugin
  cases o with
  | credentialsLoad => exact hload _ ho rfl
  | openSession => exact hsession _ ho rfl
  | createPlugin => exact hplugin _ ho rfl
  | _ => cases hstart

/-- A plugin is kept until the plugins are stopped. -/
theorem Deals.running_kept {h h' : Holdings} (hd : Deals h h') {handle : PluginHandle}
    (hr : h.running = some handle) (hgoes : h'.stopped = false) : h'.running = some handle := by
  induction hd with
  | refl => exact hr
  | @tail h₁ h₂ _ hd ih =>
    have hgoes₁ : h₁.stopped = false := by
      rw [Bool.eq_false_iff]
      intro hs
      rw [hd.onward.stopped hs] at hgoes
      cases hgoes
    have hkept := ih hgoes₁
    cases hd with
    | create _ hnone _ _ => simp [hnone] at hkept
    | halt | stop => cases hgoes
    | _ => exact hkept

namespace Service

variable {W : Type} {env : Collaborators W} {s s' t u : Service W} {k : Nat}

/-! ## Lines -/

/-- The trigger that is in line for the slot. -/
def inSlotLine? : Activity → Option Trigger
  | .trigger _ (.connecting trigger .awaitingSlot) => some trigger
  | _ => none

/-- The trigger that is in line for the shelf. -/
def inShelfLine? : Activity → Option Trigger
  | .trigger _ (.startingPlugins trigger _ .awaitingShelf) => some trigger
  | _ => none

/-- The triggers that are in line for the slot. -/
def slotLine (s : Service W) : List Trigger := s.gathered inSlotLine?

/-- The triggers that are in line for the shelf. -/
def shelfLine (s : Service W) : List Trigger := s.gathered inShelfLine?

/-- Whether an activity waits for the wallet to open a session. -/
def isOpening : Activity → Bool
  | .trigger _ (.connecting _ (.opening _)) => true
  | _ => false

/-- Whether an activity waits for a plugin to be made. -/
def isMaking : Activity → Bool
  | .trigger _ (.startingPlugins _ _ (.creating _)) => true
  | _ => false

/-- Whether a trigger is in line at a stage. -/
def isInLine : TriggerStage → Bool
  | .connecting _ .awaitingSlot => true
  | .startingPlugins _ _ .awaitingShelf => true
  | _ => false

/-- A function that picks triggers only. -/
def PicksTriggers (f : Activity → Option Trigger) : Prop :=
  ∀ a, (∀ m stage, a ≠ .trigger m stage) → f a = none

theorem picksTriggers_inSlotLine? : PicksTriggers inSlotLine? := by
  intro a ha
  cases a with
  | trigger m stage => exact absurd rfl (ha m stage)
  | _ => rfl

theorem picksTriggers_inShelfLine? : PicksTriggers inShelfLine? := by
  intro a ha
  cases a with
  | trigger m stage => exact absurd rfl (ha m stage)
  | _ => rfl

theorem PicksTriggers.isWorker {f : Activity → Option Trigger} (hf : PicksTriggers f) (a : Activity)
    (ha : isWorker a = true) : f a = none := by
  refine hf a ?_
  rintro m stage rfl
  cases ha

section
variable {f : Activity → Option Trigger} (hf : PicksTriggers f) (hn : s.scene.Numbered)
  (hj : Joined s.scene t.scene) {a b : Activity} (ha : (k, a) ∈ s.activities)
include hf hn hj ha

/-- Whoever goes where nobody is picked leaves the line that it was in. -/
theorem length_gathered_put (hb : f b = none) :
    ((t.put k b).gathered f).length + (f a).toList.length = (s.gathered f).length := by
  rw [← gathered_joined hf.isWorker hj]
  obtain ⟨before, after, he, hput, -⟩ := activities_split (hj.numbered hn) (hj.stays ha)
  simp only [gathered, hput b, he, List.filterMap_append, List.filterMap_cons, hb]
  cases f a with
  | none => rfl
  | some x =>
    simp only [Option.toList_some, List.length_append, List.length_cons, List.length_nil]
    omega

theorem length_gathered_finish :
    ((t.finish k).gathered f).length + (f a).toList.length = (s.gathered f).length := by
  rw [← gathered_joined hf.isWorker hj]
  obtain ⟨before, after, he, -, hfinish⟩ := activities_split (hj.numbered hn) (hj.stays ha)
  simp only [gathered, hfinish, he, List.filterMap_append, List.filterMap_cons]
  cases f a with
  | none => rfl
  | some x =>
    simp only [Option.toList_some, List.length_append, List.length_cons, List.length_nil]
    omega

end

/-! ## Room for a session or a plugin -/

/-- There is no session, and one may be opened. -/
def Vacant (s : Service W) : Prop := s.hub.live = none ∧ s.hub.closed = false

/-- There is no plugin, and one may be made. -/
def Bare (s : Service W) : Prop := s.shelf.running = none ∧ s.shelf.stopped = false

/-- Where a session may be opened, it could be before: a session is kept until the hub is closed. -/
theorem Vacant.before (h : t.Vacant) (hd : Deals s.holdings t.holdings) : s.Vacant := by
  have ho := hd.onward
  obtain ⟨hlive, hopen⟩ := h
  refine ⟨?_, ?_⟩
  · cases hl : s.hub.live with
    | none => rfl
    | some live => exact absurd ((ho.live live hl hopen).symm.trans hlive) (by simp)
  · rw [Bool.eq_false_iff]
    intro hc
    exact absurd (ho.closed hc) (Bool.eq_false_iff.mp hopen)

theorem Bare.before (h : t.Bare) (hd : Deals s.holdings t.holdings) : s.Bare := by
  obtain ⟨hrunning, hgoes⟩ := h
  refine ⟨?_, ?_⟩
  · cases hr : s.shelf.running with
    | none => rfl
    | some handle => exact absurd ((hd.running_kept hr hgoes).symm.trans hrunning) (by simp)
  · rw [Bool.eq_false_iff]
    intro hs
    exact absurd (hd.onward.stopped hs) (Bool.eq_false_iff.mp hgoes)

/-! ## What a turn takes -/

/-- What is started from one point to another: sessions and plugins only where there are none. -/
structure Adds (s t : Service W) (new : List Occurrence) : Prop where
  added : starts t.record = starts s.record ++ new
  sessions : tally Occurrence.asksSession new ≤ tally Occurrence.isLoad new
  vacant : 0 < tally Occurrence.isLoad new → s.Vacant
  bare : 0 < tally Occurrence.asksPlugin new → s.Bare

/-- What an activity starts in its turn, in exchange for a place in line. -/
structure Takes (s : Service W) (a : Activity) (t : Service W) (new : List Occurrence) : Prop
    extends Adds s t new where
  slot : tally Occurrence.isLoad new ≤ (inSlotLine? a).toList.length
  shelf : tally Occurrence.asksPlugin new ≤ (inShelfLine? a).toList.length

/-- Things have been started, and the lines are shorter by as much. -/
structure Ebbs (s t : Service W) (new : List Occurrence) : Prop extends Adds s t new where
  slot : tally Occurrence.isLoad new + t.slotLine.length ≤ s.slotLine.length
  shelf : tally Occurrence.asksPlugin new + t.shelfLine.length ≤ s.shelfLine.length

variable {a b : Activity} {new new' : List Occurrence}

namespace Adds

theorem nothing (h : starts t.record = starts s.record) : Adds s t [] where
  added := h.trans (List.append_nil _).symm
  sessions := Nat.le_refl _
  vacant h := absurd h (Nat.lt_irrefl 0)
  bare h := absurd h (Nat.lt_irrefl 0)

/-- An attempt loads the credentials once, and asks for no plugin. -/
theorem attempt (h : starts t.record = starts s.record ++ new) (hvacant : s.Vacant)
    (hnew : Attempt new) :
    Adds s t new ∧ tally Occurrence.isLoad new = 1 ∧ tally Occurrence.asksPlugin new = 0 := by
  have hload : tally Occurrence.isLoad new = 1 := by cases hnew <;> rfl
  have hplugin : tally Occurrence.asksPlugin new = 0 := by cases hnew <;> rfl
  have hsession : tally Occurrence.asksSession new ≤ 1 := by
    cases hnew with
    | lack => exact Nat.zero_le _
    | ask => exact Nat.le_refl _
  refine ⟨⟨h, ?_, fun _ => hvacant, fun hpos => ?_⟩, hload, hplugin⟩
  · omega
  · omega

theorem order {connection : Connection} {config : NwcConfig}
    (h : starts t.record = starts s.record ++ [.createPlugin connection config])
    (hbare : s.Bare) : Adds s t [.createPlugin connection config] where
  added := h
  sessions := Nat.le_refl 0
  vacant hpos := absurd hpos (Nat.lt_irrefl 0)
  bare _ := hbare

theorem trans (h : Adds s t new) (h' : Adds t u new') (hd : Deals s.holdings t.holdings) :
    Adds s u (new ++ new') := by
  obtain ⟨hadded, hsessions, hvacant, hbare⟩ := h
  obtain ⟨hadded', hsessions', hvacant', hbare'⟩ := h'
  refine ⟨?_, ?_, ?_, ?_⟩
  · rw [hadded', hadded, List.append_assoc]
  · rw [tally_append, tally_append]
    omega
  · rw [tally_append]
    intro hpos
    rcases Nat.eq_zero_or_pos (tally Occurrence.isLoad new) with hz | hpos'
    · exact (hvacant' (by omega)).before hd
    · exact hvacant hpos'
  · rw [tally_append]
    intro hpos
    rcases Nat.eq_zero_or_pos (tally Occurrence.asksPlugin new) with hz | hpos'
    · exact (hbare' (by omega)).before hd
    · exact hbare hpos'

end Adds

theorem Takes.nothing (h : starts t.record = starts s.record) : Takes s a t [] :=
  ⟨.nothing h, Nat.zero_le _, Nat.zero_le _⟩

namespace Ebbs

/-- Nothing is started, and nobody comes or goes. -/
theorem still (h : starts t.record = starts s.record) (hslot : t.slotLine = s.slotLine)
    (hshelf : t.shelfLine = s.shelfLine) : Ebbs s t [] where
  toAdds := .nothing h
  slot := by rw [hslot, tally_nil, Nat.zero_add]
  shelf := by rw [hshelf, tally_nil, Nat.zero_add]

/-- Only workers join. -/
theorem joined (h : starts t.record = starts s.record) (hj : Joined s.scene t.scene) :
    Ebbs s t [] :=
  .still h (gathered_joined picksTriggers_inSlotLine?.isWorker hj)
    (gathered_joined picksTriggers_inShelfLine?.isWorker hj)

theorem trans (h : Ebbs s t new) (h' : Ebbs t u new') (hd : Deals s.holdings t.holdings) :
    Ebbs s u (new ++ new') := by
  have hslot := h.slot
  have hslot' := h'.slot
  have hshelf := h.shelf
  have hshelf' := h'.shelf
  refine ⟨h.toAdds.trans h'.toAdds hd, ?_, ?_⟩
  · rw [tally_append]
    omega
  · rw [tally_append]
    omega

/-- Whoever has taken something has left the lines, and at the end of its turn nothing more is
started. -/
theorem of_takes (h : Takes s a t new) (hu : starts u.record = starts t.record)
    (hslot : u.slotLine.length + (inSlotLine? a).toList.length = s.slotLine.length)
    (hshelf : u.shelfLine.length + (inShelfLine? a).toList.length = s.shelfLine.length) :
    Ebbs s u new := by
  obtain ⟨⟨hadded, hsessions, hvacant, hbare⟩, hplace, hplace'⟩ := h
  refine ⟨⟨hu.trans hadded, hsessions, hvacant, hbare⟩, ?_, ?_⟩
  · omega
  · omega

section
variable (h : Takes s a t new) (hn : s.scene.Numbered) (hj : Joined s.scene t.scene)
  (ha : (k, a) ∈ s.activities)
include h hn hj ha

theorem put (hb : inSlotLine? b = none) (hb' : inShelfLine? b = none) : Ebbs s (t.put k b) new :=
  of_takes h rfl (length_gathered_put picksTriggers_inSlotLine? hn hj ha hb)
    (length_gathered_put picksTriggers_inShelfLine? hn hj ha hb')

theorem finish : Ebbs s (t.finish k) new :=
  of_takes h rfl (length_gathered_finish picksTriggers_inSlotLine? hn hj ha)
    (length_gathered_finish picksTriggers_inShelfLine? hn hj ha)

theorem answer (c : CallAnswer) : Ebbs s (t.answer k c).cancelIfUnheld new := by
  have hj' : Joined (t.finish k).scene (t.answer k c).cancelIfUnheld.scene :=
    (answered_turn (k := k) c).joined
  have hslot : (t.answer k c).cancelIfUnheld.slotLine = (t.finish k).slotLine :=
    gathered_joined picksTriggers_inSlotLine?.isWorker hj'
  have hshelf : (t.answer k c).cancelIfUnheld.shelfLine = (t.finish k).shelfLine :=
    gathered_joined picksTriggers_inShelfLine?.isWorker hj'
  refine of_takes h (answer_starts c) ?_ ?_
  · rw [hslot]
    exact length_gathered_finish picksTriggers_inSlotLine? hn hj ha
  · rw [hshelf]
    exact length_gathered_finish picksTriggers_inShelfLine? hn hj ha

end

end Ebbs

/-! ## Turns of an ending service -/

theorem sessionStable_ending : SessionStable fun t : Service W => t.ending = true where
  quiet _ _ _ _ _ _ _ h := h
  draw h := h
  hub _ _ h := h
  note _ h := h

/-- A trigger that comes out of a connect of an ending service goes no further. -/
theorem afterConnect_ending (env : Collaborators W) (k : Nat) (trigger : Trigger)
    {r : Service W × ConnectProgress} (hending : r.1.ending = true) :
    starts (afterConnect env k trigger r).1.record = starts r.1.record ∧
      ∀ stage, (afterConnect env k trigger r).2 = .waits stage →
        ∃ st, r.2 = .waits st ∧ stage = .connecting trigger st := by
  obtain ⟨t, progress⟩ := r
  cases progress with
  | waits st =>
    refine ⟨rfl, fun stage hstage => ?_⟩
    cases hstage
    exact ⟨st, rfl, rfl⟩
  | done result =>
    cases result with
    | error e =>
      cases e with
      | closed =>
        refine ⟨rfl, fun stage hstage => ?_⟩
        cases hstage
      | credentials | missingCredentials | sdk | listener =>
        refine ⟨change_starts (s := t.say _ _ _) _, fun stage hstage => ?_⟩
        cases hstage
    | ok connection =>
      have hending : t.ending = true := hending
      simp only [afterConnect, hending, if_true]
      refine ⟨rfl, fun stage hstage => ?_⟩
      cases hstage

/-- A trigger that comes out of a start of an ending service goes no further. -/
theorem afterPlugins_ending (trigger : Trigger) (connection : Connection)
    {r : Service W × PluginStartProgress} (hending : r.1.ending = true) :
    starts (afterPlugins trigger connection r).1.record = starts r.1.record ∧
      ∀ stage, (afterPlugins trigger connection r).2 = .waits stage →
        ∃ st, r.2 = .waits st ∧ stage = .startingPlugins trigger connection st := by
  obtain ⟨t, progress⟩ := r
  cases progress with
  | waits st =>
    refine ⟨rfl, fun stage hstage => ?_⟩
    cases hstage
    exact ⟨st, rfl, rfl⟩
  | done running =>
    have hending : t.ending = true := hending
    simp only [afterPlugins, hending, if_true]
    refine ⟨rfl, fun stage hstage => ?_⟩
    cases hstage

/-- **A trigger of an ending service gets no further than its place in line lets it**, and is in no
line afterwards. -/
theorem resumeTrigger_ending (hending : s.ending = true) {m : TriggerMessage} {stage : TriggerStage}
    {r : Service W × TriggerProgress} (hr : s.resumeTrigger env k m stage = some r) :
    (∃ new, Takes s (.trigger m stage) r.1 new) ∧
      ∀ stage', r.2 = .waits stage' → isInLine stage' = false := by
  cases stage with
  | arriving =>
    cases hr
    simp only [enterTrigger, hending, if_true]
    refine ⟨⟨[], .nothing rfl⟩, fun stage' hstage => ?_⟩
    cases hstage
  | connecting trigger stage =>
    obtain ⟨c, hc, rfl⟩ := Option.map_eq_some_iff.mp hr
    have hending' : c.1.ending = true := sessionStable_ending.resumeConnect hc hending
    obtain ⟨hsame, hwaits⟩ := afterConnect_ending env k trigger hending'
    obtain ⟨⟨new, hnew, hstarts⟩, hout⟩ := resumeConnect_starts hc
    refine ⟨⟨new, ?_⟩, fun stage' hstage => ?_⟩
    -- either it was inside already, or it has just got the slot and finds no session
    · rcases hstarts with rfl | ⟨rfl, hopen, hlive, hattempt⟩
      · exact .nothing (hsame.trans (hnew.trans (List.append_nil _)))
      · obtain ⟨hadds, hload, hplugin⟩ := Adds.attempt (hsame.trans hnew) ⟨hlive, hopen⟩ hattempt
        exact ⟨hadds, Nat.le_of_eq hload, Nat.le_of_eq hplugin⟩
    · obtain ⟨st, hst, rfl⟩ := hwaits stage' hstage
      cases st with
      | awaitingSlot => exact absurd hst hout
      | opening | abandoning => rfl
  | startingPlugins trigger connection stage =>
    obtain ⟨p, hp, rfl⟩ := Option.map_eq_some_iff.mp hr
    have hending' : p.1.ending = true := sessionStable_ending.resumeStart hp hending
    obtain ⟨hsame, hwaits⟩ := afterPlugins_ending trigger connection hending'
    obtain ⟨⟨new, hnew, hstarts⟩, hout⟩ := resumeStart_starts hp
    refine ⟨⟨new, ?_⟩, fun stage' hstage => ?_⟩
    · rcases hstarts with rfl | ⟨rfl, hgoes, hrunning, config, rfl⟩
      · exact .nothing (hsame.trans (hnew.trans (List.append_nil _)))
      · have hadds : Adds s _ [.createPlugin connection config] :=
          .order (hsame.trans hnew) ⟨hrunning, hgoes⟩
        exact ⟨hadds, Nat.le_refl 0, Nat.le_refl 1⟩
    · obtain ⟨st, hst, rfl⟩ := hwaits stage' hstage
      cases st with
      | awaitingShelf => exact absurd hst hout
      | creating | undoing => rfl

theorem inLine?_of_not_isInLine {m : TriggerMessage} {stage : TriggerStage}
    (h : isInLine stage = false) :
    inSlotLine? (.trigger m stage) = none ∧ inShelfLine? (.trigger m stage) = none := by
  cases stage with
  | arriving => exact ⟨rfl, rfl⟩
  | connecting trigger stage =>
    cases stage with
    | awaitingSlot => cases h
    | opening | abandoning => exact ⟨rfl, rfl⟩
  | startingPlugins trigger connection stage =>
    cases stage with
    | awaitingShelf => cases h
    | creating | undoing => exact ⟨rfl, rfl⟩

/-! ## What is under way -/

theorem opensAlone_of_isOpening (hsane : Sane s) {a : Activity} (ha : (k, a) ∈ s.activities)
    (ho : isOpening a = true) : s.OpensAlone k := by
  have hsound := hsane.sound k a ha
  unfold isOpening at ho
  split at ho
  · exact hsound
  · cases ho

theorem makesAlone_of_isMaking (hsane : Sane s) {a : Activity} (ha : (k, a) ∈ s.activities)
    (hm : isMaking a = true) : s.MakesAlone k := by
  have hsound := hsane.sound k a ha
  unfold isMaking at hm
  split at hm
  · exact hsound.1
  · cases hm

/-! ## Moves of an ending service -/

section
variable (hsane : Sane s)
include hsane

theorem ebbs_trigger (hending : s.ending = true) {m : TriggerMessage} {stage : TriggerStage}
    {r : Service W × TriggerProgress} (ha : (k, .trigger m stage) ∈ s.activities)
    (hr : s.resumeTrigger env k m stage = some r) : ∃ new, Ebbs s (follow k (.trigger m)
      (fun s result => (s.answer k (.trigger result)).cancelIfUnheld) r) new := by
  have hj := (resumeTrigger_turn hsane.ledger (hsane.sound _ _ ha) hr).1.joined
  obtain ⟨⟨new, htakes⟩, hout⟩ := resumeTrigger_ending hending hr
  obtain ⟨t, progress⟩ := r
  cases progress with
  | waits stage' =>
    obtain ⟨hslot, hshelf⟩ := inLine?_of_not_isInLine (m := m) (hout stage' rfl)
    exact ⟨new, .put htakes hsane.numbered hj ha hslot hshelf⟩
  | done result => exact ⟨new, .answer htakes hsane.numbered hj ha _⟩

theorem ebbs_shutdown {stage : Option TeardownStage} {r : Service W × TeardownProgress}
    (ha : (k, .shutdown stage) ∈ s.activities) (hj : Joined s.scene r.1.scene)
    (hstarts : starts r.1.record = starts s.record) :
    Ebbs s (follow k (fun stage => .shutdown (some stage))
      (fun s _ => (s.answer k .shutDown).cancelIfUnheld) r) [] := by
  obtain ⟨t, progress⟩ := r
  cases progress with
  | waits stage => exact .put (.nothing hstarts) hsane.numbered hj ha rfl rfl
  | done => exact .answer (.nothing hstarts) hsane.numbered hj ha _

theorem ebbs_body {id : Identity} {completer : Nat} {connection : Connection} {stage : BodyStage}
    {r : Service W × BodyProgress} (ha : (k, .body id completer connection stage) ∈ s.activities)
    (hj : Joined s.scene r.1.scene) (hstarts : starts r.1.record = starts s.record) :
    Ebbs s (follow k (.body id completer connection) (fun s result => s.endBody k id result) r)
      [] := by
  obtain ⟨stage, -, he⟩ | ⟨result, log, -, he⟩ := followBody_eq k id completer connection r
  · rw [he]
    exact .put (.nothing hstarts) hsane.numbered hj ha rfl rfl
  · rw [he]
    exact .finish (t := { r.1 with log }) (.nothing hstarts) hsane.numbered hj ha

theorem ebbs_ownStep (hending : s.ending = true) (hs : OwnStep env s k s') :
    ∃ new, Ebbs s s' new := by
  have hn := hsane.numbered
  cases hs with
  | @scheduler stage r ha hr =>
    have ht := (resumeScheduler_turn (hsane.sound _ _ ha) hr).1
    have hstarts := resumeScheduler_starts hr
    obtain ⟨t, progress⟩ := r
    cases progress with
    | waits stage => exact ⟨[], .put (.nothing hstarts) hn ht.joined ha rfl rfl⟩
    | done =>
      have hgone : Ebbs s (t.finish k) [] := .finish (.nothing hstarts) hn ht.joined ha
      exact ⟨[], hgone.trans (.still rfl rfl rfl) ht.deals⟩
  -- a trigger alone may start something, and then it has come out of a line
  | trigger ha hr => exact ebbs_trigger hsane hending ha hr
  | enterShutdown ha =>
    exact ⟨[], ebbs_shutdown hsane ha enterShutdown_turn.1.joined enterShutdown_starts⟩
  | shutdown ha hr =>
    have hj := (resumeTeardown_turn (hsane.sound _ _ ha) hr).1.joined
    exact ⟨[], ebbs_shutdown hsane ha hj (resumeTeardown_starts hr)⟩
  | freshBody ha =>
    exact ⟨[], ebbs_body hsane ha (freshBody_turn (k := k) _ _ _).joined
      (workBlind_starts.stable.beginBody _ _ _ (change_starts _))⟩
  | @body id completer connection stage r ha hr =>
    have ht : Turn k s r.1 := workStable_turn.resumeBody hr .refl
    exact ⟨[], ebbs_body hsane ha ht.joined (workBlind_starts.stable.resumeBody hr rfl)⟩
  | @reaper id job completer outcome ha hc =>
    have ht : Turn k s (s.removeJob id outcome).1 := removeJob_turn id outcome
    exact ⟨[], .finish (.nothing (removeJob_starts id outcome)) hn ht.joined ha⟩
  | @settlement session due steps ha hdue =>
    have ht : Turn k s (settleLater env session s steps) := workStable_turn.settleLater _ _ .refl
    have hstarts : starts (settleLater env session s steps).record = starts s.record :=
      workBlind_starts.stable.settleLater session steps rfl
    exact ⟨[], .finish (.nothing hstarts) hn ht.joined ha⟩

/-- **A move of an ending service starts nothing that does not shorten a line.** -/
theorem ebbs_move (hending : s.ending = true) (hm : Move env s s') : ∃ new, Ebbs s s' new := by
  cases hm with
  | act hs => exact ebbs_ownStep hsane hending (ownStep_of_step hsane.own hs)
  | @call a ha _ =>
    have hnone : inSlotLine? a = none ∧ inShelfLine? a = none := by cases ha <;> exact ⟨rfl, rfl⟩
    exact ⟨[], .still rfl (gathered_begin hnone.1) (gathered_begin hnone.2)⟩
  | report session e =>
    have ht : Turn 0 s (s.emit env session e) := workStable_turn.emit session e .refl
    exact ⟨[], .joined (workBlind_starts.stable.emit session e rfl) ht.joined⟩
  | wait t => exact ⟨[], .still rfl rfl rfl⟩
  | release =>
    have hj : Joined { s with released := true }.scene s.release.scene :=
      (cancelIfUnheld_turn (k := 0)).joined
    have hstarts : starts s.release.record = starts s.record :=
      cancelIfUnheld_starts (s := { s with released := true })
    exact ⟨[], .still hstarts
      (gathered_joined (s := { s with released := true }) picksTriggers_inSlotLine?.isWorker hj)
      (gathered_joined (s := { s with released := true }) picksTriggers_inShelfLine?.isWorker hj)⟩
  | rouse wakes => exact ⟨[], .still rfl rfl rfl⟩

end

/-- From the beginning of the end on, the lines only get shorter, and nothing is started but in
exchange for a place in them. -/
theorem ebbs_later (h : Reachable env s) (hending : s.ending = true) (hl : Later env s s') :
    ∃ new, Ebbs s s' new := by
  induction hl with
  | refl => exact ⟨[], .still rfl rfl rfl⟩
  | move hl hm ih =>
    obtain ⟨new, hebbs⟩ := ih
    have hsane := sane_reachable (h.later hl)
    obtain ⟨new', hebbs'⟩ := ebbs_move hsane (over_later h hending hl).ending hm
    exact ⟨new ++ new', hebbs.trans hebbs' ((sane_reachable h).later hl).deals⟩

/-- **Only those in line start anything once the end has begun.** When a service begins to end, at
most one trigger waits for the wallet to open a session and at most one for a plugin to be made, and
of those in line each may still make its own attempt, once: nobody else loads credentials or asks
for a session or a plugin any more. Where there is a session already, or the hub is closed, nobody
makes an attempt at all, and so with the plugin; where nobody is in line, nothing is started. -/
theorem only_those_in_line_start (h : Reachable env s) (hending : s.ending = true)
    (hl : Later env s s') :
    (∀ i j a b, (i, a) ∈ s.activities → (j, b) ∈ s.activities →
      (isOpening a = true → isOpening b = true → i = j) ∧
        (isMaking a = true → isMaking b = true → i = j)) ∧
      ∃ os, s'.record = s.record ++ os ∧
        tally Occurrence.isLoad os ≤ s.slotLine.length ∧
        tally Occurrence.asksSession os ≤ tally Occurrence.isLoad os ∧
        tally Occurrence.asksPlugin os ≤ s.shelfLine.length ∧
        (s.hub.live.isSome = true ∨ s.hub.closed = true → tally Occurrence.isLoad os = 0) ∧
        (s.shelf.running.isSome = true ∨ s.shelf.stopped = true →
          tally Occurrence.asksPlugin os = 0) ∧
        (s.slotLine = [] → s.shelfLine = [] → starts os = []) := by
  have hsane := sane_reachable h
  refine ⟨fun i j a b ha hb => ⟨fun hopens hopens' => ?_, fun hmakes hmakes' => ?_⟩, ?_⟩
  · have hi := (opensAlone_of_isOpening hsane ha hopens).1
    have hj := (opensAlone_of_isOpening hsane hb hopens').1
    exact Option.some.inj (hi.symm.trans hj)
  · have hi := (makesAlone_of_isMaking hsane ha hmakes).1
    have hj := (makesAlone_of_isMaking hsane hb hmakes').1
    exact Option.some.inj (hi.symm.trans hj)
  · obtain ⟨new, hebbs⟩ := ebbs_later h hending hl
    obtain ⟨os, hos⟩ : s.record <+: s'.record := (hsane.later hl).deals.grows
    -- what was started since is among what happened since
    have hnew : starts os = new := by
      have hall : starts s.record ++ starts os = starts s.record ++ new := by
        rw [← starts_append, hos, hebbs.added]
      exact List.append_cancel_left hall
    have hload : tally Occurrence.isLoad os = tally Occurrence.isLoad new := by
      rw [← hnew, tally_starts isStart_of_isLoad]
    have hsession : tally Occurrence.asksSession os = tally Occurrence.asksSession new := by
      rw [← hnew, tally_starts isStart_of_asksSession]
    have hplugin : tally Occurrence.asksPlugin os = tally Occurrence.asksPlugin new := by
      rw [← hnew, tally_starts isStart_of_asksPlugin]
    have hslot := hebbs.slot
    have hsessions := hebbs.sessions
    have hshelf := hebbs.shelf
    refine ⟨os, hos.symm, by omega, by omega, by omega, ?_, ?_, ?_⟩
    · intro hvacant
      by_contra hne
      obtain ⟨hlive, hopen⟩ := hebbs.vacant (by omega)
      simp [hlive, hopen] at hvacant
    · intro hbare
      by_contra hne
      obtain ⟨hrunning, hgoes⟩ := hebbs.bare (by omega)
      simp [hrunning, hgoes] at hbare
    · intro hline hline'
      rw [hline, List.length_nil] at hslot
      rw [hline', List.length_nil] at hshelf
      exact starts_eq_nil (by omega) (by omega) (by omega)

/-- Two triggers, of which one waits for the wallet and the other for the slot, when the host ends
the service. -/
def crowdedEnd : Option (Service Plan) :=
  playFrom Plan.collaborators {} false
    { connect := [.error (.connect "down")], delays := { connect := 500 } }
    [.trigger swapMessage, .trigger swapMessage, .turn 1, .turn 2, .shutdown, .turn 3]

/-- The wallet fails the first trigger, and the second gets its turn. -/
def nextInLine : List Cue := [.wait 500, .turn 1, .turn 2]

/-- The second trigger loads the credentials and asks for a session, though the service is ending.
-/
theorem latecomer_starts_after_end : ¬∀ s s' : Service Plan, Reachable Plan.collaborators s →
    s.ending = true → Later Plan.collaborators s s' → starts s'.record = starts s.record := by
  intro hclaim
  have hrun : crowdedEnd.isSome = true := rfl
  have hnext : (play Plan.collaborators nextInLine (crowdedEnd.get hrun)).isSome = true := rfl
  have hsame := hclaim _ _ (reachable_of_playFrom (Option.some_get hrun).symm) rfl
    (later_of_play (Option.some_get hnext).symm)
  have hlength : 4 = 2 := congrArg List.length hsame
  cases hlength

/-- One was in line in that run, and one attempt is made. -/
theorem next_in_line_starts_once : ∃ (s s' : Service Plan) (os : List Occurrence),
    crowdedEnd = some s ∧ play Plan.collaborators nextInLine s = some s' ∧ s.ending = true ∧
      s.slotLine.length = 1 ∧ s'.record = s.record ++ os ∧ tally Occurrence.isLoad os = 1 ∧
      tally Occurrence.asksSession os ≤ 1 ∧ tally Occurrence.asksPlugin os = 0 := by
  have hrun : crowdedEnd.isSome = true := rfl
  have hnext : (play Plan.collaborators nextInLine (crowdedEnd.get hrun)).isSome = true := rfl
  have hline : (crowdedEnd.get hrun).slotLine.length = 1 := rfl
  have hshelf : (crowdedEnd.get hrun).shelfLine.length = 0 := rfl
  obtain ⟨-, os, hos, -, hsessions, hplugins, -⟩ :=
    only_those_in_line_start (reachable_of_playFrom (Option.some_get hrun).symm) rfl
      (later_of_play (Option.some_get hnext).symm)
  have hload : tally Occurrence.isLoad os = 1 := by
    have htotal : tally Occurrence.isLoad
        ((play Plan.collaborators nextInLine (crowdedEnd.get hrun)).get hnext).record = 2 := rfl
    have hbefore : tally Occurrence.isLoad (crowdedEnd.get hrun).record = 1 := rfl
    rw [hos, tally_append, hbefore] at htotal
    omega
  refine ⟨crowdedEnd.get hrun, (play Plan.collaborators nextInLine (crowdedEnd.get hrun)).get hnext,
    os, (Option.some_get hrun).symm, (Option.some_get hnext).symm, rfl, hline, hos, hload, ?_, ?_⟩
  · omega
  · omega

end Service

end PushWake
