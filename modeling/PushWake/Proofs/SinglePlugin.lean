import PushWake.Collaborators.Plan
import PushWake.Proofs.Holdings
import PushWake.Proofs.PluginShelf

/-!
# One plugin that runs

However many calls start plugins, stop them and look at once, one plugin runs at most, and none
after the first stop.
-/

namespace PushWake

namespace Service

variable {W : Type} {env : Collaborators W} {s s' : Service W} {k : Nat} {cs : List Activity}

/-! ## The rack and who is in the midst of something -/

/-- How the rack stands to the activity that keeps the shelf. -/
structure Rack.Sound (v : Rack) (p : Option (Nat × Activity)) : Prop where
  /-- Whoever makes or stops a plugin does so while none runs. -/
  alone : p ≠ none → v.running = none
  /-- Where no plugin can be made, nobody has anything to do. -/
  idle : v.makes = false → v.running = none ∧ p = none
  shut : v.stopped = true → v.running = none
  stops : ∀ k stage, p = some (k, .stopPlugins stage) → v.stopped = true
  starts : ∀ k all connection configs stage,
    p = some (k, .startPlugin all connection configs stage) → v.stopped = false
  /-- Nothing happens between the order for a plugin and its making. -/
  ordered : ∀ k all connection configs call,
    p = some (k, .startPlugin all connection configs (some (.creating call))) →
    ∃ before config, configs.nwc = some config ∧
      v.record = before ++ [.createPlugin connection config]

theorem Rack.Sound.rest {v : Rack} (hidle : v.makes = false → v.running = none)
    (hshut : v.stopped = true → v.running = none) : v.Sound none :=
  ⟨fun h => absurd rfl h, fun h => ⟨hidle h, rfl⟩, hshut, nofun, nofun, nofun⟩

theorem Rack.Sound.inside {v : Rack} {stance : Stance} {x : Nat × Activity}
    (h : v.Sound (if stance = .inside then some x else none)) (hin : stance = .inside) :
    v.running = none :=
  h.alone (Counter.midst_ne_none hin)

theorem Rack.Sound.makes_inside {v : Rack} {stance : Stance} {x : Nat × Activity}
    (h : v.Sound (if stance = .inside then some x else none)) (hin : stance = .inside) :
    v.makes ≠ false :=
  fun hm => Counter.midst_ne_none hin (h.idle hm).2

theorem shelf_sound : (shelfCounter (W := W)).Invariant fun _ v p => v.Sound p where
  start _ _ _ := .rest (fun _ => rfl) nofun
  call _ h := h
  turn := by
    intro cs k a b v v' _ h ht
    cases ht with
    | refuse hstage hstopped =>
      rw [shelfCounter, if_neg hstage] at h
      exact .rest (fun hm => (h.idle hm).1) h.shut
    | share hstage hgoes hrunning =>
      rw [shelfCounter, if_neg hstage] at h
      exact .rest (fun hm => (h.idle hm).1) h.shut
    | lack hstage hgoes hrunning _ => exact .rest (fun _ => hrunning) fun _ => hrunning
    | @order v all connection configs stage config call hstage hgoes hrunning hconfig hmakes =>
      refine ⟨fun _ => hrunning, fun hm => ?_, fun _ => hrunning, nofun,
        fun _ _ _ _ _ _ => hgoes, ?_⟩
      · rw [show v.makes = true from hmakes] at hm
        cases hm
      · intro j all' connection' configs' call' hp
        cases hp
        exact ⟨v.record, config, hconfig, rfl⟩
    | miss =>
      have hrunning := h.inside rfl
      exact .rest (fun _ => hrunning) fun _ => hrunning
    | keep =>
      have hgoes := h.starts _ _ _ _ _ rfl
      refine .rest (fun hm => absurd hm (h.makes_inside rfl)) fun hs => ?_
      rw [show v.stopped = true from hs] at hgoes
      cases hgoes
    | discard cause call =>
      have hrunning := h.inside rfl
      exact ⟨fun _ => hrunning, fun hm => absurd hm (h.makes_inside rfl), fun _ => hrunning, nofun,
        fun _ _ _ _ _ _ => h.starts _ _ _ _ _ rfl, nofun⟩
    | discarded =>
      have hrunning := h.inside rfl
      exact .rest (fun _ => hrunning) fun _ => hrunning
    | halt hstage hrunning => exact .rest (fun _ => hrunning) fun _ => hrunning
    | take call listeners hstage hrunning hsubset =>
      refine ⟨fun _ => rfl, fun hm => ?_, fun _ => rfl, fun _ _ _ => rfl, nofun, nofun⟩
      -- where something runs it could be made
      have hnone := (h.idle hm).1
      rw [hrunning] at hnone
      cases hnone
    | taken =>
      have hrunning := h.inside rfl
      exact .rest (fun _ => hrunning) fun _ => hrunning
    | @look _ queued =>
      have hstage : shelfStance (.handle queued) ≠ .inside := by cases queued <;> decide
      rw [shelfCounter, if_neg hstage] at h
      exact .rest (fun hm => (h.idle hm).1) h.shut
  pass := by
    intro cs k a v v' p _ h hpass
    cases hpass with
    | idle hm =>
      obtain ⟨hrunning, rfl⟩ := h.idle hm
      exact .rest (fun _ => hrunning) fun _ => hrunning

/-! ## Plugins -/

/-- Each plugin but the one that runs has been asked to stop once. -/
structure Rack.Balanced (v : Rack) : Prop where
  created : ∀ p n, .pluginCreated p n ∈ v.record → p < v.created
  held : ∀ handle, v.running = some handle → handle.plugin < v.created
  left : ∀ p, tally (isStopping p) v.record =
    if p < v.created ∧ v.running.map PluginHandle.plugin ≠ some p then 1 else 0

/-- What neither makes nor stops a plugin is nothing to the plugins. -/
theorem Rack.Balanced.append {v v' : Rack} {new : List Occurrence} (h : v.Balanced)
    (hrunning : v'.running = v.running) (hcreated : v'.created = v.created)
    (hrecord : v'.record = v.record ++ new)
    (hno : ∀ p n, .pluginCreated p n ∉ new ∧ tally (isStopping p) new = 0) : v'.Balanced where
  created p n hp := by
    rw [hrecord, List.mem_append] at hp
    rw [hcreated]
    exact h.created p n (hp.resolve_right (hno p n).1)
  held handle hh := by
    rw [hcreated]
    exact h.held handle (hrunning ▸ hh)
  left p := by
    rw [hrecord, tally_append, (hno p 0).2, hcreated, hrunning]
    exact h.left p

theorem shelf_balanced : (shelfCounter (W := W)).Invariant fun _ v p => v.Sound p ∧ v.Balanced := by
  refine shelf_sound.layer ?_ (fun _ h => h) ?_ ?_
  · intro config makesPlugins world
    refine ⟨fun p n hp => ?_, fun handle hh => ?_, fun p => ?_⟩
    · cases hp
    · cases hh
    · simp [shelfCounter, rack, bare, record]
  · intro cs k a b v v' _ hsound h ht
    cases ht with
    | refuse | share | lack | order | miss | discarded | halt | taken | look =>
      exact h.append rfl rfl rfl (by simp [isStopping])
    -- the plugin has the next number, and nothing has run since the last was stopped
    | @keep _ all connection configs call =>
      obtain ⟨hcreated, hheld, hleft⟩ := id h
      have hnone := hsound.inside rfl
      constructor
      · intro p n hp
        grind
      · intro handle hh
        grind
      · intro p
        simp [hleft, hnone, isStopping]
        grind
    -- a plugin whose listener is refused is made and asked to stop in one turn
    | @discard _ all connection configs call cause call' =>
      obtain ⟨hcreated, hheld, hleft⟩ := id h
      have hnone := hsound.inside rfl
      constructor
      · intro p n hp
        grind
      · intro handle hh
        grind
      · intro p
        simp [hleft, hnone, isStopping]
        grind
    | @take _ stage handle call listeners hstage hrunning hsubset =>
      obtain ⟨hcreated, hheld, hleft⟩ := id h
      have hlt := hheld handle hrunning
      constructor
      · intro p n hp
        grind
      · intro other hother
        cases hother
      · intro p
        simp [hleft, hrunning, isStopping]
        grind
  · intro cs k a v v' p _ _ h hpass
    cases hpass with
    | idle hm => exact h.append rfl rfl rfl (by simp [isStopping, startAnswer])

/-- Every plugin of a record has been asked to stop once. -/
def AllStopped (os : List Occurrence) : Prop :=
  ∀ p n, .pluginCreated p n ∈ os → tally (isStopping p) os = 1

theorem Rack.Balanced.all_stopped {v : Rack} (h : v.Balanced) (hrunning : v.running = none) :
    AllStopped v.record := by
  intro p n hp
  have hleft := h.left p
  rwa [if_pos ⟨h.created p n hp, by simp [hrunning]⟩] at hleft

/-! ## Answers -/

/-- The plugins that an answer hands out. -/
def handed : CallAnswer → List PluginHandle
  | .plugin handle => handle.toList
  | .plugins handles => handles
  | _ => []

@[simp] theorem handed_startAnswer (all : Bool) (running : Option PluginHandle) :
    handed (startAnswer all running) = running.toList := by
  cases all <;> rfl

/-- Neither an order for a plugin nor an answer. -/
def Quiet : Occurrence → Prop
  | .createPlugin _ _ => False
  | .answered _ _ => False
  | _ => True

/-- A call comes to its end: the answer shows the plugin that runs, which is the one that ran before
if there was one. -/
structure Rack.Shows (v : Rack) (k : Nat) (v' : Rack) (new : List Occurrence)
    (answer : CallAnswer) :
    Prop where
  record : v'.record = v.record ++ new ++ [.answered k answer]
  quiet : ∀ o ∈ new, Quiet o
  kept : ∀ handle, v.running = some handle → v'.running = some handle
  shows : handed answer = v'.running.toList

theorem Rack.Shows.at_once {v v' : Rack} {answer : CallAnswer}
    (hrecord : v'.record = v.record ++ [.answered k answer]) (hrunning : v'.running = v.running)
    (hshows : handed answer = v.running.toList) : v.Shows k v' [] answer :=
  ⟨by rw [hrecord, List.append_nil], nofun, fun _ h => hrunning.trans h, hrunning ▸ hshows⟩

/-- **Whoever is answered is shown what runs.** -/
theorem ShelfTurn.shows {a : Activity} {v v' : Rack}
    (hsound : v.Sound (if shelfStance a = .inside then some (k, a) else none))
    (h : ShelfTurn k a v none v') : ∃ new answer, v.Shows k v' new answer := by
  cases h with
  | refuse hstage hstopped => exact ⟨_, _, .at_once rfl rfl (by simp [hsound.shut hstopped])⟩
  | share hstage hgoes hrunning => exact ⟨_, _, .at_once rfl rfl (by simp [hrunning])⟩
  | lack hstage hgoes hrunning _ => exact ⟨_, _, .at_once rfl rfl (by simp [hrunning])⟩
  | miss | discarded => exact ⟨_, _, .at_once rfl rfl (by simp [hsound.inside rfl])⟩
  | taken => exact ⟨_, _, .at_once rfl rfl (by simp [hsound.inside rfl, handed])⟩
  | halt hstage hrunning => exact ⟨_, _, .at_once rfl rfl (by simp [hrunning, handed])⟩
  | look => exact ⟨_, _, .at_once rfl rfl rfl⟩
  | @keep _ all connection configs call =>
    refine ⟨[.pluginCreated v.created connection.session, .addListener connection.session,
      .listenerAdded connection.session v.accepted], _, by simp; rfl, by simp [Quiet], ?_, by simp⟩
    intro handle hrunning
    rw [hsound.inside rfl] at hrunning
    cases hrunning

theorem ShelfPass.shows {a : Activity} {v v' : Rack} {p : Option (Nat × Activity)}
    (hsound : v.Sound p) (h : ShelfPass k a v v') : ∃ new answer, v.Shows k v' new answer := by
  cases h with
  | idle hm => exact ⟨_, _, .at_once rfl rfl (by simp [(hsound.idle hm).1])⟩

/-- The latest answer shows what runs, and nobody is in the midst of anything then. -/
theorem shelf_latest : (shelfCounter (W := W)).Invariant fun _ v p => v.Sound p ∧
    ∀ k answer, v.record.getLast? = some (.answered k answer) →
      handed answer = v.running.toList ∧ p = none := by
  have hlast : ∀ {v v' : Rack} {i j : Nat} {new : List Occurrence} {answer answer' : CallAnswer},
      v.Shows i v' new answer → v'.record.getLast? = some (.answered j answer') →
      handed answer' = v'.running.toList := by
    intro v v' i j new answer answer' h he
    rw [h.record, List.getLast?_concat] at he
    cases he
    exact h.shows
  refine shelf_sound.layer (fun _ _ _ _ _ => nofun) (fun _ h => h) ?_ ?_
  · intro cs k a b v v' _ hsound _ ht j answer he
    cases b with
    | none =>
      obtain ⟨new, answer', hshows⟩ := ht.shows hsound
      exact ⟨hlast hshows he, rfl⟩
    | some b => cases ht <;> simp at he
  · intro cs k a v v' p _ hsound _ hpass j answer he
    obtain ⟨new, answer', hshows⟩ := hpass.shows hsound
    cases hpass with
    | idle hm => exact ⟨hlast hshows he, (hsound.idle hm).2⟩

/-! ## Answers in their order -/

/-- A plugin was handed out, and has not been asked to stop since. -/
def Entrusted (os : List Occurrence) (handle : PluginHandle) : Prop :=
  Unrevoked (fun o => ∃ k answer, o = .answered k answer ∧ handle ∈ handed answer)
    (.stopPlugin handle.plugin) os

/-- What is not an answer entrusts nothing. -/
theorem Entrusted.append {os new : List Occurrence} {handle : PluginHandle}
    (hnew : ∀ k answer, .answered k answer ∉ new) (h : Entrusted (os ++ new) handle) :
    Entrusted os handle ∧ .stopPlugin handle.plugin ∉ new := by
  refine Unrevoked.append ?_ h
  rintro o ho ⟨k, answer, rfl, -⟩
  exact hnew k answer ho

/-- What may happen on the shelf: a plugin is asked for when all plugins have been asked to stop;
and whoever is handed a plugin is handed the one that others have been handed before, if it has not
been asked to stop since. -/
def Seemly (os : List Occurrence) : Occurrence → Prop
  | .createPlugin _ _ => AllStopped os
  | .answered _ answer =>
    ∀ handle ∈ handed answer, ∀ handle', Entrusted os handle' → handle = handle'
  | _ => True

theorem Quiet.seemly {os : List Occurrence} {o : Occurrence} (h : Quiet o) : Seemly os o := by
  cases o <;> trivial

/-- A plugin that was handed out and has not been asked to stop since is the one that runs. -/
theorem shelf_entrusted : (shelfCounter (W := W)).Invariant fun _ v p =>
    (v.Sound p ∧ v.Balanced) ∧
      (∀ handle, Entrusted v.record handle → v.running = some handle) ∧
        Orderly Seemly v.record := by
  -- an answer that shows what runs keeps both: whoever was handed a plugin before was handed this
  -- one
  have hends : ∀ {v v' : Rack} {i : Nat} {new : List Occurrence} {answer : CallAnswer},
      v.Shows i v' new answer →
      (∀ handle, Entrusted v.record handle → v.running = some handle) ∧ Orderly Seemly v.record →
      (∀ handle, Entrusted v'.record handle → v'.running = some handle) ∧
        Orderly Seemly v'.record := by
    intro v v' i new answer hshows ⟨h, horderly⟩
    have hbefore : ∀ handle, Entrusted (v.record ++ new) handle → v'.running = some handle :=
      fun handle hh => hshows.kept handle (h handle (hh.append fun k a hin => hshows.quiet _ hin).1)
    rw [hshows.record]
    refine ⟨fun handle hh => ?_, ?_⟩
    · rcases Unrevoked.snoc hh with ⟨j, answer', he, hin⟩ | ⟨hh, -⟩
      · cases he
        rw [hshows.shows] at hin
        exact Option.mem_toList.mp hin
      · exact hbefore handle hh
    · refine (horderly.append fun o ho os => (hshows.quiet o ho).seemly).snoc ?_
      intro handle hin handle' hh'
      rw [hshows.shows] at hin
      have hcur := hbefore handle' hh'
      rw [Option.mem_toList.mp hin] at hcur
      exact Option.some.inj hcur
  refine shelf_balanced.layer ?_ (fun _ h => h) ?_ ?_
  · exact fun _ _ _ => ⟨fun _ h => absurd h Unrevoked.not_nil, .nil⟩
  · intro cs k a b v v' _ ⟨hsound, hbalanced⟩ h ht
    cases b with
    | none =>
      obtain ⟨new, answer, hshows⟩ := ht.shows hsound
      exact hends hshows h
    | some b =>
      cases ht with
      | order call hstage hgoes hrunning hconfig hmakes =>
        refine ⟨fun handle hh => h.1 handle (hh.append (by simp)).1, h.2.snoc ?_⟩
        exact hbalanced.all_stopped hrunning
      | discard cause call =>
        refine ⟨fun handle hh => h.1 handle (hh.append (by simp)).1, ?_⟩
        exact h.2.snoc₃ trivial trivial trivial
      -- what is taken down is entrusted to nobody from here on
      | take call listeners hstage hrunning hsubset =>
        refine ⟨fun handle hh => ?_, h.2.snoc₂ trivial trivial⟩
        obtain ⟨hh, hnot⟩ := hh.append (by simp)
        have hcur := h.1 handle hh
        rw [hrunning] at hcur
        cases hcur
        exact absurd (by simp) hnot
  · intro cs k a v v' p _ ⟨hsound, _⟩ h hpass
    obtain ⟨new, answer, hshows⟩ := hpass.shows hsound
    exact hends hshows h

/-! ## Where a plugin comes from -/

/-- A plugin was made by a start: of all that happened, in one piece, its making was ordered with
the settings of this call and for its connection, the plugin was made, its listener was offered and
accepted, and the call was answered with it. -/
def MadeBy (cs : List Activity) (os : List Occurrence) (k : Nat) (handle : PluginHandle) : Prop :=
  ∃ all configs config before after,
    cs[k]? = some (.startPlugin all handle.connection configs none) ∧ configs.nwc = some config ∧
    os = before ++ [.createPlugin handle.connection config,
      .pluginCreated handle.plugin handle.connection.session,
      .addListener handle.connection.session,
      .listenerAdded handle.connection.session handle.listener,
      .answered k (startAnswer all (some handle))] ++ after

theorem MadeBy.later {os : List Occurrence} {handle : PluginHandle} (h : MadeBy cs os k handle)
    (new : List Occurrence) : MadeBy cs (os ++ new) k handle := by
  obtain ⟨all, configs, config, before, after, hcall, hconfig, rfl⟩ := h
  exact ⟨all, configs, config, before, after ++ new, hcall, hconfig, by simp⟩

theorem MadeBy.call {os : List Occurrence} {handle : PluginHandle} (h : MadeBy cs os k handle)
    (a : Activity) : MadeBy (cs ++ [a]) os k handle := by
  obtain ⟨all, configs, config, before, after, hcall, hrest⟩ := h
  have hlt := (List.getElem?_eq_some_iff.mp hcall).1
  exact ⟨all, configs, config, before, after, (List.getElem?_append_left hlt).trans hcall, hrest⟩

/-- The listener of a plugin. -/
def listenerOf (handle : PluginHandle) : Listener :=
  ⟨handle.connection.session, handle.listener, .plugin handle.plugin⟩

/-- What runs was made by a start, and so was whatever has been handed out and whatever has a
listener. -/
structure Rack.Traced (cs : List Activity) (v : Rack) : Prop where
  running : ∀ handle, v.running = some handle → ∃ k, MadeBy cs v.record k handle
  handed : ∀ k answer handle, .answered k answer ∈ v.record → handle ∈ handed answer →
    ∃ j, MadeBy cs v.record j handle
  listeners : ∀ l ∈ v.listeners, ∃ k handle, MadeBy cs v.record k handle ∧ l = listenerOf handle

/-- Only what is new has to be traced. -/
theorem Rack.Traced.extend {v v' : Rack} {new : List Occurrence} (h : v.Traced cs)
    (hrecord : v'.record = v.record ++ new)
    (hrunning : ∀ handle, v'.running = some handle → v.running = some handle ∨
      ∃ j, MadeBy cs v'.record j handle)
    (hhanded : ∀ j answer handle, .answered j answer ∈ new → handle ∈ Service.handed answer →
      v'.running = some handle)
    (hlisteners : ∀ l ∈ v'.listeners, l ∈ v.listeners ∨
      ∃ j handle, MadeBy cs v'.record j handle ∧ l = listenerOf handle) : v'.Traced cs := by
  have hlater : ∀ {j handle}, MadeBy cs v.record j handle → MadeBy cs v'.record j handle :=
    fun hj => hrecord ▸ hj.later new
  have hruns : ∀ handle, v'.running = some handle → ∃ j, MadeBy cs v'.record j handle := by
    intro handle hh
    rcases hrunning handle hh with hh | hmade
    · obtain ⟨j, hj⟩ := h.running handle hh
      exact ⟨j, hlater hj⟩
    · exact hmade
  refine ⟨hruns, fun j answer handle hj hin => ?_, fun l hl => ?_⟩
  · rw [hrecord] at hj
    rcases List.mem_append.mp hj with hj | hj
    · obtain ⟨i, hi⟩ := h.handed j answer handle hj hin
      exact ⟨i, hlater hi⟩
    · exact hruns handle (hhanded j answer handle hj hin)
  · rcases hlisteners l hl with hl | hmade
    · obtain ⟨j, handle, hj, he⟩ := h.listeners l hl
      exact ⟨j, handle, hlater hj, he⟩
    · exact hmade

theorem Rack.Shows.handed {v v' : Rack} {new : List Occurrence} {answer answer' : CallAnswer}
    {j : Nat} {handle : PluginHandle} (h : v.Shows k v' new answer)
    (hj : .answered j answer' ∈ new ++ [.answered k answer]) (hin : handle ∈ handed answer') :
    v'.running = some handle := by
  have hj := (List.mem_append.mp hj).resolve_left (h.quiet _)
  cases List.mem_singleton.mp hj
  rw [h.shows] at hin
  exact Option.mem_toList.mp hin

theorem shelf_traced : (shelfCounter (W := W)).Invariant fun cs v p => v.Sound p ∧ v.Traced cs := by
  refine shelf_sound.layer (fun _ _ _ => ⟨nofun, nofun, nofun⟩) ?_ ?_ ?_
  · intro cs v p a h
    refine ⟨fun handle hh => ?_, fun j answer handle hj hin => ?_, fun l hl => ?_⟩
    · exact (h.running handle hh).imp fun _ hj => hj.call a
    · exact (h.handed j answer handle hj hin).imp fun _ hi => hi.call a
    · obtain ⟨j, handle, hj, he⟩ := h.listeners l hl
      exact ⟨j, handle, hj.call a, he⟩
  · intro cs k a b v v' horigin hsound h ht
    cases b with
    | none =>
      obtain ⟨new, answer, hshows⟩ := ht.shows hsound
      have hrecord := hshows.record.trans (List.append_assoc _ _ _)
      cases ht with
      | refuse | share | lack | miss | discarded | halt | taken | look =>
        exact h.extend hrecord (fun _ => .inl) (fun _ _ _ => hshows.handed) fun _ => .inl
      -- it was the call that keeps the plugin that had it made, with settings of its own
      | @keep _ all connection configs call =>
        obtain ⟨before, config, hconfig, hordered⟩ := hsound.ordered _ _ _ _ _ rfl
        have hmade : MadeBy cs _ k ⟨v.created, connection, v.accepted⟩ :=
          ⟨all, configs, config, before, [], horigin, hconfig, rfl⟩
        refine h.extend hrecord (fun handle hh => .inr ⟨k, ?_⟩) (fun _ _ _ => hshows.handed) ?_
        · cases hh
          simpa [hordered] using hmade
        · intro l hl
          refine (List.mem_append.mp hl).imp_right fun hl =>
            ⟨k, ⟨v.created, connection, v.accepted⟩, ?_, List.mem_singleton.mp hl⟩
          simpa [hordered] using hmade
    | some b =>
      cases ht with
      | order | discard =>
        exact h.extend rfl (fun _ => .inl) (fun _ _ _ hj => by simp at hj) fun _ => .inl
      | take call listeners hstage hrunning hsubset =>
        exact h.extend rfl nofun (fun _ _ _ hj => by simp at hj) fun _ hl => .inl (hsubset hl)
  · intro cs k a v v' p _ hsound h hpass
    obtain ⟨new, answer, hshows⟩ := hpass.shows hsound
    have hrecord := hshows.record.trans (List.append_assoc _ _ _)
    cases hpass with
    | idle => exact h.extend hrecord (fun _ => .inl) (fun _ _ _ => hshows.handed) fun _ => .inl

/-! ## Stopping -/

theorem startAnswer_ne {all : Bool} {running : Option PluginHandle} :
    .pluginsStopped ≠ startAnswer all running := by
  cases all <;> nofun

/-- A stop that was answered has stopped the plugins for good. -/
theorem shelf_ended : (shelfCounter (W := W)).Invariant fun _ v p => v.Sound p ∧
    ∀ k, .answered k .pluginsStopped ∈ v.record → v.stopped = true ∧ p = none := by
  refine shelf_sound.layer (fun _ _ _ _ h => by cases h) (fun _ h => h) ?_ ?_
  · intro cs k a b v v' _ hsound h ht j hj
    cases ht with
    | halt => exact ⟨rfl, rfl⟩
    | taken => exact ⟨hsound.stops _ _ rfl, rfl⟩
    | refuse | share | lack | miss | keep | discarded | look =>
      exact ⟨(h j (by simpa [startAnswer_ne] using hj)).1, rfl⟩
    | order call hstage hgoes hrunning hconfig hmakes =>
      have hstopped := (h j (by simpa using hj)).1
      rw [hgoes] at hstopped
      cases hstopped
    | discard cause call => exact absurd (h j (by simpa using hj)).2 (Counter.midst_ne_none rfl)
    | take call listeners hstage hrunning hsubset =>
      -- once they are stopped for good, there is nothing to take
      have hnone := hsound.shut (h j (by simpa using hj)).1
      rw [hrunning] at hnone
      cases hnone
  · intro cs k a v v' p _ hsound h hpass j hj
    cases hpass with
    | idle hm => exact h j (by simpa [startAnswer_ne] using hj)

/-- What may still happen once the plugins are stopped for good: calls are answered, and nobody is
handed a plugin. No plugin is asked for, nor is any session or plugin asked for anything. -/
def Barred : Occurrence → Prop
  | .answered _ answer => handed answer = []
  | _ => False

/-- Plugins that are stopped for good stay so. -/
theorem barred_later (h : CallRun env isShelfCall cs s) {cs' : List Activity}
    (hc : Calls env isShelfCall cs s cs' s') (hstopped : s.shelf.stopped = true) :
    s'.shelf.stopped = true ∧ ∃ new, s'.record = s.record ++ new ∧ ∀ o ∈ new, Barred o := by
  refine shelf_sound.latched shelfCounter_lawful (fun v => v.stopped = true) Barred ?_ ?_ h hc
    hstopped
  · intro cs k a b v v' _ hsound ht hv
    have hrunning := hsound.shut hv
    cases ht with
    | refuse => exact ⟨hv, _, rfl, by simp [Barred]⟩
    | halt => exact ⟨rfl, _, rfl, by simp [Barred, handed]⟩
    | taken => exact ⟨hv, _, rfl, by simp [Barred, handed]⟩
    | look => exact ⟨hv, _, rfl, by simp [Barred, handed, hrunning]⟩
    | share _ hgoes _ | lack _ hgoes _ _ | order _ _ hgoes _ _ _ =>
      rw [hv] at hgoes
      cases hgoes
    | miss | keep | discard | discarded =>
      have hgoes := hsound.starts _ _ _ _ _ rfl
      rw [hv] at hgoes
      cases hgoes
    | take _ _ _ hsome _ =>
      rw [hrunning] at hsome
      cases hsome
  · intro k a v v' hpass hv
    cases hpass with
    | idle hm => exact ⟨hv, _, rfl, by simp [Barred]⟩

/-! ## Starts that fail -/

/-- The record only grows. -/
theorem shelf_grows (h : CallRun env isShelfCall cs s) {cs' : List Activity}
    (hc : Calls env isShelfCall cs s cs' s') : ∃ new, s'.record = s.record ++ new := by
  have hgrows := shelf_sound.latched shelfCounter_lawful (fun _ => True) (fun _ => True) ?_ ?_ h hc
    trivial
  · exact hgrows.2.imp fun _ hnew => hnew.1
  · intro cs k a b v v' _ _ ht _
    cases ht <;> exact ⟨trivial, _, rfl, fun _ _ => trivial⟩
  · intro k a v v' hpass _
    cases hpass
    exact ⟨trivial, _, rfl, fun _ _ => trivial⟩

/-- A turn of a start leaves what runs as it is, unless the start succeeds. -/
theorem start_running (h : CallRun env isShelfCall cs s) (hs : s.step env k = some s') {all : Bool}
    {connection : Connection} {configs : PluginConfigs}
    (hcall : cs[k]? = some (.startPlugin all connection configs none)) :
    s'.shelf.running = s.shelf.running ∨
      ∃ handle, .answered k (startAnswer all (some handle)) ∈ s'.record := by
  have law : shelfCounter.Lawful env := shelfCounter_lawful
  have hleft : s'.rack.running = s.rack.running ∨
      ∃ handle, .answered k (startAnswer all (some handle)) ∈ s'.rack.record := by
    cases (law.order h).served law hs with
    | idle hview _ => exact .inl (congrArg Rack.running hview)
    | @turn a b horigin hbefore hturn hafter =>
      have hsame := horigin.symm.trans hcall
      have hturn : ShelfTurn k a s.rack b s'.rack := hturn
      generalize s'.rack = v' at hturn ⊢
      cases hturn with
      | refuse | share | lack | order | miss | discard | discarded | look => exact .inl rfl
      | keep =>
        cases hsame
        exact .inr ⟨⟨s.rack.created, connection, s.rack.accepted⟩, by simp⟩
      | halt | take | taken => cases hsame
    | pass _ hpass _ =>
      have hpass : ShelfPass k _ s.rack s'.rack := hpass
      generalize s'.rack = v' at hpass ⊢
      cases hpass
      exact .inl rfl
  exact hleft

/-- A start that comes back without a plugin has left what runs as it was, in each of its turns. -/
theorem failed_start_changes_nothing (h : CallRun env isShelfCall cs s)
    (hs : s.step env k = some s') {all : Bool} {connection : Connection} {configs : PluginConfigs}
    (hcall : cs[k]? = some (.startPlugin all connection configs none)) {cs' : List Activity}
    {s'' : Service W} (hc : Calls env isShelfCall cs s' cs' s'')
    (hfailed : .answered k (startAnswer all none) ∈ s''.record) :
    s'.shelf.running = s.shelf.running := by
  rcases start_running h hs hcall with hsame | ⟨handle, hanswer⟩
  · exact hsame
  · have h' := h.goOn (.act .refl hs)
    obtain ⟨new, he⟩ := shelf_grows h' hc
    have hanswer : .answered k (startAnswer all (some handle)) ∈ s''.record :=
      he ▸ List.mem_append_left _ hanswer
    have hone := (shelfCounter_lawful.order (h'.goOn hc)).once k _ _ (mem_answers.mpr hanswer)
      (mem_answers.mpr hfailed)
    cases all <;> cases hone

/-! ## One plugin -/

/-- **One plugin that runs.** Whatever calls start plugins, stop them and look at once, with
whatever connections and settings, in whatever order they take their turns, and whatever the makers,
the plugins and the sessions answer, and however late:

- there is at most one plugin that runs, is being made or is being stopped; all but the one that
  runs have been asked to stop once; and when a plugin is asked for, that is so of every plugin
  before;
- two calls that are handed a plugin are handed the same one, unless it was asked to stop in
  between; and it was made by a start, in one piece and with the settings of this start;
- whoever is answered is shown what runs, and nobody is in the midst of making or stopping a plugin
  then; so if it is nothing, every plugin so far has been asked to stop once and has done so or
  failed;
- a start that comes back without a plugin has left what runs as it was, and no listener is its;
- a call to stop that was answered has stopped the plugins for good; and from when they are stopped,
  which may be before the answer, none runs, each plugin that was ever made has been asked to stop
  once, and there is no more than calls that are answered and handed no plugin;
- every call comes back. -/
theorem one_plugin_runs (h : CallRun env isShelfCall cs s) :
    (s.shelf.running.toList.length +
      (s.activities.filter fun a => shelfStance a.2 == .inside).length ≤ 1 ∧
    (∀ p n, .pluginCreated p n ∈ s.record → tally (isStopping p) s.record =
      if s.shelf.running.map PluginHandle.plugin = some p then 0 else 1) ∧
    ∀ before connection config after,
      s.record = before ++ .createPlugin connection config :: after → AllStopped before) ∧
    ((∀ before j answer mid k answer' after handle handle',
      s.record = (before ++ .answered j answer :: mid) ++ .answered k answer' :: after →
      handle ∈ handed answer → handle' ∈ handed answer' → .stopPlugin handle.plugin ∉ mid →
      handle' = handle) ∧
    ∀ k answer handle, .answered k answer ∈ s.record → handle ∈ handed answer →
      ∃ j, MadeBy cs s.record j handle) ∧
    (∀ k answer, s.record.getLast? = some (.answered k answer) →
      handed answer = s.shelf.running.toList ∧ (handed answer = [] → AllStopped s.record) ∧
        ∀ j a, (j, a) ∈ s.activities → shelfStance a ≠ .inside) ∧
    ((∀ k all connection configs s' cs' s'',
      cs[k]? = some (.startPlugin all connection configs none) → s.step env k = some s' →
      Calls env isShelfCall cs s' cs' s'' → .answered k (startAnswer all none) ∈ s''.record →
      s'.shelf.running = s.shelf.running) ∧
    (∀ l ∈ s.listeners, ∃ k handle, MadeBy cs s.record k handle ∧ l = listenerOf handle) ∧
    ∀ k all, .answered k (startAnswer all none) ∈ s.record →
      ∀ handle, ¬MadeBy cs s.record k handle) ∧
    ((∀ k, .answered k .pluginsStopped ∈ s.record → s.shelf.stopped = true ∧
      ∀ j a, (j, a) ∈ s.activities → shelfStance a ≠ .inside) ∧
    (s.shelf.stopped = true → s.shelf.running = none ∧ AllStopped s.record ∧
      ∀ cs' s', Calls env isShelfCall cs s cs' s' → s'.shelf.stopped = true ∧
        ∃ new, s'.record = s.record ++ new ∧ ∀ o ∈ new, Barred o)) ∧
    ∀ k call, cs[k]? = some call → Inevitable env (fun s' =>
      ∃ answer, fits call answer = true ∧ .answered k answer ∈ s'.record) s := by
  have law : shelfCounter.Lawful env := shelfCounter_lawful
  have order := law.order h
  obtain ⟨⟨hsound, hbalanced⟩, hentrusted, hseemly⟩ := shelf_entrusted.holds law h
  have htraced := (shelf_traced.holds law h).2
  have hlatest := (shelf_latest.holds law h).2
  have hended := (shelf_ended.holds law h).2
  have hall : s.shelf.running = none → AllStopped s.record := hbalanced.all_stopped
  refine ⟨⟨?_, ?_, ?_⟩, ⟨?_, htraced.handed⟩, ?_, ⟨?_, htraced.listeners, ?_⟩, ⟨?_, ?_⟩, ?_⟩
  · have hfilter := order.filter_inside
    rw [show (s.activities.filter fun a => shelfStance a.2 == .inside) =
      (shelfCounter.midst s).toList from hfilter]
    cases hm : shelfCounter.midst s with
    | none => cases s.shelf.running <;> simp
    | some x =>
      -- whoever is in the midst of making or stopping a plugin has the shelf to itself
      have hrunning : s.shelf.running = none := hsound.alone (by simp [hm])
      simp [hrunning]
  · intro p n hp
    have hlt : p < s.shelf.created := hbalanced.created p n hp
    have hleft := hbalanced.left p
    by_cases hruns : s.shelf.running.map PluginHandle.plugin = some p
    · rw [if_pos hruns]
      rwa [if_neg fun hboth => hboth.2 hruns] at hleft
    · rw [if_neg hruns]
      rwa [if_pos ⟨hlt, hruns⟩] at hleft
  · exact fun before connection config after he => hseemly.was_allowed he
  · intro before j answer mid k answer' after handle handle' he hin hin' hmid
    exact hseemly.was_allowed he handle' hin' handle
      ⟨before, _, mid, rfl, ⟨j, answer, rfl, hin⟩, hmid⟩
  · intro k answer he
    obtain ⟨hshows, hmidst⟩ := hlatest k answer he
    refine ⟨hshows, fun hnone => hall ?_, Counter.midst_eq_none.mp hmidst⟩
    exact Option.toList_eq_nil_iff.mp (hshows.symm.trans hnone)
  · exact fun k all connection configs s' cs' s'' hcall hs hc hfailed =>
      failed_start_changes_nothing h hs hcall hc hfailed
  · rintro k all hfailed handle ⟨all', configs, config, before, after, -, -, he⟩
    have hanswer : .answered k (startAnswer all' (some handle)) ∈ s.record := by simp [he]
    -- the call would have been answered twice, with a plugin and without
    have hone := order.once k _ _ (mem_answers.mpr hanswer) (mem_answers.mpr hfailed)
    cases all <;> cases all' <;> cases hone
  · intro k hanswer
    obtain ⟨hstopped, hmidst⟩ := hended k hanswer
    exact ⟨hstopped, Counter.midst_eq_none.mp hmidst⟩
  · intro hstopped
    have hrunning : s.shelf.running = none := hsound.shut hstopped
    exact ⟨hrunning, hall hrunning, fun cs' s' hc => barred_later h hc hstopped⟩
  · intro k call hcall
    exact (law.answered_eventually h hcall).mono fun s' hs' => hs'.2

/-- Settings with one relay. -/
def relaySettings (url : String) : PluginConfigs := { nwc := some { relayUrls := [url] } }

/-- The first start makes a plugin whose listener is refused; the second one, for which the first
had to wait, makes another, which the third start and somebody who looks are handed too; then the
plugins are stopped, with one more start behind. Neither is the listener removed nor does any
plugin stop well. -/
def crowdedRun : Option (List Activity × Service Plan) :=
  perform Plan.collaborators isShelfCall
    [.call (.startPlugin false ⟨⟨0⟩, 0⟩ (relaySettings "wss://one") none), .turn 0,
      .call (.startPlugin true ⟨⟨0⟩, 0⟩ (relaySettings "wss://two") none), .turn 1, .wait 5,
        .turn 0,
      .wait 8, .turn 0, .turn 1,
      .call (.startPlugin false ⟨⟨1⟩, 1⟩ (relaySettings "wss://three") none), .turn 2,
      .call (.handle false), .turn 3, .wait 13, .turn 1, .turn 2, .turn 3,
      .call (.stopPlugins none), .turn 4,
      .call (.startPlugin false ⟨⟨1⟩, 1⟩ (relaySettings "wss://four") none), .turn 5, .wait 16,
      .turn 4, .turn 5]
    [] (bare {} true {
      addListener := [.error (.generic "refused")]
      removeListener := [.error (.generic "gone")]
      pluginStop := [.error (.start "stuck"), .error (.start "stuck")]
      delays := { pluginCreate := 5, pluginStop := 3 } })

/-- The two starts are handed one plugin, made with the settings of the first of them, and both
plugins have been asked to stop once in the end. -/
theorem crowded_run_shares_and_stops : ∃ (cs : List Activity) (s : Service Plan)
    (handle handle' : PluginHandle) (before mid after : List Occurrence),
    crowdedRun = some (cs, s) ∧
    s.record = (before ++ .answered 1 (.plugins [handle]) :: mid) ++
      .answered 2 (.plugin (some handle')) :: after ∧ handle' = handle ∧
    (∃ j, MadeBy cs s.record j handle) ∧ .pluginCreated 0 0 ∈ s.record ∧
    .pluginCreated 1 0 ∈ s.record ∧ AllStopped s.record ∧ s.shelf.running = none := by
  have hrun : crowdedRun.isSome = true := rfl
  have h : CallRun Plan.collaborators isShelfCall (crowdedRun.get hrun).1
      (crowdedRun.get hrun).2 :=
    ⟨_, _, _, calls_of_perform (Option.some_get hrun).symm⟩
  obtain ⟨-, ⟨hshare, hmade⟩, -, -, ⟨hended, hstopped⟩, -⟩ := one_plugin_runs h
  have hsplit : (crowdedRun.get hrun).2.record =
      ((crowdedRun.get hrun).2.record.take 9 ++
        .answered 1 (.plugins [⟨1, ⟨⟨0⟩, 0⟩, 0⟩]) :: []) ++
        .answered 2 (.plugin (some ⟨1, ⟨⟨0⟩, 0⟩, 0⟩)) ::
          (crowdedRun.get hrun).2.record.drop 11 := rfl
  have hdone : .answered 4 .pluginsStopped ∈ (crowdedRun.get hrun).2.record := by
    refine List.mem_of_getElem? (i := 14) ?_
    rfl
  have hfirst : .pluginCreated 0 0 ∈ (crowdedRun.get hrun).2.record := by
    refine List.mem_of_getElem? (i := 1) ?_
    rfl
  have hsecond : .pluginCreated 1 0 ∈ (crowdedRun.get hrun).2.record := by
    refine List.mem_of_getElem? (i := 6) ?_
    rfl
  obtain ⟨hnone, hall, -⟩ := hstopped (hended 4 hdone).1
  refine ⟨(crowdedRun.get hrun).1, (crowdedRun.get hrun).2, _, _, _, _, _,
    (Option.some_get hrun).symm, hsplit,
    hshare _ 1 _ [] 2 _ _ _ _ hsplit (List.mem_singleton_self _) (List.mem_singleton_self _) nofun,
    hmade 1 (.plugins [⟨1, ⟨⟨0⟩, 0⟩, 0⟩]) _ ?_ (List.mem_singleton_self _), hfirst, hsecond, hall,
    hnone⟩
  refine List.mem_of_getElem? (i := 9) ?_
  rfl

end Service

end PushWake
