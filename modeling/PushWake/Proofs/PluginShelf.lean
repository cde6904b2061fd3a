import PushWake.Proofs.DealTurns
import PushWake.Proofs.LockTurns

/-!
# The shelf of the plugins

What calls to start a plugin, to stop the plugins and for the plugin that runs do with the shelf in
hand: `ShelfTurn` lists it, and `shelfCounter_lawful` says that they do nothing else. A start of all
plugins that finds that none can be made leaves the shelf alone (`ShelfPass`).
-/

namespace PushWake.Service

variable {W : Type} {env : Collaborators W} {s s' : Service W} {k : Nat}

/-! ## What stands behind the shelf -/

/-- What the calls for plugins see of a service, and the record. -/
structure Rack where
  running : Option PluginHandle
  stopped : Bool
  /-- Whether plugins can be made at all. -/
  makes : Bool
  /-- How many plugins have been made. -/
  created : Nat
  /-- How many listeners have been accepted. -/
  accepted : Nat
  listeners : List Listener
  record : List Occurrence

/-- The rack of a service. -/
def rack (s : Service W) : Rack :=
  ⟨s.shelf.running, s.shelf.stopped, s.makesPlugins, s.shelf.created, s.listenersAdded, s.listeners,
    s.record⟩

/-- Whether an activity is a call for plugins. -/
def isShelfCall : Activity → Bool
  | .startPlugin _ _ _ none => true
  | .stopPlugins none => true
  | .handle false => true
  | _ => false

/-- How an activity stands to the shelf. -/
def shelfStance : Activity → Stance
  | .startPlugin _ _ _ none => .outside
  | .startPlugin _ _ _ (some .awaitingShelf) => .waits
  | .startPlugin _ _ _ (some _) => .inside
  | .stopPlugins none => .outside
  | .stopPlugins (some .awaitingShelf) => .waits
  | .stopPlugins (some _) => .inside
  | .handle true => .waits
  | _ => .outside

/-- What a call does with the shelf in hand. -/
inductive ShelfTurn (k : Nat) : Activity → Rack → Option Activity → Rack → Prop where
  /-- The plugins have been stopped. -/
  | refuse {v : Rack} {all : Bool} {connection : Connection} {configs : PluginConfigs}
      {stage : Option PluginStartStage} :
      shelfStance (.startPlugin all connection configs stage) ≠ .inside → v.stopped = true →
      ShelfTurn k (.startPlugin all connection configs stage) v none
        { v with record := v.record ++ [.answered k (startAnswer all none)] }
  /-- The plugin runs. -/
  | share {v : Rack} {all : Bool} {connection : Connection} {configs : PluginConfigs}
      {stage : Option PluginStartStage} {handle : PluginHandle} :
      shelfStance (.startPlugin all connection configs stage) ≠ .inside → v.stopped = false →
      v.running = some handle → ShelfTurn k (.startPlugin all connection configs stage) v none
        { v with record := v.record ++ [.answered k (startAnswer all (some handle))] }
  /-- There are no settings for a plugin, or nobody who makes one. -/
  | lack {v : Rack} {all : Bool} {connection : Connection} {configs : PluginConfigs}
      {stage : Option PluginStartStage} :
      shelfStance (.startPlugin all connection configs stage) ≠ .inside → v.stopped = false →
      v.running = none → configs.nwc = none ∨ v.makes = false →
      ShelfTurn k (.startPlugin all connection configs stage) v none
        { v with record := v.record ++ [.answered k (startAnswer all none)] }
  /-- A plugin is asked for. -/
  | order {v : Rack} {all : Bool} {connection : Connection} {configs : PluginConfigs}
      {stage : Option PluginStartStage} {config : NwcConfig}
      (call : Pending (Except PluginError Unit)) :
      shelfStance (.startPlugin all connection configs stage) ≠ .inside → v.stopped = false →
      v.running = none → configs.nwc = some config → v.makes = true →
      ShelfTurn k (.startPlugin all connection configs stage) v
        (some (.startPlugin all connection configs (some (.creating call))))
        { v with record := v.record ++ [.createPlugin connection config] }
  /-- None is made. -/
  | miss {v : Rack} {all : Bool} {connection : Connection} {configs : PluginConfigs}
      {call : Pending (Except PluginError Unit)} :
      ShelfTurn k (.startPlugin all connection configs (some (.creating call))) v none
        { v with record := v.record ++ [.answered k (startAnswer all none)] }
  /-- A plugin is made and kept. -/
  | keep {v : Rack} {all : Bool} {connection : Connection} {configs : PluginConfigs}
      {call : Pending (Except PluginError Unit)} :
      ShelfTurn k (.startPlugin all connection configs (some (.creating call))) v none { v with
        running := some ⟨v.created, connection, v.accepted⟩
        created := v.created + 1
        accepted := v.accepted + 1
        listeners := v.listeners ++ [⟨connection.session, v.accepted, .plugin v.created⟩]
        record := v.record ++ [.pluginCreated v.created connection.session,
          .addListener connection.session, .listenerAdded connection.session v.accepted,
          .answered k (startAnswer all (some ⟨v.created, connection, v.accepted⟩))] }
  /-- A plugin is made and the session refuses its listener. -/
  | discard {v : Rack} {all : Bool} {connection : Connection} {configs : PluginConfigs}
      {call : Pending (Except PluginError Unit)} (cause : SdkError)
      (call' : Pending (Except PluginError Unit)) :
      ShelfTurn k (.startPlugin all connection configs (some (.creating call))) v
        (some (.startPlugin all connection configs (some (.undoing v.created cause call'))))
          { v with
        created := v.created + 1
        record := v.record ++ [.pluginCreated v.created connection.session,
          .addListener connection.session, .stopPlugin v.created] }
  /-- The plugin without a listener has stopped. -/
  | discarded {v : Rack} {all : Bool} {connection : Connection} {configs : PluginConfigs}
      {plugin : Nat} {cause : SdkError} {call : Pending (Except PluginError Unit)} :
      ShelfTurn k (.startPlugin all connection configs (some (.undoing plugin cause call))) v none
        { v with record := v.record ++ [.answered k (startAnswer all none)] }
  /-- There is nothing to stop. -/
  | halt {v : Rack} {stage : Option PluginStopStage} :
      shelfStance (.stopPlugins stage) ≠ .inside → v.running = none →
      ShelfTurn k (.stopPlugins stage) v none { v with
        stopped := true
        record := v.record ++ [.answered k .pluginsStopped] }
  /-- The plugin is taken and stopped. -/
  | take {v : Rack} {stage : Option PluginStopStage} {handle : PluginHandle}
      (call : Pending (Except PluginError Unit)) (listeners : List Listener) :
      shelfStance (.stopPlugins stage) ≠ .inside → v.running = some handle →
      listeners ⊆ v.listeners →
      ShelfTurn k (.stopPlugins stage) v (some (.stopPlugins (some (.stopping handle call))))
        { v with
        running := none
        stopped := true
        listeners := listeners
        record := v.record ++ [.removeListener handle.connection.session handle.listener,
          .stopPlugin handle.plugin] }
  /-- The plugin that was taken has stopped. -/
  | taken {v : Rack} {handle : PluginHandle} {call : Pending (Except PluginError Unit)} :
      ShelfTurn k (.stopPlugins (some (.stopping handle call))) v none
        { v with record := v.record ++ [.answered k .pluginsStopped] }
  /-- Somebody looks. -/
  | look {v : Rack} {queued : Bool} :
      ShelfTurn k (.handle queued) v none
        { v with record := v.record ++ [.answered k (.plugin v.running)] }

/-- What a call does without asking for the shelf. -/
inductive ShelfPass (k : Nat) : Activity → Rack → Rack → Prop where
  /-- There are no plugins to start. -/
  | idle {v : Rack} {connection : Connection} {configs : PluginConfigs} :
      v.makes = false → ShelfPass k (.startPlugin true connection configs none) v
        { v with record := v.record ++ [.answered k (startAnswer true none)] }

/-- The shelf as a counter. -/
def shelfCounter : Counter W Rack where
  isCall := isShelfCall
  stance := shelfStance
  lock s := s.shelf.lock
  view := rack
  record v := v.record
  turn := ShelfTurn
  pass := ShelfPass

/-- What stands behind the shelf has nothing to do with who is on the way to it. -/
theorem shelfCounter_plain : (shelfCounter (W := W)).Plain where
  lock_bare _ _ _ := rfl
  lock_begin _ _ := rfl
  lock_wait _ _ := rfl
  lock_rouse _ _ := rfl
  lock_put _ _ _ := rfl
  lock_answer _ _ _ := rfl
  view_begin _ _ := rfl
  view_wait _ _ := rfl
  view_rouse _ _ := rfl
  view_put _ _ _ := rfl
  view_answer _ _ _ := rfl
  record_view _ := rfl

/-! ## Functions -/

/-- Whatever is noted is noted behind the shelf as well. -/
theorem note_rack (o : Occurrence) :
    (s.note o).rack = { s.rack with record := s.rack.record ++ [o] } := by
  rw [rack, record_note]
  rfl

/-- With the shelf in hand, a call has come to a stage where it keeps the shelf, or to its end,
where it has handed the shelf on. -/
abbrev InShelf {σ α : Type} (k : Nat) (a : Activity) (s : Service W) (stage : σ → Activity)
    (answer : α → CallAnswer) : Service W × Progress σ α → Prop :=
  shelfCounter.Brings k a s stage answer

section
variable {a : Activity} {σ α : Type} {stage : σ → Activity} {answer : α → CallAnswer}
  {t : Service W}

/-- A call keeps the shelf. -/
theorem inShelf_stay {st : σ} {v : Rack} (hlock : t.shelf.lock = s.shelf.lock)
    (hscene : t.scene = s.scene) (hrack : t.rack = v)
    (hturn : ShelfTurn k a s.rack (some (stage st)) v) :
    InShelf k a s stage answer (t, .waits st) := by
  cases hrack
  exact ⟨hlock, hscene, hturn⟩

/-- A call ends by handing the shelf on. -/
theorem inShelf_release {result : α} (hlock : t.shelf.lock = s.shelf.lock)
    (hscene : t.scene = s.scene) (hturn : ShelfTurn k a s.rack none
      { t.rack with record := t.rack.record ++ [.answered k (answer result)] }) :
    InShelf k a s stage answer (t.releaseShelf, .done result) := by
  have hrack : t.releaseShelf.rack = t.rack := by
    rw [releaseShelf]
    unfold wakeHolder
    split <;> rfl
  refine ⟨?_, ?_, ?_⟩
  · show t.releaseShelf.shelf.lock = _
    rw [releaseShelf, wakeHolder_shelf, hlock]
    rfl
  · rw [releaseShelf, wakeHolder_scene]
    exact hscene
  · show ShelfTurn k a s.rack none (t.releaseShelf.note _).rack
    rw [note_rack, hrack]
    exact hturn

end

section
variable {all : Bool} {connection : Connection} {configs : PluginConfigs}
  {call : Pending (Except PluginError Unit)}

/-- A start that gets the shelf takes one of its turns: it ends at once, or asks for a plugin. -/
theorem beginStart_inShelf {stage : Option PluginStartStage}
    (hstage : shelfStance (.startPlugin all connection configs stage) ≠ .inside) :
    InShelf k (.startPlugin all connection configs stage) s
      (fun st => .startPlugin all connection configs (some st)) (startAnswer all)
      (s.beginStart env connection configs) := by
  unfold beginStart
  split
  · rename_i hstopped
    exact inShelf_release rfl rfl (.refuse hstage hstopped)
  · rename_i hgoes
    have hgoes : s.shelf.stopped = false := Bool.eq_false_iff.mpr hgoes
    split
    · rename_i handle hrunning
      exact inShelf_release rfl rfl (.share hstage hgoes hrunning)
    · rename_i hrunning hconfig
      exact inShelf_release rfl rfl (.lack hstage hgoes hrunning (.inl hconfig))
    · rename_i config hrunning hconfig
      split
      · rename_i hmakes
        refine inShelf_stay rfl rfl ?_ (.order _ hstage hgoes hrunning hconfig hmakes)
        simp [rack, record, note, quote]
      · rename_i hmakes
        have hmakes : s.makesPlugins = false := Bool.eq_false_iff.mpr hmakes
        exact inShelf_release rfl rfl (.lack hstage hgoes hrunning (.inr hmakes))

/-- A plugin that was made is kept with its listener, or its stop is begun. -/
theorem afterCreate_inShelf (result : Except PluginError Unit) :
    InShelf k (.startPlugin all connection configs (some (.creating call))) s
      (fun st => .startPlugin all connection configs (some st)) (startAnswer all)
      (s.afterCreate env connection result) := by
  cases result with
  | error e => exact inShelf_release rfl rfl .miss
  | ok =>
    simp only [afterCreate]
    split
    · rename_i t l he
      obtain ⟨rfl, world, rfl⟩ := addListener_taken he
      have hkeep : ShelfTurn k (.startPlugin all connection configs (some (.creating call))) s.rack
        none _ := .keep
      refine inShelf_release rfl rfl ?_
      simpa [rack, record, note, say] using hkeep
    · rename_i t e he
      obtain ⟨world, rfl⟩ := addListener_refused he
      refine inShelf_stay rfl rfl ?_ (.discard e _)
      simp [rack, record, note, beginStop, ask, quote]

theorem afterUndo_inShelf {plugin : Nat} {cause : SdkError} (result : Except PluginError Unit) :
    InShelf k (.startPlugin all connection configs (some (.undoing plugin cause call))) s
      (fun st => .startPlugin all connection configs (some st)) (startAnswer all)
      (s.afterUndo cause result) := by
  cases result with
  | ok => exact inShelf_release rfl rfl .discarded
  | error e => exact inShelf_release rfl rfl .discarded

/-- A stop that gets the shelf finds nothing to stop, or begins to stop what runs. -/
theorem beginStopAll_inShelf {stage : Option PluginStopStage}
    (hstage : shelfStance (.stopPlugins stage) ≠ .inside) :
    InShelf k (.stopPlugins stage) s (fun st => .stopPlugins (some st)) (fun _ => .pluginsStopped)
      (s.beginStopAll env) := by
  unfold beginStopAll
  extract_lets shelf stopped shelf' left
  split
  · rename_i hrunning
    exact inShelf_release rfl rfl (.halt hstage hrunning)
  · rename_i handle hrunning
    split
    rename_i t removed he
    obtain ⟨world, listeners, hsubset, rfl⟩ := removeListener_asked he
    -- the plugin is stopped whether or not its listener could be removed
    cases removed with
    | ok =>
      refine inShelf_stay rfl rfl ?_ (.take _ listeners hstage hrunning hsubset)
      simp [rack, record, note, quote, left, shelf', stopped, shelf]
    | error e =>
      refine inShelf_stay rfl rfl ?_ (.take _ listeners hstage hrunning hsubset)
      simp [rack, record, note, quote, say, left, shelf', stopped, shelf]

theorem afterStop_inShelf {handle : PluginHandle} (result : Except PluginError Unit) :
    InShelf k (.stopPlugins (some (.stopping handle call))) s (fun st => .stopPlugins (some st))
      (fun _ => .pluginsStopped) (s.afterStop result) := by
  cases result with
  | ok => exact inShelf_release rfl rfl .taken
  | error e => exact inShelf_release rfl rfl .taken

end

/-! ## Steps -/

/-- A call that finds the shelf taken gets in line. -/
theorem uses_of_inLine {a b : Activity} (ha : shelfStance a = .outside)
    (hb : shelfStance b = .waits) (horigin : origin b = origin a) (htoil : toil b < toil a) :
    shelfCounter.Uses s k a ((s.requestShelf k).put k b) :=
  .queue ha hb horigin htoil rfl rfl rfl

/-- A start that goes on has the shelf, and takes a turn. -/
theorem resumeStart_inShelf {connection : Connection} {configs : PluginConfigs}
    {stage : PluginStartStage} {r : Service W × PluginStartProgress} (all : Bool)
    (hr : s.resumeStart env k connection configs stage = some r) :
    (shelfStance (.startPlugin all connection configs (some stage)) = .inside ∨
        s.shelf.lock.holder = some k) ∧
      InShelf k (.startPlugin all connection configs (some stage)) s
        (fun st => .startPlugin all connection configs (some st)) (startAnswer all) r := by
  cases stage with
  | awaitingShelf =>
    obtain ⟨hk, hr⟩ := Option.ite_none_right_eq_some.mp hr
    cases hr
    exact ⟨.inr (holder_of_holdsShelf hk), beginStart_inShelf nofun⟩
  | creating call =>
    obtain ⟨result, -, rfl⟩ := Option.map_eq_some_iff.mp hr
    exact ⟨.inl rfl, afterCreate_inShelf result⟩
  | undoing plugin cause call =>
    obtain ⟨result, -, rfl⟩ := Option.map_eq_some_iff.mp hr
    exact ⟨.inl rfl, afterUndo_inShelf result⟩

/-- So does a stop. -/
theorem resumeStop_inShelf {stage : PluginStopStage} {r : Service W × PluginStopProgress}
    (hr : s.resumeStop env k stage = some r) :
    (shelfStance (.stopPlugins (some stage)) = .inside ∨ s.shelf.lock.holder = some k) ∧
      InShelf k (.stopPlugins (some stage)) s (fun st => .stopPlugins (some st))
        (fun _ => .pluginsStopped) r := by
  cases stage with
  | awaitingShelf =>
    obtain ⟨hk, hr⟩ := Option.ite_none_right_eq_some.mp hr
    cases hr
    exact ⟨.inr (holder_of_holdsShelf hk), beginStopAll_inShelf nofun⟩
  | stopping handle call =>
    obtain ⟨result, -, rfl⟩ := Option.map_eq_some_iff.mp hr
    exact ⟨.inl rfl, afterStop_inShelf result⟩

/-- Every step of a start stands in line, takes a turn with the shelf in hand, or hands it on. -/
theorem startPlugin_uses {all : Bool} {connection : Connection} {configs : PluginConfigs}
    {stage : Option PluginStartStage}
    (hin : shelfStance (.startPlugin all connection configs stage) = .inside →
      s.shelf.lock.holder = some k)
    (h : s.act env k (.startPlugin all connection configs stage) = some s') :
    shelfCounter.Uses s k (.startPlugin all connection configs stage) s' := by
  obtain ⟨r, hr, rfl⟩ := Option.map_eq_some_iff.mp h
  match stage with
  | none =>
    -- a start of all plugins is a start of the one, where plugins are made
    have henter : shelfCounter.Uses s k (.startPlugin all connection configs none)
        (follow k (fun st => .startPlugin all connection configs (some st))
          (fun s running => s.answer k (startAnswer all running))
          (s.enterStart env k connection configs)) := by
      unfold enterStart
      extract_lets requested
      split
      · rename_i hk
        exact shelfCounter_plain.uses (t := requested) rfl rfl rfl
          (holder_of_holdsShelf hk) (beginStart_inShelf nofun)
      · exact uses_of_inLine rfl rfl rfl (Nat.lt_succ_self 3)
    obtain rfl := Option.some.inj hr
    cases all with
    | false => exact henter
    | true =>
      show shelfCounter.Uses s k _ (follow k _ _ (s.enterStartAll env k connection configs))
      unfold enterStartAll
      split
      · exact henter
      · rename_i hmakes
        have hmakes : s.makesPlugins = false := Bool.eq_false_iff.mpr hmakes
        have hidle : ShelfPass k (.startPlugin true connection configs none) s.rack _ :=
          .idle hmakes
        rw [← note_rack] at hidle
        exact .pass rfl hidle rfl rfl
  | some stage =>
    obtain ⟨hstands, hturn⟩ := resumeStart_inShelf all hr
    have hlock : s.shelf.lock =
        shelfCounter.asked s k (.startPlugin all connection configs (some stage)) := by
      cases stage <;> rfl
    exact shelfCounter_plain.uses hlock rfl rfl (hstands.elim hin id) hturn

/-- So does every step of a stop. -/
theorem stopPlugins_uses {stage : Option PluginStopStage}
    (hin : shelfStance (.stopPlugins stage) = .inside → s.shelf.lock.holder = some k)
    (h : s.act env k (.stopPlugins stage) = some s') :
    shelfCounter.Uses s k (.stopPlugins stage) s' := by
  obtain ⟨r, hr, rfl⟩ := Option.map_eq_some_iff.mp h
  match stage with
  | none =>
    obtain rfl := Option.some.inj hr
    unfold enterStop
    extract_lets requested
    split
    · rename_i hk
      exact shelfCounter_plain.uses (t := requested) rfl rfl rfl
        (holder_of_holdsShelf hk) (beginStopAll_inShelf nofun)
    · exact uses_of_inLine rfl rfl rfl (Nat.lt_succ_self 2)
  | some stage =>
    obtain ⟨hstands, hturn⟩ := resumeStop_inShelf hr
    have hlock : s.shelf.lock = shelfCounter.asked s k (.stopPlugins (some stage)) := by
      cases stage <;> rfl
    exact shelfCounter_plain.uses hlock rfl rfl (hstands.elim hin id) hturn

/-- Whoever looks what runs changes nothing. -/
theorem handle_uses {queued : Bool} (h : s.act env k (.handle queued) = some s') :
    shelfCounter.Uses s k (.handle queued) s' := by
  -- with the shelf in hand, whoever looks answers and hands it on
  have hlook : ∀ t : Service W, t.shelf.lock = shelfCounter.asked s k (.handle queued) →
      t.rack = s.rack → t.scene = s.scene → t.holdsShelf k = true →
      shelfCounter.Uses s k (.handle queued) (t.answerHandle k) := by
    intro t hlock hrack hscene hk
    have hturn : InShelf k (.handle queued) t Activity.handle CallAnswer.plugin
        (t.releaseShelf, .done t.shelf.running) :=
      inShelf_release rfl rfl .look
    exact shelfCounter_plain.uses hlock hrack hscene (holder_of_holdsShelf hk) hturn
  cases queued with
  | false =>
    have h : (if (s.requestShelf k).holdsShelf k then some ((s.requestShelf k).answerHandle k)
      else some ((s.requestShelf k).put k (.handle true))) = some s' := h
    split at h
    · rename_i hk
      cases h
      exact hlook _ rfl rfl rfl hk
    · cases h
      exact uses_of_inLine rfl rfl rfl (Nat.lt_succ_self 1)
  | true =>
    have h : (if s.holdsShelf k then some (s.answerHandle k) else none) = some s' := h
    obtain ⟨hk, h⟩ := Option.ite_none_right_eq_some.mp h
    cases h
    exact hlook _ rfl rfl rfl hk

theorem shelf_uses {a : Activity} (ha : isShelfCall (origin a) = true)
    (hin : shelfStance a = .inside → s.shelf.lock.holder = some k) (h : s.act env k a = some s') :
    shelfCounter.Uses s k a s' := by
  cases a with
  | startPlugin all connection configs stage => exact startPlugin_uses hin h
  | stopPlugins stage => exact stopPlugins_uses hin h
  | handle queued => exact handle_uses h
  | _ => cases ha

/-- Whoever has the shelf can go on when it is time: it waits for nobody but the collaborators. -/
theorem shelf_ready {a : Activity} (ha : isShelfCall (origin a) = true)
    (h : shelfStance a = .outside ∨ s.shelf.lock.holder = some k) :
    ∃ t s', (s.advanceTo t).act env k a = some s' := by
  have hgo : ∀ t, ((s.advanceTo t).act env k a).isSome = true →
      ∃ t s', (s.advanceTo t).act env k a = some s' :=
    fun t ht => ⟨t, Option.isSome_iff_exists.mp ht⟩
  have hholds : s.shelf.lock.holder = some k → (s.advanceTo 0).holdsShelf k = true :=
    fun hk => beq_iff_eq.mpr hk
  cases a with
  | startPlugin all connection configs stage =>
    rcases stage with _ | _ | call | ⟨plugin, cause, call⟩
    · exact hgo 0 rfl
    · have hk := hholds (h.resolve_left fun hout => by cases hout)
      exact hgo 0 (by simp [act, resumeStart, hk])
    · exact hgo call.due (by simp [act, resumeStart, result?_due])
    · exact hgo call.due (by simp [act, resumeStart, result?_due])
  | stopPlugins stage =>
    rcases stage with _ | _ | ⟨handle, call⟩
    · exact hgo 0 rfl
    · have hk := hholds (h.resolve_left fun hout => by cases hout)
      exact hgo 0 (by simp [act, resumeStop, hk])
    · exact hgo call.due (by simp [act, resumeStop, result?_due])
  -- whoever looks at the shelf waits for nothing but the lock
  | handle queued =>
    cases queued with
    | false =>
      refine hgo 0 ?_
      show (if ((s.advanceTo 0).requestShelf k).holdsShelf k then _ else _ : Option _).isSome = true
      split <;> rfl
    | true =>
      have hk := hholds (h.resolve_left fun hout => by cases hout)
      exact hgo 0 (by simp [act, hk])
  | _ => cases ha

/-! ## Turns -/

/-- Whoever is not inside yet has a longer way to go. -/
theorem toil_startPlugin {all : Bool} {connection : Connection} {configs : PluginConfigs}
    {stage : Option PluginStartStage}
    (h : shelfStance (.startPlugin all connection configs stage) ≠ .inside) :
    2 < toil (.startPlugin all connection configs stage) := by
  match stage with
  | none => exact (by decide : 2 < 4)
  | some .awaitingShelf => exact (by decide : 2 < 3)
  | some (.creating _) | some (.undoing _ _ _) => exact absurd rfl h

theorem toil_stopPlugins {stage : Option PluginStopStage}
    (h : shelfStance (.stopPlugins stage) ≠ .inside) : 1 < toil (.stopPlugins stage) := by
  match stage with
  | none => exact (by decide : 1 < 3)
  | some .awaitingShelf => exact (by decide : 1 < 2)
  | some (.stopping _ _) => exact absurd rfl h

/-- A turn that keeps the shelf leaves less to do. -/
theorem ShelfTurn.stays {a b : Activity} {v v' : Rack} (h : ShelfTurn k a v (some b) v') :
    shelfStance b = .inside ∧ origin b = origin a ∧ toil b < toil a ∧
      answers v'.record = answers v.record := by
  cases h with
  | order call hstage _ _ _ _ =>
    exact ⟨rfl, rfl, toil_startPlugin hstage, by rw [answers_append]; exact List.append_nil _⟩
  | discard cause call =>
    exact ⟨rfl, rfl, (by decide : 1 < 2), by rw [answers_append]; exact List.append_nil _⟩
  | take call listeners hstage _ _ =>
    exact ⟨rfl, rfl, toil_stopPlugins hstage, by rw [answers_append]; exact List.append_nil _⟩

theorem fits_startAnswer (all : Bool) (connection : Connection) (configs : PluginConfigs)
    (stage : Option PluginStartStage) (running : Option PluginHandle) :
    fits (origin (.startPlugin all connection configs stage)) (startAnswer all running) = true := by
  cases all <;> rfl

/-- A turn that hands the shelf on answers the call, as fits it. -/
theorem ShelfTurn.ends {a : Activity} {v v' : Rack} (h : ShelfTurn k a v none v') :
    ∃ answer, fits (origin a) answer = true ∧
      answers v'.record = answers v.record ++ [(k, answer)] := by
  cases h with
  | refuse | share | lack | miss | keep | discarded =>
    exact answers_snoc rfl (fits_startAnswer _ _ _ _ _)
  | halt | taken | look => exact answers_snoc rfl rfl

theorem ShelfPass.ends {a : Activity} {v v' : Rack} (h : ShelfPass k a v v') :
    ∃ answer, fits (origin a) answer = true ∧
      answers v'.record = answers v.record ++ [(k, answer)] := by
  cases h
  exact answers_snoc rfl rfl

/-- **Calls share the shelf lawfully**: what they do at once is what they do one after the other. -/
theorem shelfCounter_lawful : (shelfCounter (W := W)).Lawful env where
  toPlain := shelfCounter_plain
  isCall {a} ha := by
    cases a with
    | startPlugin all connection configs stage | stopPlugins stage =>
      cases stage with
      | none => exact ⟨rfl, rfl⟩
      | some => cases ha
    | handle queued =>
      cases queued with
      | false => exact ⟨rfl, rfl⟩
      | true => cases ha
    | _ => cases ha
  uses := shelf_uses
  ready := shelf_ready
  stays := ShelfTurn.stays
  ends h := h.elim ShelfTurn.ends ShelfPass.ends

end PushWake.Service
