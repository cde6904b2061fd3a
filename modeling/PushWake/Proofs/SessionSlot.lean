import PushWake.Proofs.DealTurns
import PushWake.Proofs.LockTurns

/-!
# The slot of the shared connection

What calls to connect, to disconnect and for the current connection do with the slot in hand:
`SlotTurn` lists it, and `slotCounter_lawful` says that they do nothing else.
-/

namespace PushWake.Service

variable {W : Type} {env : Collaborators W} {s s' : Service W} {k : Nat}

/-! ## What stands behind the slot -/

/-- What the calls for a connection see of a service, and the record. -/
structure Slate where
  live : Option LiveSession
  closed : Bool
  state : ConnectionState
  /-- How many sessions have been opened. -/
  opened : Nat
  /-- How many listeners have been accepted. -/
  accepted : Nat
  listeners : List Listener
  record : List Occurrence

/-- The slate of a service. -/
def slate (s : Service W) : Slate :=
  ⟨s.hub.live, s.hub.closed, s.hub.state, s.hub.opened, s.listenersAdded, s.listeners, s.record⟩

/-- Whether an activity is a call for the connection. -/
def isSlotCall : Activity → Bool
  | .connect _ _ none => true
  | .disconnect _ none => true
  | .current false => true
  | _ => false

/-- How an activity stands to the slot. -/
def slotStance : Activity → Stance
  | .connect _ _ none => .outside
  | .connect _ _ (some .awaitingSlot) => .waits
  | .connect _ _ (some _) => .inside
  | .disconnect _ none => .outside
  | .disconnect _ (some .awaitingSlot) => .waits
  | .disconnect _ (some _) => .inside
  | .current true => .waits
  | _ => .outside

/-- What a call does with the slot in hand. -/
inductive SlotTurn (k : Nat) : Activity → Slate → Option Activity → Slate → Prop where
  /-- A closed hub refuses. -/
  | refuse {v : Slate} {config : ConnectionConfig} {target : ListenerTarget}
      {stage : Option ConnectStage} : slotStance (.connect config target stage) ≠ .inside →
      v.closed = true → SlotTurn k (.connect config target stage) v none
        { v with record := v.record ++ [.answered k (.connect (.error .closed))] }
  /-- There is a session. -/
  | share {v : Slate} {config : ConnectionConfig} {target : ListenerTarget}
      {stage : Option ConnectStage} {live : LiveSession} :
      slotStance (.connect config target stage) ≠ .inside → v.closed = false →
      v.live = some live → SlotTurn k (.connect config target stage) v none
        { v with record := v.record ++ [.answered k (.connect (.ok live.connection))] }
  /-- There are no credentials. -/
  | lack {v : Slate} {config : ConnectionConfig} {target : ListenerTarget}
      {stage : Option ConnectStage} (e : ConnectionError) :
      slotStance (.connect config target stage) ≠ .inside → v.closed = false → v.live = none →
      SlotTurn k (.connect config target stage) v none { v with
        state := .disconnected
        record := v.record ++ [.credentialsLoad, .answered k (.connect (.error e))] }
  /-- The wallet is asked for a session. -/
  | ask {v : Slate} {config : ConnectionConfig} {target : ListenerTarget}
      {stage : Option ConnectStage} (credentials : Credentials)
      (call : Pending (Except SdkError Unit)) :
      slotStance (.connect config target stage) ≠ .inside → v.closed = false → v.live = none →
      SlotTurn k (.connect config target stage) v
        (some (.connect config target (some (.opening call)))) { v with
        state := .connecting
        record := v.record ++ [.credentialsLoad, .openSession config credentials] }
  /-- The wallet opens none. -/
  | miss {v : Slate} {config : ConnectionConfig} {target : ListenerTarget}
      {call : Pending (Except SdkError Unit)} (e : ConnectionError) :
      SlotTurn k (.connect config target (some (.opening call))) v none { v with
        state := .disconnected
        record := v.record ++ [.answered k (.connect (.error e))] }
  /-- A session is opened and kept. -/
  | keep {v : Slate} {config : ConnectionConfig} {target : ListenerTarget}
      {call : Pending (Except SdkError Unit)} (id : Identity) :
      SlotTurn k (.connect config target (some (.opening call))) v none { v with
        live := some ⟨⟨id, v.opened⟩, v.accepted⟩
        state := .connected
        opened := v.opened + 1
        accepted := v.accepted + 1
        listeners := v.listeners ++ [⟨v.opened, v.accepted, target⟩]
        record := v.record ++ [.sessionOpened v.opened, .addListener v.opened,
          .listenerAdded v.opened v.accepted, .answered k (.connect (.ok ⟨id, v.opened⟩))] }
  /-- A session is opened and refuses the listener. -/
  | abandon {v : Slate} {config : ConnectionConfig} {target : ListenerTarget}
      {call : Pending (Except SdkError Unit)} (cause : SdkError)
      (call' : Pending (Except SdkError Unit)) :
      SlotTurn k (.connect config target (some (.opening call))) v
        (some (.connect config target (some (.abandoning v.opened cause call')))) { v with
        opened := v.opened + 1
        record := v.record ++ [.sessionOpened v.opened, .addListener v.opened,
          .closeSession v.opened] }
  /-- The session that refused has disconnected. -/
  | abandoned {v : Slate} {config : ConnectionConfig} {target : ListenerTarget} {session : Nat}
      {cause : SdkError} {call : Pending (Except SdkError Unit)} (e : ConnectionError) :
      SlotTurn k (.connect config target (some (.abandoning session cause call))) v none { v with
        state := .disconnected
        record := v.record ++ [.answered k (.connect (.error e))] }
  /-- There is nothing to disconnect. -/
  | leave {v : Slate} {close : Bool} {stage : Option DisconnectStage} :
      slotStance (.disconnect close stage) ≠ .inside → v.live = none →
      SlotTurn k (.disconnect close stage) v none { v with
        closed := v.closed || close
        state := .disconnected
        record := v.record ++ [.answered k .disconnected] }
  /-- The session is taken and disconnected. -/
  | take {v : Slate} {close : Bool} {stage : Option DisconnectStage} {live : LiveSession}
      (call : Pending (Except SdkError Unit)) (listeners : List Listener) :
      slotStance (.disconnect close stage) ≠ .inside → v.live = some live →
      listeners ⊆ v.listeners → SlotTurn k (.disconnect close stage) v
        (some (.disconnect close (some (.closing live call)))) { v with
        live := none
        closed := v.closed || close
        listeners := listeners
        record := v.record ++ [.removeListener live.connection.session live.listener,
          .closeSession live.connection.session] }
  /-- The session that was taken has disconnected. -/
  | taken {v : Slate} {close : Bool} {live : LiveSession} {call : Pending (Except SdkError Unit)} :
      SlotTurn k (.disconnect close (some (.closing live call))) v none { v with
        state := .disconnected
        record := v.record ++ [.answered k .disconnected] }
  /-- Somebody looks. -/
  | look {v : Slate} {queued : Bool} :
      SlotTurn k (.current queued) v none { v with
        record := v.record ++ [.answered k (.current (v.live.map LiveSession.connection))] }

/-- The slot as a counter. -/
def slotCounter : Counter W Slate where
  isCall := isSlotCall
  stance := slotStance
  lock s := s.hub.lock
  view := slate
  record v := v.record
  turn := SlotTurn
  pass _ _ _ _ := False

/-- What stands behind the slot has nothing to do with who is on the way to it. -/
theorem slotCounter_plain : (slotCounter (W := W)).Plain where
  lock_bare _ _ _ := rfl
  lock_begin _ _ := rfl
  lock_wait _ _ := rfl
  lock_rouse _ _ := rfl
  lock_put _ _ _ := rfl
  lock_answer _ _ _ := rfl
  view_begin _ _ := rfl
  view_wait _ _ := rfl
  view_rouse _ _ := rfl
  view_put _ _ _ := rfl
  view_answer _ _ _ := rfl
  record_view _ := rfl

/-! ## Functions -/

/-- Whatever is noted is noted behind the slot as well. -/
theorem note_slate (o : Occurrence) :
    (s.note o).slate = { s.slate with record := s.slate.record ++ [o] } := by
  rw [slate, record_note]
  rfl

/-- With the slot in hand, a call has come to a stage where it keeps the slot, or to its end, where
it has handed the slot on. -/
abbrev InSlot {σ α : Type} (k : Nat) (a : Activity) (s : Service W) (stage : σ → Activity)
    (answer : α → CallAnswer) : Service W × Progress σ α → Prop :=
  slotCounter.Brings k a s stage answer

section
variable {a : Activity} {σ α : Type} {stage : σ → Activity} {answer : α → CallAnswer}
  {t : Service W}

/-- A call keeps the slot. -/
theorem inSlot_stay {st : σ} {v : Slate} (hlock : t.hub.lock = s.hub.lock)
    (hscene : t.scene = s.scene) (hslate : t.slate = v)
    (hturn : SlotTurn k a s.slate (some (stage st)) v) :
    InSlot k a s stage answer (t, .waits st) := by
  cases hslate
  exact ⟨hlock, hscene, hturn⟩

/-- A call ends by handing the slot on. -/
theorem inSlot_release {result : α} (hlock : t.hub.lock = s.hub.lock)
    (hscene : t.scene = s.scene) (hturn : SlotTurn k a s.slate none
      { t.slate with record := t.slate.record ++ [.answered k (answer result)] }) :
    InSlot k a s stage answer (t.releaseSlot, .done result) := by
  have hslate : t.releaseSlot.slate = t.slate := by
    rw [releaseSlot]
    unfold wakeHolder
    split <;> rfl
  refine ⟨?_, ?_, ?_⟩
  · show t.releaseSlot.hub.lock = _
    rw [releaseSlot, wakeHolder_hub, hlock]
    rfl
  · rw [releaseSlot, wakeHolder_scene]
    exact hscene
  · show SlotTurn k a s.slate none (t.releaseSlot.note _).slate
    rw [note_slate, hslate]
    exact hturn

end

/-- A connect that gets the slot takes one of its turns: it ends at once, or asks the wallet
for a session. -/
theorem beginConnect_inSlot {config : ConnectionConfig} {target : ListenerTarget}
    {stage : Option ConnectStage} (hstage : slotStance (.connect config target stage) ≠ .inside) :
    InSlot k (.connect config target stage) s (fun st => .connect config target (some st)) .connect
      (s.beginConnect env config) := by
  unfold beginConnect
  split
  · rename_i hclosed
    exact inSlot_release rfl rfl (.refuse hstage hclosed)
  · rename_i hopen
    have hopen : s.hub.closed = false := Bool.eq_false_iff.mpr hopen
    split
    · rename_i live hlive
      exact inSlot_release rfl rfl (.share hstage hopen hlive)
    · rename_i hlive
      extract_lets connecting said noted
      have hnoted : noted.slate = { s.slate with
          state := .connecting, record := s.slate.record ++ [.credentialsLoad] } := note_slate _
      split
      rename_i credentials world _
      extract_lets loaded
      -- credentials that are missing and credentials that cannot be loaded end a connect alike
      have hlack : ∀ e : ConnectionError, SlotTurn k (.connect config target stage) s.slate none
          { loaded.slate with
            state := .disconnected
            record := loaded.slate.record ++ [.answered k (.connect (.error e))] } := by
        intro e
        have hloaded : loaded.slate = noted.slate := rfl
        rw [hloaded, hnoted]
        simpa using SlotTurn.lack e hstage hopen hlive
      split
      · exact inSlot_release rfl rfl (hlack _)
      · exact inSlot_release rfl rfl (hlack _)
      · rename_i credentials _
        refine inSlot_stay rfl rfl ?_ (.ask credentials _ hstage hopen hlive)
        show (loaded.note (.openSession config credentials)).slate = _
        rw [note_slate, show loaded.slate = noted.slate from rfl, hnoted]
        simp

/-- A session that was opened is kept with its listener, or its end is begun. -/
theorem afterOpen_inSlot {config : ConnectionConfig} {target : ListenerTarget}
    {call : Pending (Except SdkError Unit)} (result : Except SdkError Unit) :
    InSlot k (.connect config target (some (.opening call))) s
      (fun st => .connect config target (some st)) .connect (s.afterOpen env target result) := by
  cases result with
  | error e => exact inSlot_release rfl rfl (.miss _)
  | ok =>
    simp only [afterOpen]
    split
    · rename_i t l he
      obtain ⟨rfl, world, rfl⟩ := addListener_taken he
      refine inSlot_release rfl rfl ?_
      have hkeep : SlotTurn k (.connect config target (some (.opening call))) s.slate none _ :=
        .keep ⟨s.drawn⟩
      simpa [slate, record, note, draw, say, setConnectionState] using hkeep
    · rename_i t e he
      obtain ⟨world, rfl⟩ := addListener_refused he
      refine inSlot_stay rfl rfl ?_ (.abandon e _)
      simp [slate, record, note, beginClose, ask, quote]

theorem afterAbandon_inSlot {config : ConnectionConfig} {target : ListenerTarget} {session : Nat}
    {cause : SdkError} {call : Pending (Except SdkError Unit)} (result : Except SdkError Unit) :
    InSlot k (.connect config target (some (.abandoning session cause call))) s
      (fun st => .connect config target (some st)) .connect (s.afterAbandon cause result) := by
  cases result with
  | ok => exact inSlot_release rfl rfl (.abandoned _)
  | error e => exact inSlot_release rfl rfl (.abandoned _)

/-- A disconnect that gets the slot finds no session, or begins to end the one there is. -/
theorem beginDisconnect_inSlot {close : Bool} {stage : Option DisconnectStage}
    (hstage : slotStance (.disconnect close stage) ≠ .inside) :
    InSlot k (.disconnect close stage) s (fun st => .disconnect close (some st))
      (fun _ => .disconnected) (s.beginDisconnect env close) := by
  unfold beginDisconnect
  extract_lets hub closed hub' left
  split
  · rename_i hlive
    exact inSlot_release rfl rfl (.leave hstage hlive)
  · rename_i live hlive
    split
    rename_i t removed he
    obtain ⟨world, listeners, hsubset, rfl⟩ := removeListener_asked he
    -- the session is disconnected whether or not its listener could be removed
    cases removed with
    | ok =>
      refine inSlot_stay rfl rfl ?_ (.take _ listeners hstage hlive hsubset)
      simp [slate, record, note, quote, left, hub', closed, hub]
    | error e =>
      refine inSlot_stay rfl rfl ?_ (.take _ listeners hstage hlive hsubset)
      simp [slate, record, note, quote, say, left, hub', closed, hub]

theorem afterClose_inSlot {close : Bool} {live : LiveSession}
    {call : Pending (Except SdkError Unit)} (result : Except SdkError Unit) :
    InSlot k (.disconnect close (some (.closing live call))) s
      (fun st => .disconnect close (some st)) (fun _ => .disconnected)
      (s.afterClose live result) := by
  cases result with
  | ok => exact inSlot_release rfl rfl .taken
  | error e => exact inSlot_release rfl rfl .taken

/-! ## Steps -/

/-- A call that finds the slot taken gets in line. -/
theorem uses_of_wait {b : Activity} (ha : slotStance a = .outside) (hb : slotStance b = .waits)
    (horigin : origin b = origin a) (htoil : toil b < toil a) :
    slotCounter.Uses s k a ((s.requestSlot k).put k b) :=
  .queue ha hb horigin htoil rfl rfl rfl

/-- A connect that goes on has the slot, and takes a turn. -/
theorem resumeConnect_inSlot {config : ConnectionConfig} {target : ListenerTarget}
    {stage : ConnectStage} {r : Service W × ConnectProgress}
    (hr : s.resumeConnect env k config target stage = some r) :
    (slotStance (.connect config target (some stage)) = .inside ∨ s.hub.lock.holder = some k) ∧
      InSlot k (.connect config target (some stage)) s
        (fun st => .connect config target (some st)) .connect r := by
  cases stage with
  | awaitingSlot =>
    obtain ⟨hk, hr⟩ := Option.ite_none_right_eq_some.mp hr
    cases hr
    exact ⟨.inr (holder_of_holdsSlot hk), beginConnect_inSlot nofun⟩
  | opening call =>
    obtain ⟨result, -, rfl⟩ := Option.map_eq_some_iff.mp hr
    exact ⟨.inl rfl, afterOpen_inSlot result⟩
  | abandoning session cause call =>
    obtain ⟨result, -, rfl⟩ := Option.map_eq_some_iff.mp hr
    exact ⟨.inl rfl, afterAbandon_inSlot result⟩

/-- So does a disconnect. -/
theorem resumeDisconnect_inSlot {close : Bool} {stage : DisconnectStage}
    {r : Service W × DisconnectProgress} (hr : s.resumeDisconnect env k close stage = some r) :
    (slotStance (.disconnect close (some stage)) = .inside ∨ s.hub.lock.holder = some k) ∧
      InSlot k (.disconnect close (some stage)) s (fun st => .disconnect close (some st))
        (fun _ => .disconnected) r := by
  cases stage with
  | awaitingSlot =>
    obtain ⟨hk, hr⟩ := Option.ite_none_right_eq_some.mp hr
    cases hr
    exact ⟨.inr (holder_of_holdsSlot hk), beginDisconnect_inSlot nofun⟩
  | closing live call =>
    obtain ⟨result, -, rfl⟩ := Option.map_eq_some_iff.mp hr
    exact ⟨.inl rfl, afterClose_inSlot result⟩

/-- Every step of a connect stands in line, takes a turn with the slot in hand, or hands it on. -/
theorem connect_uses {config : ConnectionConfig} {target : ListenerTarget}
    {stage : Option ConnectStage}
    (hin : slotStance (.connect config target stage) = .inside → s.hub.lock.holder = some k)
    (h : s.act env k (.connect config target stage) = some s') :
    slotCounter.Uses s k (.connect config target stage) s' := by
  obtain ⟨r, hr, rfl⟩ := Option.map_eq_some_iff.mp h
  match stage with
  -- whoever gets the slot at once takes its first turn in the same step
  | none =>
    obtain rfl := Option.some.inj hr
    unfold enterConnect
    extract_lets requested
    split
    · rename_i hk
      exact slotCounter_plain.uses (t := requested) rfl rfl rfl
        (holder_of_holdsSlot hk) (beginConnect_inSlot nofun)
    · exact uses_of_wait rfl rfl rfl (Nat.lt_succ_self 3)
  | some stage =>
    obtain ⟨hstands, hturn⟩ := resumeConnect_inSlot hr
    have hlock : s.hub.lock = slotCounter.asked s k (.connect config target (some stage)) := by
      cases stage <;> rfl
    exact slotCounter_plain.uses hlock rfl rfl (hstands.elim hin id) hturn

/-- So does every step of a disconnect. -/
theorem disconnect_uses {close : Bool} {stage : Option DisconnectStage}
    (hin : slotStance (.disconnect close stage) = .inside → s.hub.lock.holder = some k)
    (h : s.act env k (.disconnect close stage) = some s') :
    slotCounter.Uses s k (.disconnect close stage) s' := by
  obtain ⟨r, hr, rfl⟩ := Option.map_eq_some_iff.mp h
  match stage with
  | none =>
    obtain rfl := Option.some.inj hr
    unfold enterDisconnect
    extract_lets requested
    split
    · rename_i hk
      exact slotCounter_plain.uses (t := requested) rfl rfl rfl
        (holder_of_holdsSlot hk) (beginDisconnect_inSlot nofun)
    · exact uses_of_wait rfl rfl rfl (Nat.lt_succ_self 2)
  | some stage =>
    obtain ⟨hstands, hturn⟩ := resumeDisconnect_inSlot hr
    have hlock : s.hub.lock = slotCounter.asked s k (.disconnect close (some stage)) := by
      cases stage <;> rfl
    exact slotCounter_plain.uses hlock rfl rfl (hstands.elim hin id) hturn

/-- Whoever looks at the connection changes nothing. -/
theorem current_uses {queued : Bool} (h : s.act env k (.current queued) = some s') :
    slotCounter.Uses s k (.current queued) s' := by
  -- with the slot in hand, whoever looks answers and hands it on
  have hlook : ∀ t : Service W, t.hub.lock = slotCounter.asked s k (.current queued) →
      t.slate = s.slate → t.scene = s.scene → t.holdsSlot k = true →
      slotCounter.Uses s k (.current queued) (t.answerCurrent k) := by
    intro t hlock hslate hscene hk
    have hturn : InSlot k (.current queued) t Activity.current CallAnswer.current
        (t.releaseSlot, .done (t.hub.live.map LiveSession.connection)) :=
      inSlot_release rfl rfl .look
    exact slotCounter_plain.uses hlock hslate hscene (holder_of_holdsSlot hk) hturn
  cases queued with
  | false =>
    have h : (if (s.requestSlot k).holdsSlot k then some ((s.requestSlot k).answerCurrent k)
      else some ((s.requestSlot k).put k (.current true))) = some s' := h
    split at h
    · rename_i hk
      cases h
      exact hlook _ rfl rfl rfl hk
    · cases h
      exact uses_of_wait rfl rfl rfl (Nat.lt_succ_self 1)
  | true =>
    have h : (if s.holdsSlot k then some (s.answerCurrent k) else none) = some s' := h
    obtain ⟨hk, h⟩ := Option.ite_none_right_eq_some.mp h
    cases h
    exact hlook _ rfl rfl rfl hk

theorem slot_uses {a : Activity} (ha : isSlotCall (origin a) = true)
    (hin : slotStance a = .inside → s.hub.lock.holder = some k) (h : s.act env k a = some s') :
    slotCounter.Uses s k a s' := by
  cases a with
  | connect config target stage => exact connect_uses hin h
  | disconnect close stage => exact disconnect_uses hin h
  | current queued => exact current_uses h
  | _ => cases ha

/-- Whoever has the slot can go on when it is time: it waits for nobody but the collaborators. -/
theorem slot_ready {a : Activity} (ha : isSlotCall (origin a) = true)
    (h : slotStance a = .outside ∨ s.hub.lock.holder = some k) :
    ∃ t s', (s.advanceTo t).act env k a = some s' := by
  have hgo : ∀ t, ((s.advanceTo t).act env k a).isSome = true →
      ∃ t s', (s.advanceTo t).act env k a = some s' :=
    fun t ht => ⟨t, Option.isSome_iff_exists.mp ht⟩
  have hholds : s.hub.lock.holder = some k → (s.advanceTo 0).holdsSlot k = true :=
    fun hk => beq_iff_eq.mpr hk
  cases a with
  | connect config target stage =>
    rcases stage with _ | _ | call | ⟨session, cause, call⟩
    · exact hgo 0 rfl
    · have hk := hholds (h.resolve_left fun hout => by cases hout)
      exact hgo 0 (by simp [act, resumeConnect, hk])
    · exact hgo call.due (by simp [act, resumeConnect, result?_due])
    · exact hgo call.due (by simp [act, resumeConnect, result?_due])
  | disconnect close stage =>
    rcases stage with _ | _ | ⟨live, call⟩
    · exact hgo 0 rfl
    · have hk := hholds (h.resolve_left fun hout => by cases hout)
      exact hgo 0 (by simp [act, resumeDisconnect, hk])
    · exact hgo call.due (by simp [act, resumeDisconnect, result?_due])
  | current queued =>
    cases queued with
    | false =>
      refine hgo 0 ?_
      show (if ((s.advanceTo 0).requestSlot k).holdsSlot k then _ else _ : Option _).isSome = true
      split <;> rfl
    | true =>
      have hk := hholds (h.resolve_left fun hout => by cases hout)
      exact hgo 0 (by simp [act, hk])
  | _ => cases ha

/-- Whoever is not inside yet has a longer way to go. -/
theorem toil_connect {config : ConnectionConfig} {target : ListenerTarget}
    {stage : Option ConnectStage} (h : slotStance (.connect config target stage) ≠ .inside) :
    2 < toil (.connect config target stage) := by
  match stage with
  | none => exact (by decide : 2 < 4)
  | some .awaitingSlot => exact (by decide : 2 < 3)
  | some (.opening _) | some (.abandoning _ _ _) => exact absurd rfl h

theorem toil_disconnect {close : Bool} {stage : Option DisconnectStage}
    (h : slotStance (.disconnect close stage) ≠ .inside) : 1 < toil (.disconnect close stage) := by
  match stage with
  | none => exact (by decide : 1 < 3)
  | some .awaitingSlot => exact (by decide : 1 < 2)
  | some (.closing _ _) => exact absurd rfl h

/-- A turn that keeps the slot leaves less to do. -/
theorem SlotTurn.stays {a b : Activity} {v v' : Slate} (h : SlotTurn k a v (some b) v') :
    slotStance b = .inside ∧ origin b = origin a ∧ toil b < toil a ∧
      answers v'.record = answers v.record := by
  cases h with
  | ask credentials call hstage _ _ =>
    exact ⟨rfl, rfl, toil_connect hstage, by rw [answers_append]; exact List.append_nil _⟩
  | abandon cause call =>
    exact ⟨rfl, rfl, (by decide : 1 < 2), by rw [answers_append]; exact List.append_nil _⟩
  | take call listeners hstage _ _ =>
    exact ⟨rfl, rfl, toil_disconnect hstage, by rw [answers_append]; exact List.append_nil _⟩

/-- A turn that hands the slot on answers the call, as fits it. -/
theorem SlotTurn.ends {a : Activity} {v v' : Slate} (h : SlotTurn k a v none v') :
    ∃ answer, fits (origin a) answer = true ∧
      answers v'.record = answers v.record ++ [(k, answer)] := by
  cases h <;> exact answers_snoc rfl rfl

/-- **Calls share the slot lawfully**: what they do at once is what they do one after the other. -/
theorem slotCounter_lawful : (slotCounter (W := W)).Lawful env where
  toPlain := slotCounter_plain
  isCall {a} ha := by
    cases a with
    | connect config target stage | disconnect close stage =>
      cases stage with
      | none => exact ⟨rfl, rfl⟩
      | some => cases ha
    | current queued =>
      cases queued with
      | false => exact ⟨rfl, rfl⟩
      | true => cases ha
    | _ => cases ha
  uses := slot_uses
  ready := slot_ready
  stays := SlotTurn.stays
  ends h := h.elim SlotTurn.ends fun h => h.elim

end PushWake.Service
