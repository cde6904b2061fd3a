import PushWake.Collaborators.Plan
import PushWake.Proofs.Ledger
import PushWake.Proofs.SessionSlot

/-!
# One shared session

However many calls connect, disconnect, close and look at once, they share one session.
-/

namespace PushWake

namespace Service

variable {W : Type} {env : Collaborators W} {s s' : Service W} {k : Nat} {cs : List Activity}

/-! ## The slate and who is in the midst of something -/

/-- How the slate stands to the activity that keeps the slot. -/
structure Slate.Sound (v : Slate) (p : Option (Nat × Activity)) : Prop where
  /-- Whoever opens or closes a session does so while there is none. -/
  alone : p ≠ none → v.live = none
  opens : ∀ k config target stage, p = some (k, .connect config target stage) → v.closed = false
  closes : ∀ k stage, p = some (k, .disconnect true stage) → v.closed = true
  state : p = none → v.state = if v.live.isSome then .connected else .disconnected
  shut : v.closed = true → v.live = none

theorem Slate.Sound.rest {v : Slate}
    (hstate : v.state = if v.live.isSome then .connected else .disconnected)
    (hshut : v.closed = true → v.live = none) : v.Sound none :=
  ⟨fun h => absurd rfl h, nofun, nofun, fun _ => hstate, hshut⟩

theorem Slate.Sound.inside {v : Slate} {stance : Stance} {x : Nat × Activity}
    (h : v.Sound (if stance = .inside then some x else none)) (hin : stance = .inside) :
    v.live = none :=
  h.alone (Counter.midst_ne_none hin)

theorem slot_sound : (slotCounter (W := W)).Invariant fun _ v p => v.Sound p where
  start _ _ _ := .rest rfl nofun
  call _ h := h
  turn := by
    intro cs k a b v v' _ h ht
    cases ht with
    | refuse hstage hclosed =>
      -- whoever is outside is not the one in the midst
      rw [slotCounter, if_neg hstage] at h
      exact .rest (h.state rfl) h.shut
    | share hstage hopen hlive =>
      rw [slotCounter, if_neg hstage] at h
      exact .rest (h.state rfl) h.shut
    | lack e hstage hopen hlive => exact .rest (by simp [hlive]) fun _ => hlive
    | ask credentials call hstage hopen hlive =>
      exact ⟨fun _ => hlive, fun _ _ _ _ _ => hopen, nofun, nofun, fun _ => hlive⟩
    | miss e =>
      have hlive := h.inside rfl
      exact .rest (by simp [hlive]) fun _ => hlive
    | keep id => exact .rest rfl fun hclosed => absurd hclosed (by simp [h.opens _ _ _ _ rfl])
    | abandon cause call =>
      have hlive := h.inside rfl
      exact ⟨fun _ => hlive, fun _ _ _ _ _ => h.opens _ _ _ _ rfl, nofun, nofun, fun _ => hlive⟩
    | abandoned e =>
      have hlive := h.inside rfl
      exact .rest (by simp [hlive]) fun _ => hlive
    | leave hstage hlive => exact .rest (by simp [hlive]) fun _ => hlive
    | take call listeners hstage hlive hsubset =>
      refine ⟨fun _ => rfl, nofun, ?_, nofun, fun _ => rfl⟩
      intro j stage hp
      cases hp
      simp
    | taken =>
      have hlive := h.inside rfl
      exact .rest (by simp [hlive]) fun _ => hlive
    | @look _ queued =>
      have hstage : slotStance (.current queued) ≠ .inside := by cases queued <;> decide
      rw [slotCounter, if_neg hstage] at h
      exact .rest (h.state rfl) h.shut
  pass _ _ h := h.elim

/-! ## Sessions -/

/-- The sessions of a slate, as holdings. -/
def Slate.holdings (v : Slate) : Holdings where
  live := v.live
  opened := v.opened
  accepted := v.accepted
  stopped := true
  record := v.record

/-- Each session but the live one has been disconnected once. -/
theorem slot_sessions : (slotCounter (W := W)).Invariant fun _ v p =>
    v.Sound p ∧ SessionLedger v.holdings := by
  refine slot_sound.layer ?_ (fun _ h => h) ?_ fun _ _ _ h => h.elim
  · intro config makesPlugins world
    refine ⟨fun n hn => ?_, fun n hn => ?_, fun n => ?_⟩
    · cases hn
    · cases hn
    · simp [Slate.holdings, slotCounter, slate, bare, record]
  · intro cs k a b v v' _ hsound h ht
    cases ht with
    | refuse | share | lack | ask | miss | abandoned | leave | taken | look =>
      exact h.append rfl rfl rfl (by simp [isClosing])
    | keep id =>
      have hopen := (Deal.open (h := v.holdings) id (hsound.inside rfl) rfl).sessions h
      have hanswer := List.append_assoc v.record [.sessionOpened v.opened, .addListener v.opened,
        .listenerAdded v.opened v.accepted] [.answered k (.connect (.ok ⟨id, v.opened⟩))]
      exact hopen.append rfl rfl hanswer.symm (by simp [isClosing])
    | abandon cause call => exact (Deal.abandon (h := v.holdings) rfl).sessions h
    | take call listeners hstage hlive hsubset =>
      have hclose := (Deal.close (h := v.holdings) hlive rfl).sessions h
      exact hclose.append rfl rfl (List.append_nil _).symm (by simp)

/-- Every session of a record has been disconnected once. -/
def AllClosed (os : List Occurrence) : Prop :=
  ∀ n, .sessionOpened n ∈ os → tally (isClosing n) os = 1

theorem Slate.all_closed {v : Slate} (h : SessionLedger v.holdings) (hlive : v.live = none) :
    AllClosed v.record := by
  intro n hn
  have hlt : n < v.opened := h.opened n hn
  have hleft := h.left n
  have hnone : v.holdings.session? ≠ some n := by simp [Holdings.session?, holdings, hlive]
  rwa [if_pos ⟨hlt, hnone⟩] at hleft

/-! ## Answers in their order -/

/-- A connection was handed out, and its session has not been disconnected since. -/
def Granted (os : List Occurrence) (c : Connection) : Prop :=
  Unrevoked (fun o => ∃ k, o = .answered k (.connect (.ok c))) (.closeSession c.session) os

/-- A connection that was handed out and has not been disconnected since is the live one. -/
theorem slot_granted : (slotCounter (W := W)).Invariant fun _ v p =>
    (v.Sound p ∧ SessionLedger v.holdings) ∧
      ∀ c, Granted v.record c → v.live.map LiveSession.connection = some c := by
  refine slot_sessions.layer ?_ (fun _ h => h) ?_ fun _ _ _ h => h.elim
  · exact fun _ _ _ c hc => absurd hc Unrevoked.not_nil
  · intro cs k a b v v' _ ⟨hsound, _⟩ h ht
    cases ht with
    | refuse | lack | ask | miss | abandon | abandoned | leave | taken | look =>
      exact fun c hc => h c (hc.append (by simp)).1
    | share hstage hopen hlive =>
      intro c hc
      rcases hc.snoc with ⟨j, he⟩ | ⟨hc, -⟩
      · cases he
        rw [hlive]
        rfl
      · exact h c hc
    | keep id =>
      intro c hc
      have he : v.record ++ [.sessionOpened v.opened, .addListener v.opened,
          .listenerAdded v.opened v.accepted, .answered k (.connect (.ok ⟨id, v.opened⟩))] =
          (v.record ++ [.sessionOpened v.opened, .addListener v.opened,
            .listenerAdded v.opened v.accepted]) ++
            [.answered k (.connect (.ok ⟨id, v.opened⟩))] := by simp
      rcases Unrevoked.snoc (he ▸ hc) with ⟨j, he⟩ | ⟨hc, -⟩
      · cases he
        rfl
      · -- nothing was live before
        have hlive := h c (hc.append (by simp)).1
        rw [hsound.inside rfl] at hlive
        cases hlive
    | take call listeners hstage hlive hsubset =>
      intro c hc
      obtain ⟨hc, hnot⟩ := hc.append (by simp)
      have hcur := h c hc
      rw [hlive] at hcur
      cases hcur
      exact absurd (by simp) hnot

/-- What may happen on the slot: the wallet is asked for a session, and a connect fails, when all
sessions have been disconnected; and whoever is handed a connection is handed the one that others
have been handed before, if it has not been disconnected since. -/
def Proper (os : List Occurrence) : Occurrence → Prop
  | .openSession _ _ => AllClosed os
  | .answered _ (.connect (.ok c)) => ∀ c', Granted os c' → c = c'
  | .answered _ (.connect (.error _)) => AllClosed os
  | _ => True

theorem slot_proper : (slotCounter (W := W)).Invariant fun _ v p =>
    ((v.Sound p ∧ SessionLedger v.holdings) ∧
      ∀ c, Granted v.record c → v.live.map LiveSession.connection = some c) ∧
    Orderly Proper v.record := by
  refine slot_granted.layer (fun _ _ _ => .nil) (fun _ h => h) ?_ fun _ _ _ h => h.elim
  intro cs k a b v v' _ ⟨⟨hsound, hsessions⟩, hgranted⟩ h ht
  cases ht with
  | refuse hstage hclosed => exact h.snoc (Slate.all_closed hsessions (hsound.shut hclosed))
  | share hstage hopen hlive =>
    refine h.snoc fun c hc => ?_
    have hcur := hgranted c hc
    rw [hlive] at hcur
    exact Option.some.inj hcur
  | lack e hstage hopen hlive =>
    have hall := Slate.all_closed hsessions hlive
    exact h.snoc₂ trivial (show AllClosed _ by simpa [AllClosed, isClosing] using hall)
  | ask credentials call hstage hopen hlive =>
    have hall := Slate.all_closed hsessions hlive
    exact h.snoc₂ trivial (show AllClosed _ by simpa [AllClosed, isClosing] using hall)
  | miss e => exact h.snoc (Slate.all_closed hsessions (hsound.inside rfl))
  | keep id =>
    have hmade := h.snoc₃ (a := .sessionOpened v.opened) (b := .addListener v.opened)
      (c := .listenerAdded v.opened v.accepted) trivial trivial trivial
    have hkept := hmade.snoc (o := .answered k (.connect (.ok ⟨id, v.opened⟩))) fun c hc => by
      -- nobody has been handed a connection that is still there
      have hcur := hgranted c (hc.append (by simp)).1
      rw [hsound.inside rfl] at hcur
      cases hcur
    simpa using hkept
  | abandon cause call => exact h.snoc₃ trivial trivial trivial
  | abandoned e => exact h.snoc (Slate.all_closed hsessions (hsound.inside rfl))
  | leave | taken | look => exact h.snoc trivial
  | take => exact h.snoc₂ trivial trivial

/-! ## Listeners -/

/-- Whether something offers a listener to a session. -/
def isOffer (n : Nat) : Occurrence → Bool
  | .addListener m => m == n
  | _ => false

/-- Whether something is a session's acceptance of a listener. -/
def isAcceptance (n : Nat) : Occurrence → Bool
  | .listenerAdded m _ => m == n
  | _ => false

/-- A live session has one listener: that of the connect call which opened it, offered and accepted
once. -/
structure Attended (cs : List Activity) (os : List Occurrence) (listeners : List Listener)
    (live : LiveSession) : Prop where
  offered : tally (isOffer live.connection.session) os = 1
  accepted : tally (isAcceptance live.connection.session) os = 1
  opener : ∃ k config target, cs[k]? = some (.connect config target none) ∧
    .answered k (.connect (.ok live.connection)) ∈ os ∧
    (listeners.filter fun l => l.session == live.connection.session) =
      [⟨live.connection.session, live.listener, target⟩]

/-- Nothing has been offered to sessions that have not been opened, and the live one is attended. -/
structure Slate.Attentive (cs : List Activity) (v : Slate) : Prop where
  fresh : ∀ n, v.opened ≤ n → tally (isOffer n) v.record = 0 ∧
    tally (isAcceptance n) v.record = 0 ∧ ∀ l ∈ v.listeners, l.session ≠ n
  attended : ∀ live, v.live = some live → Attended cs v.record v.listeners live

theorem Slate.Attentive.quiet {v v' : Slate} {new : List Occurrence} (h : v.Attentive cs)
    (hnew : ∀ n, tally (isOffer n) new = 0 ∧ tally (isAcceptance n) new = 0)
    (hrecord : v'.record = v.record ++ new) (hlive : v'.live = v.live)
    (hopened : v'.opened = v.opened) (hlisteners : v'.listeners = v.listeners) :
    v'.Attentive cs where
  fresh n hn := by
    obtain ⟨hoffers, hacceptances, hfree⟩ := h.fresh n (hopened ▸ hn)
    obtain ⟨hoffer, hacceptance⟩ := hnew n
    rw [hrecord, hlisteners, tally_append, tally_append, hoffers, hacceptances, hoffer, hacceptance]
    exact ⟨rfl, rfl, hfree⟩
  attended live hl := by
    obtain ⟨hoffered, haccepted, k, config, target, hcall, hanswer, hfilter⟩ :=
      h.attended live (hlive ▸ hl)
    obtain ⟨hoffer, hacceptance⟩ := hnew live.connection.session
    rw [hrecord, hlisteners]
    refine ⟨?_, ?_, k, config, target, hcall, List.mem_append_left _ hanswer, hfilter⟩
    · rw [tally_append, hoffered, hoffer]
    · rw [tally_append, haccepted, hacceptance]

theorem slot_attentive : (slotCounter (W := W)).Invariant fun cs v p =>
    v.Sound p ∧ v.Attentive cs := by
  refine slot_sound.layer ?_ ?_ ?_ fun _ _ _ h => h.elim
  · exact fun _ _ _ => ⟨fun _ _ => ⟨rfl, rfl, nofun⟩, nofun⟩
  · refine fun a h => ⟨h.fresh, fun live hlive => ?_⟩
    obtain ⟨hoffered, haccepted, k, config, target, hcall, hrest⟩ := h.attended live hlive
    have hlt := (List.getElem?_eq_some_iff.mp hcall).1
    exact ⟨hoffered, haccepted, k, config, target,
      (List.getElem?_append_left hlt).trans hcall, hrest⟩
  · intro cs k a b v v' horigin hsound h ht
    cases ht with
    | refuse | share | lack | ask | miss | abandoned | leave | taken | look =>
      exact h.quiet (by simp [isOffer, isAcceptance]) rfl rfl rfl rfl
    -- the session has the next number: nothing was offered to it, and no listener is its
    | @keep _ config target call id =>
      obtain ⟨hoffers, hacceptances, hfree⟩ := h.fresh v.opened (Nat.le_refl _)
      refine ⟨fun n hn => ?_, fun live hl => ?_⟩
      · have hn : v.opened + 1 ≤ n := hn
        have hne : v.opened ≠ n := by omega
        obtain ⟨hoffers, hacceptances, hfree⟩ := h.fresh n (by omega)
        simp [isOffer, isAcceptance, hoffers, hacceptances, hne]
        rintro l (hl | rfl)
        · exact hfree l hl
        · exact hne
      · cases hl
        refine ⟨?_, ?_, k, config, target, horigin, by simp, ?_⟩
        · simp [isOffer, hoffers]
        · simp [isAcceptance, hacceptances]
        · have hnone : (v.listeners.filter fun l => l.session == v.opened) = [] :=
            List.filter_eq_nil_iff.mpr fun l hl => by simpa using hfree l hl
          simp [hnone]
    -- the number of a session that was given up is not used again
    | abandon cause call =>
      refine ⟨fun n hn => ?_, fun live hl => ?_⟩
      · have hn : v.opened + 1 ≤ n := hn
        have hne : v.opened ≠ n := by omega
        obtain ⟨hoffers, hacceptances, hfree⟩ := h.fresh n (by omega)
        simp [isOffer, isAcceptance, hoffers, hacceptances, hne]
        exact hfree
      · have hl : v.live = some live := hl
        rw [hsound.inside rfl] at hl
        cases hl
    | take call listeners hstage hlive hsubset =>
      refine ⟨fun n hn => ?_, nofun⟩
      obtain ⟨hoffers, hacceptances, hfree⟩ := h.fresh n hn
      refine ⟨?_, ?_, fun l hl => hfree l (hsubset hl)⟩
      · simp [isOffer, hoffers]
      · simp [isAcceptance, hacceptances]

/-! ## The latest answer -/

/-- What the latest answer says is true as long as nothing else happens. -/
structure Slate.Latest (v : Slate) (p : Option (Nat × Activity)) : Prop where
  failed : ∀ k e, v.record.getLast? = some (.answered k (.connect (.error e))) →
    v.live = none ∧ v.state = .disconnected ∧ p = none
  looked : ∀ k c, v.record.getLast? = some (.answered k (.current c)) →
    c = v.live.map LiveSession.connection

theorem slot_latest : (slotCounter (W := W)).Invariant fun _ v p => v.Sound p ∧ v.Latest p := by
  refine slot_sound.layer (fun _ _ _ => ⟨nofun, nofun⟩) (fun _ h => h) ?_ fun _ _ _ h => h.elim
  intro cs k a b v v' _ hsound _ ht
  cases ht with
  | refuse hstage hclosed =>
    rw [slotCounter, if_neg hstage] at hsound
    have hlive := hsound.shut hclosed
    exact ⟨fun _ _ _ => ⟨hlive, by simpa [hlive] using hsound.state rfl, rfl⟩,
      fun _ _ h => by simp at h⟩
  | lack e hstage hopen hlive => exact ⟨fun _ _ _ => ⟨hlive, rfl, rfl⟩, fun _ _ h => by simp at h⟩
  | miss e | abandoned e =>
    exact ⟨fun _ _ _ => ⟨hsound.inside rfl, rfl, rfl⟩, fun _ _ h => by simp at h⟩
  | look =>
    refine ⟨fun _ _ h => by simp at h, fun _ _ h => ?_⟩
    simp at h
    exact h.2.symm
  | share | ask | keep | abandon | leave | take | taken =>
    exact ⟨fun _ _ h => by simp at h, fun _ _ h => by simp at h⟩

/-! ## Closing -/

/-- Only calls are answered, and a call to close that was answered has closed the hub. -/
structure Slate.Closing (cs : List Activity) (v : Slate) : Prop where
  called : ∀ k answer, .answered k answer ∈ v.record → k < cs.length
  closed : ∀ k answer, .answered k answer ∈ v.record → cs[k]? = some (.disconnect true none) →
    v.closed = true

theorem Slate.Closing.append {v v' : Slate} {new : List Occurrence} {a : Activity}
    (h : v.Closing cs) (ha : cs[k]? = some (origin a)) (hrecord : v'.record = v.record ++ new)
    (hnew : ∀ j answer, .answered j answer ∈ new → j = k)
    (hstays : v.closed = true → v'.closed = true)
    (hclose : ∀ answer, .answered k answer ∈ new → origin a = .disconnect true none →
      v'.closed = true) : v'.Closing cs where
  called j answer hj := by
    rw [hrecord] at hj
    rcases List.mem_append.mp hj with hj | hj
    · exact h.called j answer hj
    · exact hnew j answer hj ▸ (List.getElem?_eq_some_iff.mp ha).1
  closed j answer hj hcall := by
    rw [hrecord] at hj
    rcases List.mem_append.mp hj with hj | hj
    · exact hstays (h.closed j answer hj hcall)
    · obtain rfl := hnew j answer hj
      rw [ha] at hcall
      exact hclose answer hj (Option.some.inj hcall)

theorem slot_closing : (slotCounter (W := W)).Invariant fun cs v p =>
    v.Sound p ∧ v.Closing cs := by
  refine slot_sound.layer (fun _ _ _ => ⟨nofun, nofun⟩) ?_ ?_ fun _ _ _ h => h.elim
  · intro cs v p a h
    refine ⟨fun k answer hk => ?_, fun k answer hk hcall => h.closed k answer hk ?_⟩
    · rw [List.length_append]
      exact Nat.lt_add_right _ (h.called k answer hk)
    · rwa [List.getElem?_append_left (h.called k answer hk)] at hcall
  · intro cs k a b v v' horigin hsound h ht
    cases ht with
    | refuse | share | lack | ask | miss | keep | abandon | abandoned | look =>
      exact h.append horigin rfl (by simp) id fun _ _ ho => by cases ho
    | leave hstage hlive =>
      refine h.append horigin rfl (by simp) (fun hc => by simp [hc]) fun _ _ ho => ?_
      cases ho
      simp
    | take call listeners hstage hlive hsubset =>
      exact h.append horigin rfl (by simp) (fun hc => by simp [hc]) fun _ hin _ => by simp at hin
    | taken =>
      refine h.append horigin rfl (by simp) id fun _ _ ho => ?_
      cases ho
      exact hsound.closes _ _ rfl

/-- What may still happen once the hub is closed: calls are answered, and whoever connects is told
that the hub is closed. Neither the store nor the wallet nor a session is asked for anything. -/
def Refusing : Occurrence → Prop
  | .answered _ (.connect result) => result = .error .closed
  | .answered _ (.current connection) => connection = none
  | .answered _ _ => True
  | _ => False

/-- A closed hub stays closed, and refuses. -/
theorem refusing_later (h : CallRun env isSlotCall cs s) {cs' : List Activity}
    (hc : Calls env isSlotCall cs s cs' s') (hclosed : s.hub.closed = true) :
    s'.hub.closed = true ∧ ∃ new, s'.record = s.record ++ new ∧ ∀ o ∈ new, Refusing o := by
  refine slot_sound.latched slotCounter_lawful (fun v => v.closed = true) Refusing ?_
    (fun hpass => hpass.elim) h hc hclosed
  intro cs k a b v v' _ hsound ht hv
  cases ht with
  | refuse => exact ⟨hv, _, rfl, by simp [Refusing]⟩
  | share _ hopen _ | lack _ _ hopen _ | ask _ _ _ hopen _ =>
    rw [hv] at hopen
    cases hopen
  | miss | keep | abandon | abandoned =>
    have hopen := hsound.opens _ _ _ _ rfl
    rw [hv] at hopen
    cases hopen
  | leave _ _ => exact ⟨by simp [hv], _, rfl, by simp [Refusing]⟩
  | take _ _ _ hlive _ =>
    rw [hsound.shut hv] at hlive
    cases hlive
  | taken => exact ⟨hv, _, rfl, by simp [Refusing]⟩
  | look => exact ⟨hv, _, rfl, by simp [Refusing, hsound.shut hv]⟩

/-- On a closed hub every connect comes back, with nothing but the news that the hub is closed. -/
theorem refused_eventually (h : CallRun env isSlotCall cs s) (hclosed : s.hub.closed = true)
    {config : ConnectionConfig} {target : ListenerTarget}
    (hcall : cs[k]? = some (.connect config target none))
    (hopen : ∀ answer, .answered k answer ∉ s.record) :
    Inevitable env (fun s' => .answered k (.connect (.error .closed)) ∈ s'.record) s := by
  refine (slotCounter_lawful.answered_eventually h hcall).mono fun s' hs' => ?_
  obtain ⟨hc, answer, hfits, hmem⟩ := hs'
  obtain ⟨-, new, he, hnew⟩ := refusing_later h hc hclosed
  cases answer with
  | connect result =>
    have hin : Occurrence.answered k (.connect result) ∈ new :=
      (List.mem_append.mp (he ▸ hmem)).resolve_left (hopen _)
    obtain rfl : result = .error .closed := hnew _ hin
    exact hmem
  | _ => cases hfits

/-! ## The shared session -/

/-- **One shared session.** Whatever calls connect, disconnect, close and look at once, in
whatever order they take their turns, and whatever the store, the wallet and the sessions answer,
and however late:

- there is at most one session that is live, being opened or being disconnected, and when the wallet
  is asked for one, every session before has been disconnected once;
- two connects that succeed get the same connection, unless its session was disconnected in between;
- a live session has one listener, offered and accepted once: that of the connect which opened it;
- a connect that fails leaves no live session and the state `disconnected`; every session so far has
  been disconnected once, and no call for that is under way any more;
- when nobody holds the slot, and even while somebody does who is not in the midst of opening or
  disconnecting a session, the state is `connected` if there is a live session, and `disconnected`
  otherwise, and whoever looks is shown the live session;
- a call to close that was answered has closed the hub; and from when it is closed, which may be
  before the answer, it stays closed, the store, the wallet and its sessions are left alone, and
  every connect comes back with the news that the hub is closed. -/
theorem one_shared_session (h : CallRun env isSlotCall cs s) :
    (s.hub.live.toList.length +
      (s.activities.filter fun a => slotStance a.2 == .inside).length ≤ 1 ∧
    ∀ before config credentials after,
      s.record = before ++ .openSession config credentials :: after → AllClosed before) ∧
    (∀ before j c mid k c' after,
      s.record = (before ++ .answered j (.connect (.ok c)) :: mid) ++
        .answered k (.connect (.ok c')) :: after →
      .closeSession c.session ∉ mid → c' = c) ∧
    (∀ live, s.hub.live = some live → Attended cs s.record s.listeners live) ∧
    (∀ k e, s.record.getLast? = some (.answered k (.connect (.error e))) →
      s.hub.live = none ∧ s.hub.state = .disconnected ∧ AllClosed s.record ∧
        ∀ j a, (j, a) ∈ s.activities → slotStance a ≠ .inside) ∧
    ((s.hub.lock.holder = none ∨ ∀ j a, (j, a) ∈ s.activities → slotStance a ≠ .inside) →
      s.hub.state = if s.hub.live.isSome then .connected else .disconnected) ∧
    (∀ k c, s.record.getLast? = some (.answered k (.current c)) →
      c = s.hub.live.map LiveSession.connection) ∧
    ((∃ k answer, cs[k]? = some (.disconnect true none) ∧ .answered k answer ∈ s.record) →
      s.hub.closed = true) ∧
    (s.hub.closed = true →
      (∀ cs' s', Calls env isSlotCall cs s cs' s' → s'.hub.closed = true ∧
        ∃ new, s'.record = s.record ++ new ∧ ∀ o ∈ new, Refusing o) ∧
      ∀ k config target, cs[k]? = some (.connect config target none) →
        (∀ answer, .answered k answer ∉ s.record) →
        Inevitable env (fun s' => .answered k (.connect (.error .closed)) ∈ s'.record) s) := by
  have law : slotCounter.Lawful env := slotCounter_lawful
  have order := law.order h
  obtain ⟨⟨⟨hsound, hsessions⟩, -⟩, hproper⟩ := slot_proper.holds law h
  have hattentive := (slot_attentive.holds law h).2
  have hlatest := (slot_latest.holds law h).2
  have hclosing := (slot_closing.holds law h).2
  refine ⟨⟨?_, ?_⟩, ?_, hattentive.attended, ?_, ?_, hlatest.looked, ?_, fun hclosed => ⟨?_, ?_⟩⟩
  · have hfilter := order.filter_inside
    rw [show (s.activities.filter fun a => slotStance a.2 == .inside) =
      (slotCounter.midst s).toList from hfilter]
    cases hm : slotCounter.midst s with
    | none => cases s.hub.live <;> simp
    | some x =>
      -- whoever is in the midst of opening or disconnecting has the slot to itself
      have hlive : s.hub.live = none := hsound.alone (by simp [hm])
      simp [hlive]
  · exact fun before config credentials after he => hproper.was_allowed he
  · intro before j c mid k c' after he hmid
    exact hproper.was_allowed he c ⟨before, _, mid, rfl, ⟨j, rfl⟩, hmid⟩
  · intro k e he
    obtain ⟨hlive, hstate, hmidst⟩ := hlatest.failed k e he
    exact ⟨hlive, hstate, Slate.all_closed hsessions hlive, Counter.midst_eq_none.mp hmidst⟩
  · intro hrest
    refine hsound.state (Counter.midst_eq_none.mpr fun j a ha hin => ?_)
    rcases hrest with hfree | hrest
    · have hholder := order.holder_of_inside ha hin
      rw [show (slotCounter.lock s).holder = none from hfree] at hholder
      cases hholder
    · exact hrest j a ha hin
  · rintro ⟨k, answer, hcall, hanswer⟩
    exact hclosing.closed k answer hanswer hcall
  · exact fun cs' s' hc => refusing_later h hc hclosed
  · exact fun k config target hcall hopen => refused_eventually h hclosed hcall hopen

/-- The first connect fails because the session refuses its listener; the next two share a session
that takes a while to open; and then somebody closes, with one more connect behind. -/
def sharedRun : Option (List Activity × Service Plan) :=
  perform Plan.collaborators isSlotCall
    [.call (.connect {} .jobs none), .turn 0, .wait 5, .turn 0, .turn 0,
      .call (.connect {} .jobs none), .call (.connect {} (.host "other") none), .turn 1, .turn 2,
      .call (.current false), .turn 3, .wait 10, .turn 1, .turn 2, .turn 3,
      .call (.disconnect true none), .turn 4, .call (.connect {} .jobs none), .turn 5]
    [] (bare {} true { addListener := [.error (.generic "refused")], delays := { connect := 5 } })

/-- The two connects share a session, nothing of the first one is left, and the last will
be refused. -/
theorem shared_run_shares_and_refuses : ∃ (cs : List Activity) (s : Service Plan)
    (c c' : Connection) (before mid after : List Occurrence), sharedRun = some (cs, s) ∧
    s.record = (before ++ .answered 1 (.connect (.ok c)) :: mid) ++
      .answered 2 (.connect (.ok c')) :: after ∧ c' = c ∧ s.hub.closed = true ∧
    (s.activities.filter fun a => slotStance a.2 == .inside).length ≤ 1 ∧
    Inevitable Plan.collaborators
      (fun s' => .answered 5 (.connect (.error .closed)) ∈ s'.record) s := by
  have hrun : sharedRun.isSome = true := rfl
  have h : CallRun Plan.collaborators isSlotCall (sharedRun.get hrun).1 (sharedRun.get hrun).2 :=
    ⟨_, _, _, calls_of_perform (Option.some_get hrun).symm⟩
  obtain ⟨⟨hone, -⟩, hshare, -, -, -, -, -, hclosed⟩ := one_shared_session h
  have hsplit : (sharedRun.get hrun).2.record =
      ((sharedRun.get hrun).2.record.take 11 ++ .answered 1 (.connect (.ok ⟨⟨0⟩, 1⟩)) :: []) ++
        .answered 2 (.connect (.ok ⟨⟨0⟩, 1⟩)) :: (sharedRun.get hrun).2.record.drop 13 := rfl
  refine ⟨(sharedRun.get hrun).1, (sharedRun.get hrun).2, _, _, _, _, _,
    (Option.some_get hrun).symm, hsplit, hshare _ 1 _ [] 2 _ _ hsplit nofun, rfl,
    Nat.le_trans (Nat.le_add_left _ _) hone, ?_⟩
  refine (hclosed rfl).2 5 {} .jobs rfl fun answer hin => ?_
  have hkeys : (answers (sharedRun.get hrun).2.record).map Prod.fst = [0, 1, 2, 3] := rfl
  have hkey := List.mem_map_of_mem (f := Prod.fst) (mem_answers.mpr hin)
  rw [hkeys] at hkey
  simp at hkey

end Service

end PushWake
