import PushWake.Proofs.Holdings

/-!
# Every deal keeps the ledger

A deal concerns the sessions, or the plugins, or neither. The sessions' side of the ledger needs an
argument only where a session is opened or disconnected, the plugins' side only where a plugin is
made or stopped, and the listeners' side in both; everything else appends to the record what that
side does not count.
-/

namespace PushWake

variable {h h' : Holdings} {os : List Occurrence}

/-! ## Sessions -/

/-- What is neither an opening nor a closing is nothing to the sessions. -/
theorem SessionLedger.append (hs : SessionLedger h) (hlive : h'.session? = h.session?)
    (hopened : h'.opened = h.opened) (hrecord : h'.record = h.record ++ os)
    (hno : ∀ n, .sessionOpened n ∉ os ∧ tally (isClosing n) os = 0) : SessionLedger h' := by
  constructor
  · intro n hn
    rw [hrecord, List.mem_append] at hn
    rw [hopened]
    exact hs.opened n (hn.resolve_right (hno n).1)
  · intro n hn
    rw [hopened]
    exact hs.held n (hlive ▸ hn)
  · intro n
    rw [hrecord, tally_append, (hno n).2, hopened, hlive]
    exact hs.left n

theorem Deal.sessions (hd : Deal h h') (hs : SessionLedger h) : SessionLedger h' := by
  obtain ⟨hopened, hheld, hleft⟩ := id hs
  cases hd with
  | ask _ _ _ => exact hs.append rfl rfl rfl (by simp [isClosing])
  | «open» id hlive _ =>
    -- nothing was held, so the new session is the only one that is still to be given back
    have hnone : h.session? = none := by rw [Holdings.session?, hlive, Option.map_none]
    constructor
    · intro n hn
      grind
    · intro n hn
      grind [Holdings.session?]
    · intro n
      simp [hleft, isClosing, Holdings.session?]
      grind
  | abandon _ =>
    -- the new session is given back in the same deal, so it is never held
    constructor
    · intro n hn
      grind
    · intro n hn
      exact Nat.lt_succ_of_lt (hheld n hn)
    · intro n
      simp [hleft, isClosing, Holdings.session?] at hheld ⊢
      grind
  | shut _ _ => exact hs.append rfl rfl (List.append_nil _).symm (by simp)
  | @close live hlive _ =>
    have hsession : h.session? = some live.connection.session := by
      rw [Holdings.session?, hlive, Option.map_some]
    constructor
    · intro n hn
      grind
    · intro n hn
      cases hn
    · intro n
      simp [hleft, isClosing, Holdings.session?]
      grind
  | order _ _ _ => exact hs.append rfl rfl rfl (by simp [isClosing])
  | create _ _ _ _ => exact hs.append rfl rfl rfl (by simp [isClosing])
  | discard _ _ _ => exact hs.append rfl rfl rfl (by simp [isClosing])
  | halt _ => exact hs.append rfl rfl (List.append_nil _).symm (by simp)
  | stop _ => exact hs.append rfl rfl rfl (by simp [isClosing])
  | tell _ _ => exact hs.append rfl rfl rfl (by simp [isClosing])
  | @other o ho =>
    exact hs.append rfl rfl rfl (by cases o <;> simp_all [isClosing, Occurrence.isDeal])

/-! ## Plugins -/

/-- What neither makes nor stops a plugin is nothing to the plugins. -/
theorem PluginLedger.append (hp : PluginLedger h) (hrunning : h'.plugin? = h.plugin?)
    (hcreated : h'.created = h.created) (hopened : h.opened ≤ h'.opened)
    (hrecord : h'.record = h.record ++ os)
    (hno : ∀ p n, .pluginCreated p n ∉ os ∧ tally (isStopping p) os = 0) : PluginLedger h' := by
  constructor
  · intro p n hn
    rw [hrecord, List.mem_append] at hn
    have := hp.created p n (hn.resolve_right (hno p n).1)
    omega
  · intro p hheld
    rw [hcreated]
    exact hp.held p (hrunning ▸ hheld)
  · intro p
    rw [hrecord, tally_append, (hno p 0).2, hcreated, hrunning]
    exact hp.left p

theorem Deal.plugins (hd : Deal h h') (hs : SessionLedger h) (hp : PluginLedger h) :
    PluginLedger h' := by
  obtain ⟨hcreated, hheld, hleft⟩ := id hp
  cases hd with
  | ask _ _ _ => exact hp.append rfl rfl (Nat.le_refl _) rfl (by simp [isStopping])
  | «open» _ _ _ => exact hp.append rfl rfl (Nat.le_succ _) rfl (by simp [isStopping])
  | abandon _ => exact hp.append rfl rfl (Nat.le_succ _) rfl (by simp [isStopping])
  | shut _ _ => exact hp.append rfl rfl (Nat.le_refl _) (List.append_nil _).symm (by simp)
  | close _ _ => exact hp.append rfl rfl (Nat.le_refl _) rfl (by simp [isStopping])
  | order _ _ _ => exact hp.append rfl rfl (Nat.le_refl _) rfl (by simp [isStopping])
  | create connection hrunning _ hsession =>
    have hnone : h.plugin? = none := by rw [Holdings.plugin?, hrunning, Option.map_none]
    -- the plugin is made on a session that is held, and so on one that has been opened
    have hopened := hs.held _ hsession
    constructor
    · intro p n hn
      grind
    · intro p hp
      grind [Holdings.plugin?]
    · intro p
      simp [hleft, isStopping, Holdings.plugin?]
      grind
  | discard connection _ hsession =>
    have hopened := hs.held _ hsession
    constructor
    · intro p n hn
      grind
    · intro p hp
      exact Nat.lt_succ_of_lt (hheld p hp)
    · intro p
      simp [hleft, isStopping, Holdings.plugin?] at hheld ⊢
      grind
  | halt _ => exact hp.append rfl rfl (Nat.le_refl _) (List.append_nil _).symm (by simp)
  | @stop handle hrunning =>
    have hplugin : h.plugin? = some handle.plugin := by
      rw [Holdings.plugin?, hrunning, Option.map_some]
    constructor
    · intro p n hn
      grind
    · intro p hp
      cases hp
    · intro p
      simp [hleft, isStopping, Holdings.plugin?]
      grind
  | tell _ _ => exact hp.append rfl rfl (Nat.le_refl _) rfl (by simp [isStopping])
  | @other o ho =>
    exact hp.append rfl rfl (Nat.le_refl _) rfl
      (by cases o <;> simp_all [isStopping, Occurrence.isDeal])

/-! ## Listeners -/

/-- What neither adds nor removes a listener is nothing to the listeners. -/
theorem ListenerLedger.append (hl : ListenerLedger h) (hlive : h'.live = h.live)
    (hrunning : h'.running = h.running) (haccepted : h'.accepted = h.accepted)
    (hopened : h.opened ≤ h'.opened) (hrecord : h'.record = h.record ++ os)
    (hno : ∀ n l, .listenerAdded n l ∉ os ∧ tally (isRemoval n l) os = 0) : ListenerLedger h' := by
  -- who listens is said by what lives and runs, and those are as they were
  have hlistens : ∀ n l, h'.listens n l ↔ h.listens n l := by
    intro n l
    rw [Holdings.listens, Holdings.listens, hlive, hrunning]
  have htally : ∀ n l, tally (isRemoval n l) h'.record = tally (isRemoval n l) h.record := by
    intro n l
    rw [hrecord, tally_append, (hno n l).2, Nat.add_zero]
  have hadded : ∀ n l, .listenerAdded n l ∈ h'.record → .listenerAdded n l ∈ h.record := by
    intro n l hn
    rw [hrecord, List.mem_append] at hn
    exact hn.resolve_right (hno n l).1
  constructor
  · intro n l hn
    have := hl.added n l (hadded n l hn)
    omega
  · intro live hn
    rw [htally, haccepted]
    exact hl.onSession live (hlive ▸ hn)
  · intro handle hn
    rw [htally, haccepted]
    exact hl.ofPlugin handle (hrunning ▸ hn)
  · intro n l hn hnot
    rw [htally]
    exact hl.left n l (hadded n l hn) fun hlistens' => hnot ((hlistens n l).mpr hlistens')
  · intro n l hn
    rw [htally]
    exact hl.unaccepted n l (haccepted ▸ hn)
  · rw [hlive, hrunning]
    exact hl.apart

theorem Deal.listeners (hd : Deal h h') (hs : SessionLedger h) (hl : ListenerLedger h) :
    ListenerLedger h' := by
  obtain ⟨hadded, hsession, hplugin, hleft, hunaccepted, hapart⟩ := id hl
  cases hd with
  | ask _ _ _ => exact hl.append rfl rfl rfl (Nat.le_refl _) rfl (by simp [isRemoval])
  | «open» id hlive _ =>
    -- the listener of the new session has a number that no removal has named
    constructor
    · intro n l hn
      grind
    · intro live hn
      simp [isRemoval] at hn ⊢
      grind
    · intro handle hn
      simp [isRemoval] at hn ⊢
      grind
    · intro n l hn hnot
      simp [Holdings.listens, isRemoval] at hn hnot hleft ⊢
      grind
    · intro n l hn
      simp [isRemoval]
      grind
    · intro live handle hl hr
      grind
  | abandon _ => exact hl.append rfl rfl rfl (Nat.le_succ _) rfl (by simp [isRemoval])
  | shut _ _ => exact hl.append rfl rfl rfl (Nat.le_refl _) (List.append_nil _).symm (by simp)
  | @close live hlive _ =>
    -- the session's listener goes, and a plugin that runs has a different one
    constructor
    · intro n l hn
      grind
    · intro live hn
      cases hn
    · intro handle hn
      simp [isRemoval] at hn ⊢
      grind
    · intro n l hn hnot
      simp [Holdings.listens, isRemoval] at hn hnot hleft ⊢
      grind
    · intro n l hn
      simp [isRemoval]
      grind
    · intro live handle hl hr
      cases hl
  | order _ _ _ => exact hl.append rfl rfl rfl (Nat.le_refl _) rfl (by simp [isRemoval])
  | create connection hrunning _ hsession =>
    have hopened := hs.held _ hsession
    constructor
    · intro n l hn
      grind
    · intro live hn
      simp [isRemoval] at hn ⊢
      grind
    · intro handle hn
      simp [isRemoval] at hn ⊢
      grind
    · intro n l hn hnot
      simp [Holdings.listens, isRemoval] at hn hnot hleft ⊢
      grind
    · intro n l hn
      simp [isRemoval]
      grind
    · intro live handle hl hr
      grind
  | discard _ _ _ => exact hl.append rfl rfl rfl (Nat.le_refl _) rfl (by simp [isRemoval])
  | halt _ => exact hl.append rfl rfl rfl (Nat.le_refl _) (List.append_nil _).symm (by simp)
  | @stop handle hrunning =>
    constructor
    · intro n l hn
      grind
    · intro live hn
      simp [isRemoval] at hn ⊢
      grind
    · intro handle hn
      cases hn
    · intro n l hn hnot
      simp [Holdings.listens, isRemoval] at hn hnot hleft ⊢
      grind
    · intro n l hn
      simp [isRemoval]
      grind
    · intro live handle hl hr
      cases hr
  | tell _ _ => exact hl.append rfl rfl rfl (Nat.le_refl _) rfl (by simp [isRemoval])
  | @other o ho =>
    exact hl.append rfl rfl rfl (Nat.le_refl _) rfl
      (by cases o <;> simp_all [isRemoval, Occurrence.isDeal])

/-! ## The order of things -/

namespace Ledger

variable (hl : Ledger h)
include hl

theorem not_told (hopen : h.closed = false) : ¬Told h.record := by
  intro htold
  rw [hl.closed_of_told htold] at hopen
  cases hopen

/-- A session that is given back as the last of what was made on it leaves nothing behind. -/
theorem allowed_close {live : LiveSession} (hlive : h.live = some live)
    (hstopped : h.stopped = true) :
    Allowed (h.record ++ [.removeListener live.connection.session live.listener])
      (.closeSession live.connection.session) := by
  have hrunning := hl.running_of_stopped hstopped
  constructor
  · intro p hp
    have hcreated := hl.plugins.created p live.connection.session (by simpa using hp)
    have hleft := hl.plugins.left p
    rw [if_pos ⟨hcreated.1, by simp [Holdings.plugin?, hrunning]⟩] at hleft
    simpa [isStopping] using hleft
  · intro l hadded
    have hadded : .listenerAdded live.connection.session l ∈ h.record := by simpa using hadded
    -- the session's own listener goes just before, and all the others went with their plugins
    by_cases hown : live.listener = l
    · subst hown
      simp [isRemoval, (hl.listeners.onSession live hlive).2]
    · have hnot : ¬h.listens live.connection.session l := by
        simp [Holdings.listens, hlive, hrunning, hown]
      simp [isRemoval, hown, hl.listeners.left _ _ hadded hnot]

/-- A closed service has nothing left to give back. -/
theorem givenBack (hclosed : h.closed = true) : GivenBack h.record := by
  have hlive := hl.live_of_closed hclosed
  have hrunning := hl.running_of_stopped (hl.stopped_of_closed hclosed)
  constructor
  · intro n hn
    rw [hl.sessions.left, if_pos ⟨hl.sessions.opened n hn, by simp [Holdings.session?, hlive]⟩]
  · intro p n hp
    rw [hl.plugins.left,
      if_pos ⟨(hl.plugins.created p n hp).1, by simp [Holdings.plugin?, hrunning]⟩]
  · intro n l hadded
    exact hl.listeners.left n l hadded (by simp [Holdings.listens, hlive, hrunning])

theorem deal_orderly (hd : Deal h h') : Orderly Allowed h'.record := by
  have hunopened : tally (isClosing h.opened) h.record = 0 := by simp [hl.sessions.left]
  -- plugins stop before the service closes, so with plugins still to come it is open
  have hopen : h.stopped = false → ¬Told h.record := by
    intro hstopped
    refine hl.not_told (Bool.eq_false_iff.mpr fun hclosed => ?_)
    rw [hl.stopped_of_closed hclosed] at hstopped
    cases hstopped
  cases hd with
  | ask _ _ hc => exact hl.orderly.snoc (hl.not_told hc)
  | «open» id _ hc =>
    refine hl.orderly.snoc₃ trivial ?_ ?_
    · simpa [Allowed, Told] using hl.not_told hc
    · simpa [Allowed, isClosing] using hunopened
  | abandon hc =>
    -- nothing was ever made on the session that has just been opened
    refine hl.orderly.snoc₃ trivial ?_ ⟨?_, ?_⟩
    · simpa [Allowed, Told] using hl.not_told hc
    · intro p hp
      have := (hl.plugins.created p h.opened (by simpa using hp)).2
      omega
    · intro l hadded
      have := (hl.listeners.added h.opened l (by simpa using hadded)).2
      omega
  | shut _ _ => exact hl.orderly
  | close hlive hs => exact hl.orderly.snoc₂ trivial (hl.allowed_close hlive hs)
  | order _ _ hs => exact hl.orderly.snoc (hopen hs)
  | create connection hrunning hs hsession =>
    have hheld : tally (isClosing connection.session) h.record = 0 := by
      simp [hl.sessions.left, hsession]
    refine hl.orderly.snoc₃ hheld ?_ ?_
    · simpa [Allowed, Told] using hopen hs
    · simpa [Allowed, isClosing] using hheld
  | discard connection hs hsession =>
    have hheld : tally (isClosing connection.session) h.record = 0 := by
      simp [hl.sessions.left, hsession]
    refine hl.orderly.snoc₃ hheld ?_ trivial
    simpa [Allowed, Told] using hopen hs
  | halt _ => exact hl.orderly
  | stop _ => exact hl.orderly.snoc₂ trivial trivial
  | tell reason hc => exact hl.orderly.snoc (hl.givenBack hc)
  | @other o ho => exact hl.orderly.snoc (by cases o <;> trivial)

end Ledger

/-- **Every deal keeps the ledger.** -/
theorem Deal.ledger (hd : Deal h h') (hl : Ledger h) : Ledger h' where
  sessions := hd.sessions hl.sessions
  plugins := hd.plugins hl.sessions hl.plugins
  listeners := hd.listeners hl.sessions hl.listeners
  orderly := hl.deal_orderly hd
  stopped_of_closed := by
    have := hl.stopped_of_closed
    cases hd <;> simp_all
  live_of_closed := by
    have := hl.live_of_closed
    cases hd <;> simp_all
  running_of_stopped := by
    have := hl.running_of_stopped
    cases hd <;> simp_all
  closed_of_told := by
    rintro ⟨reason, htold⟩
    have hclosed := fun ht => hl.closed_of_told ⟨reason, ht⟩
    cases hd with
    | @other o ho =>
      rcases List.mem_append.mp htold with ht | ht
      · exact hclosed ht
      · rw [← List.mem_singleton.mp ht] at ho
        cases ho
    | _ => simp_all

/-- Nothing is held at first. -/
theorem Ledger.nil : Ledger {} where
  sessions := ⟨by simp, by simp [Holdings.session?], by simp⟩
  plugins := ⟨by simp, by simp [Holdings.plugin?], by simp⟩
  listeners := ⟨by simp, by simp, by simp, by simp, by simp, by simp⟩
  orderly := .nil
  stopped_of_closed := by simp
  live_of_closed := by simp
  running_of_stopped := by simp
  closed_of_told := by simp [Told]

end PushWake
