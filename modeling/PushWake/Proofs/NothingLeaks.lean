import PushWake.Collaborators.Plan
import PushWake.Proofs.RunInvariant

/-!
# Nothing leaks

The host is told that the service is down after the hub has closed; a closed hub holds no session,
its shelf holds no plugin, and nobody is opening or making anything. The ledger then says that
everything that was ever had has been given back, once.
-/

namespace PushWake.Service

variable {W : Type} {env : Collaborators W} {s : Service W} {k : Nat}

/-- Whether a trigger is in the middle of opening a session or of making a plugin. -/
def isHalfway : Activity → Bool
  | .trigger _ (.connecting _ (.opening _)) => true
  | .trigger _ (.connecting _ (.abandoning _ _ _)) => true
  | .trigger _ (.startingPlugins _ _ (.creating _)) => true
  | .trigger _ (.startingPlugins _ _ (.undoing _ _ _)) => true
  | _ => false

theorem not_isHalfway (h : Sane s) (hclosed : s.hub.closed = true) {a : Activity}
    (ha : (k, a) ∈ s.activities) : isHalfway a = false := by
  have hstopped : s.shelf.stopped = true := h.ledger.stopped_of_closed hclosed
  have hopens : ¬s.OpensAlone k := by
    rintro ⟨_, _, hopen⟩
    rw [hclosed] at hopen
    cases hopen
  have hmakes : ¬s.MakesAlone k := by
    rintro ⟨_, _, hmakes⟩
    rw [hstopped] at hmakes
    cases hmakes
  -- whoever is halfway holds a lock with nothing shut behind it
  have hs := h.sound k a ha
  unfold isHalfway
  split
  · exact absurd hs hopens
  · exact absurd hs hopens
  · exact absurd hs.1 hmakes
  · exact absurd hs.1 hmakes
  · rfl

/-- **Nothing leaks.** When the host is told that the service is down, everything that was ever had
has been given back once, the plugins and listeners of a session before the session; nobody is
halfway to having more, and nothing is asked for from then on. -/
theorem teardown_leaves_nothing (h : Reachable env s) {before after : List (Nat × Occurrence)}
    {t : Nat} {reason : ShutdownReason}
    (hs : s.history = before ++ (t, .hostShutdown reason) :: after) :
    GivenBack (before.map Prod.snd) ∧ InnerFirst s.record ∧
      (∀ k a, (k, a) ∈ s.activities → isHalfway a = false) ∧
      ∀ o ∈ after, isBeginning o.2 = false := by
  have hsane := sane_reachable h
  have horderly : Orderly Allowed s.record := hsane.ledger.orderly
  have hrecord : s.record =
      before.map Prod.snd ++ .hostShutdown reason :: after.map Prod.snd := by simp [record, hs]
  have htold : Told s.holdings.record := ⟨reason, by simp [holdings, record, hs]⟩
  have hclosed : s.hub.closed = true := hsane.ledger.closed_of_told htold
  refine ⟨horderly.was_allowed hrecord, horderly.innerFirst,
    fun k a ha => not_isHalfway hsane hclosed ha, fun o ho => ?_⟩
  obtain ⟨mid, rest, rfl⟩ := List.append_of_mem ho
  have hlater : s.record =
      (before.map Prod.snd ++ .hostShutdown reason :: mid.map Prod.snd) ++
        o.2 :: rest.map Prod.snd := by simp [record, hs]
  exact horderly.not_isBeginning hlater ⟨reason, by simp⟩

/-- A service with a relay that takes a trigger and is then ended by its host. -/
def relayRun : Option (Service Plan) :=
  playFrom Plan.collaborators
    { plugins := { nwc := some ⟨["wss://relay.example"], none⟩ } } true {}
    [.trigger swapMessage, .turn 1, .turn 1, .turn 1, .shutdown, .turn 4, .turn 4, .turn 4]

/-- The session and the relay of that run have been had, and given back. -/
theorem relay_leaves_nothing : ∃ (s : Service Plan) (before after : List (Nat × Occurrence)),
    relayRun = some s ∧ s.history = before ++ (0, .hostShutdown .requested) :: after ∧
      (.sessionOpened 0 ∈ before.map Prod.snd ∧ .pluginCreated 0 0 ∈ before.map Prod.snd) ∧
      GivenBack (before.map Prod.snd) ∧ InnerFirst s.record ∧
      (∀ k a, (k, a) ∈ s.activities → isHalfway a = false) ∧
      ∀ o ∈ after, isBeginning o.2 = false := by
  have hrun : relayRun.isSome = true := rfl
  refine ⟨relayRun.get hrun, (relayRun.get hrun).history.take 20,
    (relayRun.get hrun).history.drop 21, (Option.some_get hrun).symm, rfl, ⟨?_, ?_⟩, ?_⟩
  · exact List.mem_of_getElem? (i := 3) rfl
  · exact List.mem_of_getElem? (i := 7) rfl
  · exact teardown_leaves_nothing (reachable_of_playFrom (Option.some_get hrun).symm) rfl

end PushWake.Service
