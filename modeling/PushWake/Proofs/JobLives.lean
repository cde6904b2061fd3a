import PushWake.Proofs.StepStable

/-!
# The life of a job

A job enters the set once, its completer is used once, and it leaves the set once, with the
outcome of that use; and a call of the host is answered once. `Timely` says so of each thing that
happens, by what had happened before. That it holds at every point comes down to the completers:
identities are drawn afresh, so every job has a completer of its own, and a completer shows
whether it has been used.
-/

namespace PushWake

/-- Whether something is a turning point in the life of a job, or the answer to a call. -/
def Occurrence.isTurningPoint : Occurrence → Bool
  | .jobAdded _ _ => true
  | .jobCompleted _ _ _ => true
  | .jobRemoved _ _ => true
  | .answered _ _ => true
  | _ => false

/-- What must have happened, and what must not, before a turning point. -/
def Timely (os : List Occurrence) : Occurrence → Prop
  | .jobAdded id _ => ∀ kind, .jobAdded id kind ∉ os
  | .jobCompleted id _ _ => ∀ c o, .jobCompleted id c o ∉ os
  | .jobRemoved id o => (∃ kind, .jobAdded id kind ∈ os) ∧ (∃ c, .jobCompleted id c o ∈ os) ∧
      ∀ o', .jobRemoved id o' ∉ os
  | .answered k _ => ∀ a, .answered k a ∉ os
  | _ => True

theorem timely_of_not_isTurningPoint {os : List Occurrence} {o : Occurrence}
    (ho : o.isTurningPoint = false) : Timely os o := by
  cases o with
  | jobAdded | jobCompleted | jobRemoved | answered => cases ho
  | _ => trivial

theorem not_isTurningPoint_of_isWork {o : Occurrence} (ho : o.isWork = true) :
    o.isTurningPoint = false := by
  cases o <;> first | rfl | cases ho

theorem not_isTurningPoint_of_isDealing {o : Occurrence} (ho : o.isDealing = true) :
    o.isTurningPoint = false := by
  cases o <;> first | rfl | cases ho

theorem not_isTurningPoint_of_isClockwork {o : Occurrence} (ho : o.isClockwork = true) :
    o.isTurningPoint = false := by
  cases o <;> first | rfl | cases ho

namespace Service

variable {W : Type} {env : Collaborators W} {s s' : Service W} {k : Nat}

/-! ## Completers -/

theorem record_wakeReaper (c : Nat) : (s.wakeReaper c).record = s.record := by
  obtain ⟨_, he⟩ := s.wakeReaper_eq c
  rw [he]
  rfl

section
variable {c : Nat} {job : Identity}

/-- The first use of a completer is recorded with its outcome. -/
theorem record_complete (hc : s.completers[c]? = some ⟨job, none⟩) (o : JobOutcome) :
    (s.complete c o).record = s.record ++ [.jobCompleted job c o] := by
  simp only [complete, hc]
  rw [record_wakeReaper, record_note]
  rfl

/-- A completer that goes away unused counts as used for a failure. -/
theorem record_dropCompleter (hc : s.completers[c]? = some ⟨job, none⟩) :
    (s.dropCompleter c).record =
      s.record ++ [.jobCompleted job c (.failed "dropped without completing")] := by
  simp only [dropCompleter, hc]
  exact record_complete (s := s.say "job" .debug
    ("Job " ++ job.text ++ " dropped its completer without completing")) hc .dropped

/-- Further uses do nothing. -/
theorem complete_of_used {o : JobOutcome} (hc : s.completers[c]? = some ⟨job, some o⟩)
    (o' : JobOutcome) : s.complete c o' = s ∧ s.dropCompleter c = s := by
  simp only [complete, dropCompleter, hc, and_self]

end

/-! ## Lives -/

/-- The lives of the jobs, as the record has them and as the completers show. -/
structure Lives (s : Service W) : Prop where
  timely : Orderly Timely s.record
  used : ∀ id c o, .jobCompleted id c o ∈ s.record ↔ s.completers[c]? = some ⟨id, some o⟩
  drawn : ∀ (c : Nat) m, s.completers[c]? = some m → m.job.number < s.drawn
  /-- No two completers are those of one job. -/
  alone : ∀ (c c' : Nat) m m', s.completers[c]? = some m → s.completers[c']? = some m' →
    m.job = m'.job → c = c'
  entered : ∀ id kind, .jobAdded id kind ∈ s.record → id.number < s.drawn

namespace Lives

/-- What is nothing to the record and to the completers changes nothing. -/
theorem congr (h : Lives s) (hrecord : s'.record = s.record) (hc : s'.completers = s.completers)
    (hdrawn : s.drawn ≤ s'.drawn) : Lives s' where
  timely := hrecord ▸ h.timely
  used := by
    rw [hrecord, hc]
    exact h.used
  drawn c m hm := Nat.lt_of_lt_of_le (h.drawn c m (hc ▸ hm)) hdrawn
  alone := hc ▸ h.alone
  entered id kind hid := Nat.lt_of_lt_of_le (h.entered id kind (hrecord ▸ hid)) hdrawn

theorem quiet (h : Lives s) (hhistory : s'.history = s.history) (hc : s'.completers = s.completers)
    (hdrawn : s'.drawn = s.drawn) : Lives s' :=
  h.congr (by rw [record, record, hhistory]) hc (Nat.le_of_eq hdrawn.symm)

/-- Something happens in its time that is no entry and no use of a completer. -/
theorem noteTimely (h : Lives s) {o : Occurrence} (ho : Timely s.record o)
    (hadded : ∀ id kind, o ≠ .jobAdded id kind)
    (hcompleted : ∀ id c o', o ≠ .jobCompleted id c o') : Lives (s.note o) where
  timely := by
    rw [record_note]
    exact h.timely.snoc ho
  used id c o' := by
    rw [record_note, List.mem_append, List.mem_singleton]
    exact (or_iff_left fun he => hcompleted id c o' he.symm).trans (h.used id c o')
  drawn := h.drawn
  alone := h.alone
  entered id kind hid := by
    rw [record_note, List.mem_append, List.mem_singleton] at hid
    exact h.entered id kind (hid.resolve_right fun he => hadded id kind he.symm)

theorem note (h : Lives s) {o : Occurrence} (ho : o.isTurningPoint = false) : Lives (s.note o) :=
  h.noteTimely (timely_of_not_isTurningPoint ho) (by rintro id kind rfl; cases ho)
    (by rintro id c o' rfl; cases ho)

/-- The first use of a completer is the first use of one of its job. -/
theorem use (h : Lives s) {c : Nat} {job : Identity} (o : JobOutcome)
    (hc : s.completers[c]? = some ⟨job, none⟩) :
    Lives ({ s with completers := s.completers.set c ⟨job, some o⟩ }.note
      (.jobCompleted job c o)) := by
  have hlt : c < s.completers.length := (List.getElem?_eq_some_iff.mp hc).1
  -- a use that had been recorded before would show on this completer, the only one of its job
  have hunused : ∀ c' o', .jobCompleted job c' o' ∉ s.record := by
    intro c' o' hmem
    have hc' := (h.used job c' o').mp hmem
    obtain rfl : c' = c := h.alone c' c _ _ hc' hc rfl
    rw [hc] at hc'
    cases hc'
  -- whoever's completer it was, it still is
  have hjob : ∀ (c' : Nat) m, (s.completers.set c ⟨job, some o⟩)[c']? = some m →
      ∃ m', s.completers[c']? = some m' ∧ m'.job = m.job := by
    intro c' m hm
    by_cases hcc : c = c'
    · subst hcc
      rw [List.getElem?_set_self hlt] at hm
      cases hm
      exact ⟨_, hc, rfl⟩
    · rw [List.getElem?_set_ne hcc] at hm
      exact ⟨m, hm, rfl⟩
  constructor
  · rw [record_note]
    exact h.timely.snoc hunused
  · intro id c' o'
    rw [record_note, List.mem_append, List.mem_singleton]
    show _ ↔ (s.completers.set c ⟨job, some o⟩)[c']? = some ⟨id, some o'⟩
    by_cases hcc : c = c'
    · subst hcc
      rw [List.getElem?_set_self hlt]
      constructor
      · rintro (hmem | he)
        · rw [(h.used id c o').mp hmem] at hc
          cases hc
        · cases he
          rfl
      · intro he
        cases he
        exact .inr rfl
    · rw [List.getElem?_set_ne hcc]
      refine (or_iff_left ?_).trans (h.used id c' o')
      rintro ⟨⟩
      exact hcc rfl
  · intro c' m hm
    obtain ⟨m', hm', he⟩ := hjob c' m hm
    rw [← he]
    exact h.drawn c' m' hm'
  · intro c₁ c₂ m₁ m₂ h₁ h₂ he
    obtain ⟨m₁', h₁', he₁⟩ := hjob c₁ m₁ h₁
    obtain ⟨m₂', h₂', he₂⟩ := hjob c₂ m₂ h₂
    exact h.alone c₁ c₂ m₁' m₂' h₁' h₂' (by rw [he₁, he₂, he])
  · intro id kind hid
    rw [record_note, List.mem_append, List.mem_singleton] at hid
    rcases hid with hid | hid
    · exact h.entered id kind hid
    · cases hid

/-- A completer for an identity that has just been drawn is the only one of its job. -/
theorem prepare (h : Lives s) (work : JobWork) : Lives (s.prepared work) := by
  -- the new completer comes last, behind all that were there
  have hcases : ∀ (c : Nat) m, (s.prepared work).completers[c]? = some m →
      s.completers[c]? = some m ∨ (c = s.completers.length ∧ m = ⟨⟨s.drawn⟩, none⟩) := by
    intro c m hm
    have hm : (s.completers ++ [⟨⟨s.drawn⟩, none⟩])[c]? = some m := hm
    rw [List.getElem?_append] at hm
    split at hm
    · exact .inl hm
    · rename_i hc
      obtain ⟨hlt, hm⟩ := List.getElem?_eq_some_iff.mp hm
      have hlt : c - s.completers.length < 1 := hlt
      refine .inr ⟨by omega, ?_⟩
      rw [← hm]
      simp
  have hold : ∀ (c : Nat) m, s.completers[c]? = some m →
      (s.prepared work).completers[c]? = some m := by
    intro c m hm
    show (s.completers ++ [⟨⟨s.drawn⟩, none⟩])[c]? = some m
    rw [List.getElem?_append_left (List.getElem?_eq_some_iff.mp hm).1]
    exact hm
  -- and nobody has had its job before, since identities are drawn in ascending order
  have hfresh : ∀ (c : Nat) m, s.completers[c]? = some m → m.job ≠ ⟨s.drawn⟩ := by
    intro c m hm he
    have hlt := h.drawn c m hm
    rw [he] at hlt
    exact Nat.lt_irrefl _ hlt
  refine ⟨h.timely, fun id c o => ?_, fun c m hm => ?_, fun c₁ c₂ m₁ m₂ h₁ h₂ he => ?_, ?_⟩
  · refine (h.used id c o).trans ⟨hold c _, fun hm => ?_⟩
    rcases hcases c _ hm with hm | ⟨-, hm⟩
    · exact hm
    · cases hm
  · rcases hcases c m hm with hm | ⟨-, rfl⟩
    · exact Nat.lt_succ_of_lt (h.drawn c m hm)
    · exact Nat.lt_succ_self _
  · rcases hcases c₁ m₁ h₁ with h₁ | ⟨hc₁, rfl⟩
    · rcases hcases c₂ m₂ h₂ with h₂ | ⟨-, rfl⟩
      · exact h.alone c₁ c₂ m₁ m₂ h₁ h₂ he
      · exact absurd he (hfresh c₁ m₁ h₁)
    · rcases hcases c₂ m₂ h₂ with h₂ | ⟨hc₂, -⟩
      · exact absurd he.symm (hfresh c₂ m₂ h₂)
      · exact hc₁.trans hc₂.symm
  · exact fun id kind hid => Nat.lt_succ_of_lt (h.entered id kind hid)

/-- A job that is registered enters for the first time. -/
theorem enrolled (h : Lives s) (trigger : Trigger) (connection : Connection) :
    Lives (s.enrolled trigger connection) := by
  have hfresh : ∀ kind, .jobAdded ⟨s.drawn⟩ kind ∉ s.record := by
    intro kind hmem
    exact Nat.lt_irrefl _ (h.entered _ kind hmem)
  have hp := h.prepare (.ofTrigger trigger)
  have hadded : Lives ((s.prepared (.ofTrigger trigger)).note
      (.jobAdded ⟨s.drawn⟩ (JobWork.ofTrigger trigger).kind)) := by
    refine ⟨?_, fun id c o => ?_, hp.drawn, hp.alone, fun id kind hid => ?_⟩
    · rw [record_note]
      exact hp.timely.snoc hfresh
    · rw [record_note, List.mem_append, List.mem_singleton]
      exact (or_iff_left nofun).trans (hp.used id c o)
    · rw [record_note, List.mem_append, List.mem_singleton] at hid
      rcases hid with hid | hid
      · exact hp.entered id kind hid
      · cases hid
        exact Nat.lt_succ_self _
  exact (hadded.note (o := .command .reset) rfl).quiet rfl rfl rfl

end Lives

theorem workBlind_lives : WorkBlind (W := W) Lives where
  quiet _ _ _ _ _ h := h.quiet rfl rfl rfl
  use o hc h := h.use o hc
  note ho h := h.note (not_isTurningPoint_of_isWork ho)
  settlement _ _ _ h := h.quiet rfl rfl rfl

theorem workStable_lives : WorkStable (W := W) Lives := workBlind_lives.stable

theorem sessionStable_lives : SessionStable (W := W) Lives where
  quiet _ _ _ _ _ _ _ h := h.quiet rfl rfl rfl
  draw h := h.congr rfl rfl (Nat.le_succ _)
  hub _ _ h := h.quiet rfl rfl rfl
  note ho h := h.note (not_isTurningPoint_of_isDealing ho)

theorem steady_lives : Steady (W := W) Lives where
  quiet := workStable_lives.quiet
  session := sessionStable_lives
  hub _ h := h.quiet rfl rfl rfl
  shelf _ h := h.quiet rfl rfl rfl
  signal id _ h := workBlind_lives.signal id h
  close h := h.quiet rfl rfl rfl
  send {s} c h := by
    obtain ⟨_, _, he⟩ := s.send_eq c
    rw [he]
    exact (h.note (o := .command c) rfl).quiet rfl rfl rfl
  set _ _ _ h := h.quiet rfl rfl rfl
  refuse _ message h := workStable_lives.refuse message (h.prepare _)
  start {s reason} _ h := (h.note (o := .teardownStarted reason) rfl).quiet rfl rfl rfl
  tell reason h := (h.note (o := .hostShutdown reason) rfl).quiet rfl rfl rfl

theorem deskStable_lives : DeskStable (W := W) Lives where
  desk _ _ h := h.quiet rfl rfl rfl
  note ho h := h.note (not_isTurningPoint_of_isClockwork ho)
  start h := (h.note (o := .teardownStarted .emptyDelay) rfl).quiet rfl rfl rfl

end Service

end PushWake
