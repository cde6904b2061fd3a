import PushWake.Collaborators.Plan
import PushWake.Proofs.PerformedOperations

/-!
# The last word on the set

Only some changes of the set are told the scheduler: a new job is, and the departure of the last
one, but not that of any other. Still the last thing the scheduler was told says whether there is a
job, as long as the set is open, since a change that is not told leaves that as it was
(`perform_open`). A closed set tells nothing, and neither does the operation that closes it.
-/

namespace PushWake

namespace JobSet

variable {s : JobSet} {op : SetOperation}

theorem sent_tells (s : JobSet) (op : SetOperation) :
    sent (s.tells op) = (s.perform op).command.toList := by
  have hshows : sent (s.shows op) = [] := by
    cases op with
    | broadcast e =>
      rw [shows, sent, List.filterMap_map]
      exact List.filterMap_eq_nil_iff.mpr fun _ _ => rfl
    | _ => rfl
  rw [tells, sent_append, hshows, List.nil_append]
  cases (s.perform op).command <;> rfl

/-- What an operation tells of a set that it leaves open: a job is there, none is, or nothing; and
then there is one if there was one before. -/
inductive Speaks (s : JobSet) : Change → Prop where
  | busy {c : Change} : c.command = some .reset → c.set.entries ≠ [] → Speaks s c
  | idle {c : Change} : c.command = some .armEmptyDelay → c.set.entries = [] → Speaks s c
  | quiet {c : Change} : c.command = none → (c.set.entries = [] ↔ s.entries = []) → Speaks s c

theorem commandIfEmpty_of_nil (hopen : s.closed = false) (he : s.entries = []) :
    s.commandIfEmpty = some .armEmptyDelay := by
  simp [commandIfEmpty, hopen, he]

theorem commandIfEmpty_of_ne_nil (he : s.entries ≠ []) : s.commandIfEmpty = none := by
  simp [commandIfEmpty, he]

theorem commandIfEmpty_of_closed (hclosed : s.closed = true) : s.commandIfEmpty = none := by
  simp [commandIfEmpty, hclosed]

theorem remove_open {job : Identity} (hopen : (s.remove job).set.closed = false) :
    s.closed = false ∧ Speaks s (s.remove job) := by
  cases hfind : s.find? job with
  | none =>
    have hsame : s.remove job = s.unchanged := by simp [remove, hfind]
    rw [hsame] at hopen ⊢
    exact ⟨hopen, .quiet rfl Iff.rfl⟩
  | some e =>
    have hout : s.remove job =
        ⟨{ s with entries := s.entries.eraseP fun e => e.id == job }, true,
          commandIfEmpty { s with entries := s.entries.eraseP fun e => e.id == job }⟩ := by
      simp [remove, hfind]
    rw [hout] at hopen ⊢
    refine ⟨hopen, ?_⟩
    by_cases hleft : (s.entries.eraseP fun e => e.id == job) = []
    · exact .idle (commandIfEmpty_of_nil hopen hleft) hleft
    · -- whoever is left was there before
      have hsome : s.entries ≠ [] := by
        intro hnone
        rw [hnone] at hleft
        exact hleft rfl
      exact .quiet (commandIfEmpty_of_ne_nil hleft) (iff_of_false hleft hsome)

theorem armIfEmpty_open (hopen : s.armIfEmpty.set.closed = false) :
    s.closed = false ∧ Speaks s s.armIfEmpty := by
  by_cases he : s.entries = []
  · have hs : s.closed = false := by
      rw [Bool.eq_false_iff]
      intro hclosed
      rw [armIfEmpty, commandIfEmpty_of_closed hclosed, unchanged, hclosed] at hopen
      cases hopen
    rw [armIfEmpty, commandIfEmpty_of_nil hs he]
    exact ⟨hs, .idle rfl he⟩
  · rw [armIfEmpty, commandIfEmpty_of_ne_nil he] at hopen ⊢
    exact ⟨hopen, .quiet rfl Iff.rfl⟩

/-- **An operation tells what has to be told**, if it leaves the set open. -/
theorem perform_open (op : SetOperation) (hopen : (s.perform op).set.closed = false) :
    s.closed = false ∧ Speaks s (s.perform op) := by
  cases op with
  | add job kind =>
    rcases Bool.eq_false_or_eq_true s.closed with hclosed | hs
    · rw [perform, add_closed hclosed, unchanged, hclosed] at hopen
      cases hopen
    · rw [perform, add_open hs]
      exact ⟨hs, .busy rfl (by simp)⟩
  | markRunning job =>
    obtain ⟨entries, hids, hset, hcommand⟩ := s.markRunning_eq job
    rw [perform, hset] at hopen
    refine ⟨hopen, .quiet hcommand ?_⟩
    rw [perform, hset]
    exact eq_nil_of_ids hids
  | remove job => exact remove_open hopen
  | armIfEmpty => exact armIfEmpty_open hopen
  | broadcast e => exact ⟨hopen, .quiet rfl Iff.rfl⟩
  | signal =>
    -- whoever closes the set does not leave it open
    rw [perform, close] at hopen
    split at hopen
    · rename_i hclosed
      cases hopen.symm.trans hclosed
    · cases hopen
  | closeIfEmpty =>
    rw [perform, closeIfEmpty] at hopen ⊢
    split at hopen
    · rename_i hsame
      rw [if_pos hsame]
      exact ⟨hopen, .quiet rfl Iff.rfl⟩
    · cases hopen
  | aside => exact ⟨hopen, .quiet rfl Iff.rfl⟩

/-- **A closed set tells nothing**, and neither does the operation that closes it. -/
theorem perform_silent (op : SetOperation) (hclosed : (s.perform op).set.closed = true) :
    (s.perform op).command = none := by
  cases op with
  | add job kind =>
    rcases Bool.eq_false_or_eq_true s.closed with hs | hs
    · rw [perform, add_closed hs]
      rfl
    · rw [perform, add_open hs, hs] at hclosed
      cases hclosed
  | markRunning job => exact (s.markRunning_eq job).choose_spec.2.2
  | remove job =>
    cases hfind : s.find? job with
    | none => simp [perform, remove, hfind, unchanged]
    | some e =>
      -- a removal closes nothing, so the set was closed before
      have hs : s.closed = true := by simpa [perform, remove, hfind] using hclosed
      simp [perform, remove, hfind, commandIfEmpty, hs]
  | armIfEmpty =>
    rw [perform, armIfEmpty] at hclosed ⊢
    cases hc : s.commandIfEmpty with
    | none => rfl
    | some c =>
      rw [hc] at hclosed
      cases hc.symm.trans (commandIfEmpty_of_closed hclosed)
  | broadcast e => rfl
  | signal =>
    rw [perform, close]
    split <;> rfl
  | closeIfEmpty =>
    rw [perform, closeIfEmpty]
    split <;> rfl
  | aside => rfl

end JobSet

namespace Service

variable {W : Type} {s₀ s t u : Service W} {ops : List (SetOperation × Bool)} {op : SetOperation}
  {done : Bool}

theorem Performs.sent (h : Performs s op done t) :
    sent t.record = PushWake.sent s.record ++ (s.jobs.perform op).command.toList := by
  rw [← sent_tidings, h.effect.2.tidings, sent_append, sent_tidings, JobSet.sent_tells]

/-- A set stays closed, and tells nothing more. -/
theorem Performed.silent (h : Performed s ops t) (hclosed : s.jobs.closed = true) :
    t.jobs.closed = true ∧ sent t.record = sent s.record := by
  induction h with
  | none => exact ⟨hclosed, rfl⟩
  | @more ops op done t u _ hp ih =>
    obtain ⟨hclosed, hsame⟩ := ih
    have hstays : u.jobs.closed = true := by
      rw [hp.effect.2.jobs, ← Bool.not_eq_false]
      intro hopen
      cases hclosed.symm.trans (JobSet.perform_open op hopen).1
    refine ⟨hstays, ?_⟩
    rw [hp.sent, JobSet.perform_silent op (hp.effect.2.jobs ▸ hstays), hsame]
    exact List.append_nil _

/-- The last thing that the scheduler was told of an open set says whether there is a job. -/
structure LastWord (s : Service W) : Prop where
  busy : s.jobs.closed = false → s.jobs.entries ≠ [] → (sent s.record).getLast? = some .reset
  idle : s.jobs.closed = false → s.jobs.entries = [] →
    ∀ c, (sent s.record).getLast? = some c → c = .armEmptyDelay

theorem Performs.lastWord (h : Performs s op done t) (hs : LastWord s) : LastWord t := by
  have hsent := h.sent
  have hjobs := h.effect.2.jobs
  constructor
  · intro hopen hsome
    rw [hjobs] at hopen hsome
    obtain ⟨hbefore, hspeaks⟩ := JobSet.perform_open op hopen
    cases hspeaks with
    | busy hc _ =>
      rw [hsent, hc]
      exact List.getLast?_concat
    | idle _ he => exact absurd he hsome
    | quiet hc he =>
      rw [hsent, hc, Option.toList_none, List.append_nil]
      exact hs.busy hbefore fun hnone => hsome (he.mpr hnone)
  · intro hopen hnone c hlast
    rw [hjobs] at hopen hnone
    obtain ⟨hbefore, hspeaks⟩ := JobSet.perform_open op hopen
    cases hspeaks with
    | busy _ hne => exact absurd hnone hne
    | idle hc _ =>
      rw [hsent, hc, Option.toList_some, List.getLast?_concat] at hlast
      exact (Option.some.inj hlast).symm
    | quiet hc he =>
      rw [hsent, hc, Option.toList_none, List.append_nil] at hlast
      exact hs.idle hbefore (he.mp hnone) c hlast

theorem Performed.lastWord (h : Performed s₀ ops s) (hjobs : s₀.jobs = {})
    (hrecord : s₀.record = []) :
    LastWord s := by
  induction h with
  | none =>
    refine ⟨fun _ hsome => ?_, fun _ _ c hlast => ?_⟩
    · rw [hjobs] at hsome
      exact absurd rfl hsome
    · rw [hrecord] at hlast
      cases hlast
  | more _ hp ih => exact hp.lastWord ih

/-- **The last command tells whether there is a job, and a closed set is silent.** After any
operations on a set that was empty at first, in any order: as long as it is open and the scheduler
has been told anything, the last command is a reset if there is a job, and the delay if there is
none. From the operation that closes the set on, and in this operation, the scheduler is told
nothing any more. -/
theorem last_command_tells_emptiness (hjobs : s₀.jobs = {}) (hrecord : s₀.record = [])
    (h : Performed s₀ ops s) :
    (s.jobs.closed = false → sent s.record ≠ [] →
      ((sent s.record).getLast? = some .reset ↔ s.jobs.entries ≠ []) ∧
      ((sent s.record).getLast? = some .armEmptyDelay ↔ s.jobs.entries = [])) ∧
    ∀ op done t ops' u, Performs s op done t → t.jobs.closed = true → Performed t ops' u →
      u.jobs.closed = true ∧ sent u.record = sent s.record := by
  obtain ⟨hbusy, hidle⟩ := h.lastWord hjobs hrecord
  refine ⟨fun hopen hsome => ?_, fun op done t ops' u hp hclosed hu => ?_⟩
  · obtain ⟨c, hc⟩ := Option.isSome_iff_exists.mp (List.getLast?_isSome.mpr hsome)
    by_cases he : s.jobs.entries = []
    · obtain rfl := hidle hopen he c hc
      rw [hc]
      exact ⟨iff_of_false (by decide) (absurd he), iff_of_true rfl he⟩
    · rw [hbusy hopen he]
      exact ⟨iff_of_true rfl he, iff_of_false (by decide) he⟩
  · obtain ⟨hstays, hsame⟩ := hu.silent hclosed
    refine ⟨hstays, hsame.trans ?_⟩
    rw [hp.sent, JobSet.perform_silent op (hp.effect.2.jobs ▸ hclosed)]
    exact List.append_nil _

/-- A service whose set a job has entered and left. -/
def emptied : Service Plan :=
  (((bare {} false {}).addJob ⟨0⟩ .swapUpdated).1.removeJob ⟨0⟩ .completed).1

/-- The last command of that service is the delay, and once its set is closed nothing follows, even
where a job is refused. -/
theorem emptied_set_goes_silent :
    Performed (bare {} false {}) [(.add ⟨0⟩ .swapUpdated, true), (.remove ⟨0⟩, true)] emptied ∧
    (sent emptied.record).getLast? = some .armEmptyDelay ∧
    sent (emptied.signalJobs.1.addJob ⟨1⟩ .lnurlPayInfo).1.record = sent emptied.record := by
  have hrun : Performed (bare {} false {}) [(.add ⟨0⟩ .swapUpdated, true), (.remove ⟨0⟩, true)]
      emptied := (Performed.none.more (.add ⟨0⟩ .swapUpdated)).more (.remove ⟨0⟩ .completed)
  have hlater : Performed emptied.signalJobs.1 [(.add ⟨1⟩ .lnurlPayInfo, false)]
      (emptied.signalJobs.1.addJob ⟨1⟩ .lnurlPayInfo).1 :=
        Performed.none.more (.add ⟨1⟩ .lnurlPayInfo)
  have hsent : sent emptied.record = [.reset, .armEmptyDelay] := rfl
  have hsome : sent emptied.record ≠ [] := hsent ▸ List.cons_ne_nil _ _
  obtain ⟨hlast, hsilent⟩ := last_command_tells_emptiness rfl rfl hrun
  exact ⟨hrun, (hlast rfl hsome).2.mpr rfl, (hsilent _ _ _ _ _ .signal rfl hlater).2⟩

end Service

end PushWake
