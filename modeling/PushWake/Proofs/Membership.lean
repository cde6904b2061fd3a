import PushWake.Collaborators.Plan
import PushWake.Proofs.SetEntries

/-!
# Who is in the set

At any point between two turns the members of the set are the jobs that have been answered with and
whose reapers still wait, in the order of their answers. What carries this through a run is that
every turn accounts for what it adds: a job that enters is the answer of the call whose turn it is,
and a job that leaves has had its completer used.
-/

namespace PushWake

namespace Service

variable {W : Type} {env : Collaborators W} {s s' t : Service W} {k : Nat}
  {new : List (Identity × Nat)}

/-! ## Between turns -/

/-- What is known of the set between two turns. -/
structure Membership (s : Service W) : Prop where
  lives : Lives s
  ids : s.jobs.ids = (entered s.record).filter fun id => !(departed s.record).contains id
  reapers : s.reapers.map Prod.fst = s.jobs.ids
  /-- Whoever waits for a completer waits for the one of its job. -/
  known : ∀ r ∈ s.reapers, ∃ m, s.completers[r.2]? = some m ∧ m.job = r.1
  /-- Every body is that of a job that has entered, and no job has two. -/
  bodies : (s.bodies.map Prod.fst).Sublist (entered s.record)
  /-- Every body has the completer of its job. -/
  manned : ∀ b ∈ s.bodies, ∃ m, s.completers[b.2]? = some m ∧ m.job = b.1
  answered : returned s.record = entered s.record
  /-- A call that has been answered is over. -/
  past : ∀ k a, .answered k a ∈ s.record → k < s.begun ∧ ∀ b, (k, b) ∉ s.activities

/-- What a turn of an activity adds to the record: no job enters and none is answered with; or one
job enters, and the answer of the activity is that job. -/
def Accounts (k : Nat) (os : List Occurrence) : Prop :=
  (entered os = [] ∧ returned os = []) ∨
    ∃ id, entered os = [id] ∧ answers os = [(k, .trigger (.ok id))]

/-- After a turn the set is accounted for, and so is what the turn has added. -/
structure Accounted (k : Nat) (s s' : Service W) : Prop where
  membership : Membership s'
  added : ∃ os, s'.record = s.record ++ os ∧ Accounts k os
  /-- Whoever has got a body in the turn had not entered before. -/
  bodies : ∀ b ∈ s'.bodies, b ∈ s.bodies ∨ b.1 ∉ entered s.record

theorem Enters.idle (h : Enters [] s t) (hrecord : s'.record = t.record) :
    ∃ os, s'.record = s.record ++ os ∧ entered os = [] ∧ returned os = [] := by
  obtain ⟨os, hr, hentered, -, hanswers⟩ := h.record
  exact ⟨os, hrecord.trans hr, hentered, by simp [returned, hanswers]⟩

theorem Enters.accounts (h : Enters [] s t) (hrecord : s'.record = t.record) :
    ∃ os, s'.record = s.record ++ os ∧ Accounts k os := by
  obtain ⟨os, hr, hidle⟩ := h.idle hrecord
  exact ⟨os, hr, .inl hidle⟩

/-- Whoever gets a body by entering is new. -/
theorem Enters.bodies_fresh (h : Enters new s t) (hl : Lives s')
    (hentered : entered s'.record = entered s.record ++ new.map Prod.fst) {b : Identity × Nat}
    (hb : b ∈ t.bodies) : b ∈ s.bodies ∨ b.1 ∉ entered s.record := by
  rw [h.bodies, List.mem_append] at hb
  refine hb.imp_right fun hnew hold => ?_
  have hnodup := entered_nodup hl.timely
  rw [hentered, List.nodup_append] at hnodup
  exact hnodup.2.2 b.1 hold b.1 (List.mem_map_of_mem hnew) rfl

theorem Enters.mem_bodies (h : Enters [] s t) {b : Identity × Nat} (hb : b ∈ t.bodies) :
    b ∈ s.bodies := by
  rw [h.bodies, List.append_nil] at hb
  exact hb

theorem enters_cancelIfUnheld : Enters [] s s.cancelIfUnheld := by
  unfold cancelIfUnheld
  split
  · exact .send _
  · exact .refl

theorem lives_cancelIfUnheld (h : Lives s) : Lives s.cancelIfUnheld := by
  unfold cancelIfUnheld
  split
  · exact steady_lives.send _ h
  · exact h

theorem entered_of_departed {os : List Occurrence} (h : Orderly Timely os) {id : Identity}
    (hid : id ∈ departed os) : id ∈ entered os := by
  obtain ⟨o, ho⟩ := mem_departed.mp hid
  obtain ⟨before, after, rfl⟩ := List.append_of_mem ho
  obtain ⟨⟨kind, hadded⟩, -⟩ := h.was_allowed rfl
  exact mem_entered.mpr ⟨kind, List.mem_append_left _ hadded⟩

namespace Membership

/-- What is nothing to the set, the activities, the completers and the record changes nothing. -/
theorem quiet (h : Membership s) (hjobs : s'.jobs = s.jobs) (ha : s'.activities = s.activities)
    (hb : s'.begun = s.begun) (hc : s'.completers = s.completers) (hdrawn : s'.drawn = s.drawn)
    (hhistory : s'.history = s.history) : Membership s' := by
  have hrecord : s'.record = s.record := by rw [record, record, hhistory]
  have hreapers : s'.reapers = s.reapers := by
    rw [Service.reapers, Service.reapers, ha]
  have hbodies : s'.bodies = s.bodies := by
    rw [Service.bodies, Service.bodies, gathered, gathered, ha]
  refine ⟨h.lives.quiet hhistory hc hdrawn, ?_, ?_, ?_, ?_, ?_, ?_, ?_⟩
  · rw [hjobs, hrecord]
    exact h.ids
  · rw [hreapers, hjobs]
    exact h.reapers
  · rw [hreapers, hc]
    exact h.known
  · rw [hbodies, hrecord]
    exact h.bodies
  · rw [hbodies, hc]
    exact h.manned
  · rw [hrecord]
    exact h.answered
  · rw [hrecord, ha, hb]
    exact h.past

theorem nodup (h : Membership s) : s.jobs.ids.Nodup := by
  rw [h.ids]
  exact (entered_nodup h.lives.timely).filter _

/-- A member that goes is one more that has left. -/
theorem erase_ids (h : Membership s) (job : Identity) : s.jobs.ids.erase job =
    (entered s.record).filter fun id => !(departed s.record ++ [job]).contains id := by
  rw [h.nodup.erase_eq_filter, h.ids, List.filter_filter]
  refine List.filter_congr fun id _ => ?_
  by_cases hjob : id = job <;> simp [hjob]

/-- A turn ends: what it has added to the set has been answered with, and nobody else has been
answered. -/
theorem conclude (h : Membership s) (he : Enters new s t) (hl : Lives s')
    (hids : s'.jobs.ids = t.jobs.ids) (hreapers : s'.reapers = t.reapers)
    (hbodies : s'.bodies.Sublist t.bodies) (hc : s'.completers = t.completers)
    (os : List Occurrence) (hrecord : s'.record = t.record ++ os) (hentered : entered os = [])
    (hdeparted : departed os = []) (hreturned : returned os = new.map Prod.fst)
    (hpast : ∀ k a, .answered k a ∈ s'.record → k < s'.begun ∧ ∀ b, (k, b) ∉ s'.activities) :
    Membership s' := by
  obtain ⟨os', hr, hentered', hdeparted', hanswers'⟩ := he.record
  have hreturned' : returned os' = [] := by simp [returned, hanswers']
  have hall : entered s'.record = entered s.record ++ new.map Prod.fst := by
    simp [hrecord, hr, hentered, hentered']
  have hgone : departed s'.record = departed s.record := by
    simp [hrecord, hr, hdeparted, hdeparted']
  -- whoever enters is new, and so has not left before
  have hfresh : ∀ id ∈ new.map Prod.fst, !(departed s.record).contains id := by
    intro id hid
    have hnodup := entered_nodup hl.timely
    rw [hall, List.nodup_append] at hnodup
    rw [Bool.not_eq_true', List.contains_eq_mem, decide_eq_false_iff_not]
    intro hdep
    exact hnodup.2.2 id (entered_of_departed h.lives.timely hdep) id hid rfl
  -- whoever had the completer of its job has it still, and so has whoever has entered
  have hknown : ∀ {old : List (Identity × Nat)},
      (∀ r ∈ old, ∃ m, s.completers[r.2]? = some m ∧ m.job = r.1) →
      ∀ r ∈ old ++ new, ∃ m, s'.completers[r.2]? = some m ∧ m.job = r.1 := by
    intro old hold r hr
    rw [hc]
    rcases List.mem_append.mp hr with hr | hr
    · obtain ⟨m, hm, hj⟩ := hold r hr
      obtain ⟨m', hm', hj'⟩ := he.completers r.2 m hm
      exact ⟨m', hm', hj'.trans hj⟩
    · exact he.known r hr
  refine ⟨hl, ?_, ?_, ?_, ?_, ?_, ?_, hpast⟩
  · rw [hids, he.ids, hall, hgone, List.filter_append, ← h.ids, List.filter_eq_self.mpr hfresh]
  · rw [hreapers, he.reapers, List.map_append, h.reapers, hids, he.ids]
  · rw [hreapers, he.reapers]
    exact hknown h.known
  · rw [hall]
    refine (hbodies.map Prod.fst).trans ?_
    rw [he.bodies, List.map_append]
    exact h.bodies.append (List.Sublist.refl _)
  · intro b hb
    exact hknown h.manned b (he.bodies ▸ hbodies.subset hb)
  · rw [hall, ← h.answered]
    simp [hrecord, hr, hreturned, hreturned']

/-- Calls that are over stay so through a turn. -/
theorem past_turn (h : Membership s) (hj : Joined s.scene t.scene) (he : Enters new s t) {j : Nat}
    {a : CallAnswer} (ha : .answered j a ∈ t.record) : j < t.begun ∧
    ∀ b, (j, b) ∉ t.activities := by
  have ha : .answered j a ∈ s.record := he.unanswered.mp ha
  obtain ⟨hlt, hgone⟩ := h.past j a ha
  exact ⟨Nat.lt_of_lt_of_le hlt hj.begun_le, fun b hb => hgone b (hj.mem_old hb hlt)⟩

/-- Nobody in particular moves. -/
theorem join (h : Membership s) (hj : Joined s.scene t.scene) (he : Enters [] s t) (hl : Lives t) :
    Membership t :=
  h.conclude he hl rfl rfl (.refl _) rfl [] (by simp) rfl rfl rfl fun _ _ ha => h.past_turn hj he ha

theorem cancelIfUnheld (h : Membership s) : Membership s.cancelIfUnheld :=
  h.join (cancelIfUnheld_turn (k := 0)).joined enters_cancelIfUnheld (lives_cancelIfUnheld h.lives)

variable (h : Membership s) (hn : s.scene.Numbered)
include h hn

/-- An activity comes to wait. -/
theorem put (hj : Joined s.scene t.scene) (he : Enters [] s t) (hl : Lives t) {a a' : Activity}
    (ha : (k, a) ∈ s.activities) (hidle : reaped? a = none) (hidle' : reaped? a' = none)
    (hsame : manned? a' = manned? a) : Accounted k s (t.put k a') where
  membership := by
    have hk : ∀ b, (k, b) ∈ t.activities → reaped? b = none := fun _ => unreaped hn hj ha hidle
    have hbodies : (t.put k a').bodies.Sublist t.bodies :=
      bodies_put hn hj ha hsame ▸ List.Sublist.refl _
    refine h.conclude he (hl.quiet rfl rfl rfl) rfl (reapers_put hk hidle') hbodies rfl []
      (by simp [Service.record, Service.put]) rfl rfl rfl fun j b hb => ?_
    have hb : .answered j b ∈ t.record := hb
    obtain ⟨hlt, hgone⟩ := h.past_turn hj he hb
    refine ⟨hlt, fun c hc => ?_⟩
    rcases mem_put hc with ⟨rfl, -⟩ | ⟨hc, -⟩
    · exact hgone a (hj.stays ha)
    · exact hgone c hc
  added := he.accounts rfl
  bodies b hb := .inl (he.mem_bodies (bodies_put hn hj ha hsame ▸ hb))

/-- An activity comes to its end. -/
theorem finish (hj : Joined s.scene t.scene) (he : Enters [] s t) (hl : Lives t) {a : Activity}
    (ha : (k, a) ∈ s.activities) (hidle : reaped? a = none) : Accounted k s (t.finish k) where
  membership := by
    have hk : ∀ b, (k, b) ∈ t.activities → reaped? b = none := fun _ => unreaped hn hj ha hidle
    refine h.conclude he (hl.quiet rfl rfl rfl) rfl (reapers_finish hk) bodies_finish rfl []
      (by simp [Service.record, Service.finish]) rfl rfl rfl fun j b hb => ?_
    have hb : .answered j b ∈ t.record := hb
    obtain ⟨hlt, hgone⟩ := h.past_turn hj he hb
    exact ⟨hlt, fun c hc => hgone c (mem_finish.mp hc).1⟩
  added := he.accounts rfl
  bodies b hb := .inl (he.mem_bodies (bodies_finish.subset hb))

/-- A call of the host is answered, with the job that has entered if there is one. -/
theorem answer (hj : Joined s.scene t.scene) (he : Enters new s t) (hl : Lives t) {a : Activity}
    (ha : (k, a) ∈ s.activities) (hidle : reaped? a = none) {b : CallAnswer}
    (hb : b.job?.toList = new.map Prod.fst) : Accounted k s (t.answer k b).cancelIfUnheld := by
  have hk : ∀ c, (k, c) ∈ t.activities → reaped? c = none := fun _ => unreaped hn hj ha hidle
  -- a call that is still there has not been answered
  have hunanswered : ∀ c, .answered k c ∉ t.record := by
    intro c hc
    exact (h.past k c (he.unanswered.mp hc)).2 a ha
  have hlives : Lives (t.answer k b) :=
    (hl.quiet rfl rfl rfl : Lives (t.finish k)).noteTimely hunanswered nofun nofun
  have hrecord : (t.answer k b).record = t.record ++ [.answered k b] := record_note _
  have hm : Membership (t.answer k b) := by
    refine h.conclude he hlives rfl (reapers_finish hk) bodies_finish rfl _ hrecord rfl rfl ?_
      fun j c hc => ?_
    · rw [returned_answered, hb]
      simp [returned, answers]
    · rw [hrecord, List.mem_append, List.mem_singleton] at hc
      rcases hc with hc | hc
      · obtain ⟨hlt, hgone⟩ := h.past_turn hj he hc
        exact ⟨hlt, fun d hd => hgone d (mem_finish.mp hd).1⟩
      · cases hc
        exact ⟨(hj.numbered hn).2 _ _ (hj.stays ha), fun d hd => (mem_finish.mp hd).2 rfl⟩
  obtain ⟨os, hr, hentered, -, hanswers⟩ := he.record
  have hcancel := enters_cancelIfUnheld (s := t.answer k b)
  obtain ⟨os', hr', hentered', -, hanswers'⟩ := hcancel.record
  refine ⟨hm.cancelIfUnheld, ⟨os ++ [.answered k b] ++ os', by rw [hr', hrecord, hr]; simp, ?_⟩,
    fun c hc => he.bodies_fresh hlives ?_ (bodies_finish.subset (hcancel.mem_bodies hc))⟩
  case refine_2 =>
    rw [hrecord, hr, entered_append, entered_append, hentered]
    exact List.append_nil _
  cases hjob : b.job? with
  | none =>
    rw [hjob] at hb
    have hnone : new.map Prod.fst = [] := hb.symm
    have hreturned : returned os = [] ∧ returned os' = [] := by
      simp [returned, hanswers, hanswers']
    exact .inl ⟨by simp [hentered, hentered', hnone], by simp [hreturned, hjob]⟩
  | some id =>
    rw [hjob] at hb
    have hone : new.map Prod.fst = [id] := hb.symm
    have hok : b = .trigger (.ok id) := CallAnswer.eq_of_job? hjob
    exact .inr ⟨id, by simp [hentered, hentered', hone], by simp [hanswers, hanswers', hok]⟩

/-- A reaper takes its job out, with the outcome of the completer. -/
theorem reap {id job : Identity} {c : Nat} {o : JobOutcome}
    (ha : (k, .reaper id c) ∈ s.activities) (hc : s.completers[c]? = some ⟨job, some o⟩) :
    Accounted k s ((s.removeJob id o).1.finish k) := by
  have hreaper : (id, c) ∈ s.reapers := mem_reapers.mpr ⟨k, ha⟩
  -- the completer that was used is the one of the reaper's own job
  obtain rfl : job = id := by
    obtain ⟨m, hm, hjob⟩ := h.known _ hreaper
    rw [hc] at hm
    cases hm
    exact hjob
  have hid : job ∈ s.jobs.ids := h.reapers ▸ List.mem_map_of_mem hreaper
  obtain ⟨hin, hout⟩ := List.mem_filter.mp (h.ids ▸ hid)
  have hstays : job ∉ departed s.record := by simpa using hout
  obtain ⟨e, hfind⟩ := Option.ne_none_iff_exists'.mp fun hf => JobSet.not_mem_of_find hf hid
  obtain ⟨left, log, hleft, hout⟩ := s.removeJob_of_without hfind o
  have htimely : Timely s.record (.jobRemoved job o) :=
    ⟨mem_entered.mp hin, ⟨c, (h.lives.used job c o).mpr hc⟩,
      fun o' ho' => hstays (mem_departed.mpr ⟨o', ho'⟩)⟩
  have henters : Enters [] (s.without job o left log) (s.removeJob job o).1 :=
    hout steady_enters.toErrand .refl
  have hlives : Lives (s.removeJob job o).1 :=
    hout steady_lives.toErrand ((h.lives.noteTimely htimely nofun nofun).quiet rfl rfl rfl)
  have hj : Joined s.scene (s.removeJob job o).1.scene := (removeJob_turn (k := k) job o).joined
  generalize (s.removeJob job o).1 = t at henters hlives hj
  obtain ⟨os, hr, hentered, hdeparted, hanswers⟩ := henters.record
  have hreturned : returned os = [] := by simp [returned, hanswers]
  have hrecord : t.record = s.record ++ [.jobRemoved job o] ++ os := by
    rw [hr, record_without]
  have hids : t.jobs.ids = s.jobs.ids.erase job := by
    rw [henters.ids, List.map_nil, List.append_nil]
    exact hleft
  have hreapers : t.reapers = s.reapers := by
    rw [henters.reapers, List.append_nil]
    rfl
  have hbodies : t.bodies = s.bodies := by
    rw [henters.bodies, List.append_nil]
    rfl
  have hsame : entered t.record = entered s.record := by simp [hrecord, hentered]
  refine ⟨⟨hlives.quiet rfl rfl rfl, ?_, ?_, ?_, ?_, ?_, ?_, ?_⟩,
    ⟨[.jobRemoved job o] ++ os, ?_, .inl ?_⟩, fun b hb => .inl (hbodies ▸ bodies_finish.subset hb)⟩
  · show t.jobs.ids = (entered t.record).filter fun id => !(departed t.record).contains id
    have hgone : departed t.record = departed s.record ++ [job] := by simp [hrecord, hdeparted]
    rw [hids, h.erase_ids, hsame, hgone]
  · have hnodup : (t.reapers.map Prod.fst).Nodup := by
      rw [hreapers, h.reapers]
      exact h.nodup
    rw [reapers_finish_reaper (hj.numbered hn) (hj.stays ha) hnodup, hreapers, h.reapers]
    exact hids.symm
  · intro r hr
    have hr : r ∈ s.reapers := by
      obtain ⟨j, hjr⟩ := mem_reapers.mp hr
      exact hreapers ▸ mem_reapers.mpr ⟨j, (mem_finish.mp hjr).1⟩
    obtain ⟨m, hm, hjob⟩ := h.known r hr
    obtain ⟨m', hm', hjob'⟩ := henters.completers r.2 m hm
    exact ⟨m', hm', hjob'.trans hjob⟩
  · show ((t.finish k).bodies.map Prod.fst).Sublist (entered t.record)
    rw [hsame]
    refine (bodies_finish.map Prod.fst).trans ?_
    rw [hbodies]
    exact h.bodies
  · intro b hb
    obtain ⟨m, hm, hjob⟩ := h.manned b (hbodies ▸ bodies_finish.subset hb)
    obtain ⟨m', hm', hjob'⟩ := henters.completers b.2 m hm
    exact ⟨m', hm', hjob'.trans hjob⟩
  · show returned t.record = entered t.record
    rw [hrecord]
    simp [hentered, hreturned, h.answered]
  · intro j a hja
    have hja : .answered j a ∈ t.record := hja
    rw [henters.unanswered, record_without] at hja
    have hja : .answered j a ∈ s.record := by simpa using hja
    obtain ⟨hlt, hgone⟩ := h.past j a hja
    exact ⟨Nat.lt_of_lt_of_le hlt hj.begun_le,
      fun b hb => hgone b (hj.mem_old (mem_finish.mp hb).1 hlt)⟩
  · exact hrecord.trans (List.append_assoc ..)
  · exact ⟨by simp [hentered], by simp [hreturned]⟩

end Membership

/-! ## Steps -/

/-- A trigger gets its job by the registration of one. -/
theorem enters_beginJob (he : Enters [] s t) (hopen : t.jobs.closed = false) (trigger : Trigger)
    (connection : Connection) :
    ∃ c, Enters [(⟨t.drawn⟩, c)] s (t.beginJob trigger connection).1 := by
  obtain ⟨wakes, log, hb⟩ := t.beginJob_of_open hopen trigger connection
  rw [hb]
  have hquiet : Enters [] (t.enrolled trigger connection)
      { t.enrolled trigger connection with wakes, log } := .quiet rfl rfl rfl rfl
  exact ⟨t.completers.length, (he.trans (.enrolled trigger connection)).trans hquiet⟩

theorem lives_beginJob (hl : Lives s) (hopen : s.jobs.closed = false) (trigger : Trigger)
    (connection : Connection) : Lives (s.beginJob trigger connection).1 := by
  obtain ⟨wakes, log, hb⟩ := s.beginJob_of_open hopen trigger connection
  rw [hb]
  exact (hl.enrolled trigger connection).quiet rfl rfl rfl

namespace Membership

variable (h : Membership s) (hsane : Sane s)
include h hsane

theorem trigger {m : TriggerMessage} {stage : TriggerStage} {r : Service W × TriggerProgress}
    (ha : (k, .trigger m stage) ∈ s.activities) (hr : s.resumeTrigger env k m stage = some r) :
    Accounted k s (follow k (.trigger m)
      (fun s result => (s.answer k (.trigger result)).cancelIfUnheld) r) := by
  have hj := (resumeTrigger_turn hsane.ledger (hsane.sound _ _ ha) hr).1.joined
  have he : TriggerIn (fun t => Enters [] s t) (fun id t => ∃ c, Enters [(id, c)] s t) r :=
    steady_enters.resumeTrigger
      (fun trigger connection he hopen => enters_beginJob he hopen trigger connection) hr .refl
  have hl : TriggerIn Lives (fun _ => Lives) r :=
    steady_lives.resumeTrigger
      (fun trigger connection hl hopen => lives_beginJob hl hopen trigger connection) hr h.lives
  obtain ⟨t, progress⟩ := r
  cases progress with
  | waits stage => exact h.put hsane.numbered hj he hl ha rfl rfl rfl
  | done result =>
    cases result with
    | error e => exact h.answer hsane.numbered hj he hl ha rfl rfl
    | ok id =>
      obtain ⟨c, he⟩ : ∃ c, Enters [(id, c)] s t := he
      exact h.answer hsane.numbered hj he hl ha rfl rfl

theorem shutdown {stage : Option TeardownStage} {r : Service W × TeardownProgress}
    (ha : (k, .shutdown stage) ∈ s.activities) (hj : Joined s.scene r.1.scene)
    (he : Enters [] s r.1) (hl : Lives r.1) :
    Accounted k s (follow k (fun stage => .shutdown (some stage))
      (fun s _ => (s.answer k .shutDown).cancelIfUnheld) r) := by
  obtain ⟨t, progress⟩ := r
  cases progress with
  | waits stage => exact h.put hsane.numbered hj he hl ha rfl rfl rfl
  | done => exact h.answer hsane.numbered hj he hl ha rfl rfl

theorem body {id : Identity} {completer : Nat} {connection : Connection} {stage : BodyStage}
    {r : Service W × BodyProgress} (ha : (k, .body id completer connection stage) ∈ s.activities)
    (hj : Joined s.scene r.1.scene) (he : Enters [] s r.1) (hl : Lives r.1) :
    Accounted k s (follow k (.body id completer connection)
      (fun s result => s.endBody k id result) r) := by
  obtain ⟨stage, -, hr⟩ | ⟨result, log, -, hr⟩ := followBody_eq k id completer connection r
  · rw [hr]
    exact h.put hsane.numbered hj he hl ha rfl rfl rfl
  · rw [hr]
    have he' : Enters [] s { r.1 with log } := he.trans (.quiet rfl rfl rfl rfl)
    have hl' : Lives { r.1 with log } := hl.quiet rfl rfl rfl
    exact h.finish hsane.numbered hj he' hl' ha rfl

/-- **Every step accounts for what it adds to the set.** -/
theorem ownStep (hs : OwnStep env s k s') : Accounted k s s' := by
  cases hs with
  | @scheduler stage r ha hr =>
    have hj := (resumeScheduler_turn (hsane.sound _ _ ha) hr).1.joined
    have he : Enters [] s r.1 := steady_enters.resumeScheduler deskStable_enters hr .refl
    have hl : Lives r.1 := steady_lives.resumeScheduler deskStable_lives hr h.lives
    obtain ⟨t, progress⟩ := r
    cases progress with
    | waits stage => exact h.put hsane.numbered hj he hl ha rfl rfl rfl
    | done =>
      obtain ⟨hm, hadded, hbodies⟩ := h.finish hsane.numbered hj he hl ha rfl
      exact ⟨hm.quiet rfl rfl rfl rfl rfl rfl, hadded, hbodies⟩
  | trigger ha hr => exact h.trigger hsane ha hr
  | enterShutdown ha =>
    exact h.shutdown hsane ha enterShutdown_turn.1.joined (steady_enters.enterShutdown .refl)
      (steady_lives.enterShutdown h.lives)
  | shutdown ha hr =>
    exact h.shutdown hsane ha (resumeTeardown_turn (hsane.sound _ _ ha) hr).1.joined
      (steady_enters.resumeTeardown hr .refl) (steady_lives.resumeTeardown hr h.lives)
  | freshBody ha =>
    exact h.body hsane ha (freshBody_turn (k := k) _ _ _).joined
      (workStable_enters.beginBody _ _ _ (steady_enters.markRunning _ .refl))
      (workStable_lives.beginBody _ _ _ (steady_lives.markRunning _ h.lives))
  | @body id completer connection stage r ha hr =>
    have ht : Turn k s r.1 := workStable_turn.resumeBody hr .refl
    exact h.body hsane ha ht.joined (workStable_enters.resumeBody hr .refl)
      (workStable_lives.resumeBody hr h.lives)
  | reaper ha hc => exact h.reap hsane.numbered ha hc
  | @settlement session due steps ha hdue =>
    have ht : Turn k s (settleLater env session s steps) :=
      workStable_turn.settleLater _ _ .refl
    exact h.finish hsane.numbered ht.joined (workStable_enters.settleLater _ _ .refl)
      (workStable_lives.settleLater _ _ h.lives) ha rfl

end Membership

/-- A move adds no job, or it is the step of the call that is answered with the job. -/
theorem membership_move (hsane : Sane s) (h : Membership s) (hm : Move env s s') :
    Membership s' ∧ ∃ os, s'.record = s.record ++ os ∧
      ((entered os = [] ∧ returned os = []) ∨ ∃ k id, s.step env k = some s' ∧
        entered os = [id] ∧ answers os = [(k, .trigger (.ok id))]) := by
  have hquiet : ∀ {t : Service W}, Membership t → t.record = s.record →
      Membership t ∧ ∃ os, t.record = s.record ++ os ∧
        ((entered os = [] ∧ returned os = []) ∨ ∃ k id, s.step env k = some t ∧
          entered os = [id] ∧ answers os = [(k, .trigger (.ok id))]) :=
    fun hm hr => ⟨hm, [], by simp [hr], .inl ⟨rfl, rfl⟩⟩
  cases hm with
  | @act _ k hs =>
    obtain ⟨hm, ⟨os, hr, hos⟩, -⟩ := h.ownStep hsane (ownStep_of_step hsane.own hs)
    refine ⟨hm, os, hr, hos.imp_right ?_⟩
    rintro ⟨id, hentered, hanswers⟩
    exact ⟨k, id, hs, hentered, hanswers⟩
  | @call a ha _ =>
    obtain ⟨hnone, hbody⟩ : reaped? a = none ∧ manned? a = none := by cases ha <;> exact ⟨rfl, rfl⟩
    refine hquiet ⟨h.lives.quiet rfl rfl rfl, h.ids, ?_, ?_, ?_, ?_, h.answered, ?_⟩ rfl
    · rw [reapers_begin hnone]
      exact h.reapers
    · rw [reapers_begin hnone]
      exact h.known
    · rw [Service.bodies, gathered_begin hbody]
      exact h.bodies
    · rw [Service.bodies, gathered_begin hbody]
      exact h.manned
    · intro j b hb
      obtain ⟨hlt, hgone⟩ := h.past j b hb
      refine ⟨Nat.lt_succ_of_lt hlt, fun c hc => ?_⟩
      -- a call that begins has the next number, and no answer bears it
      rcases mem_begin.mp hc with hc | ⟨rfl, -⟩
      · exact hgone c hc
      · exact Nat.lt_irrefl _ hlt
  | report session e =>
    have ht : Turn 0 s (s.emit env session e) := workStable_turn.emit session e .refl
    have he : Enters [] s (s.emit env session e) := workStable_enters.emit session e .refl
    obtain ⟨os, hr, hidle⟩ := he.idle rfl
    exact ⟨h.join ht.joined he (workStable_lives.emit session e h.lives), os, hr, .inl hidle⟩
  | wait t =>
    exact hquiet (h.quiet rfl rfl rfl rfl rfl rfl) rfl
  | release =>
    have hreleased : Membership { s with released := true } := h.quiet rfl rfl rfl rfl rfl rfl
    have he : Enters [] { s with released := true } s.release := enters_cancelIfUnheld
    obtain ⟨os, hr, hidle⟩ := he.idle rfl
    exact ⟨hreleased.cancelIfUnheld, os, hr, .inl hidle⟩
  | rouse wakes =>
    exact hquiet (h.quiet rfl rfl rfl rfl rfl rfl) rfl

theorem membership_reachable (h : Reachable env s) : Membership s := by
  induction h with
  | start hs =>
    obtain ⟨message, rfl⟩ := start_eq hs
    refine ⟨⟨.nil, fun id c o => ⟨nofun, nofun⟩, nofun, nofun, nofun⟩, rfl, rfl, nofun, .slnil,
      nofun, rfl, nofun⟩
  | move hr hm ih => exact (membership_move (sane_reachable hr) ih hm).1

/-! ## Bodies -/

/-- Where no job has two bodies, a body that has gone leaves its job none. -/
theorem not_mem_bodies_finish (hnodup : (s.bodies.map Prod.fst).Nodup) (hn : s.scene.Numbered)
    {id : Identity} {c c' : Nat} {connection : Connection} {stage : BodyStage}
    (ha : (k, .body id c connection stage) ∈ s.activities) : (id, c') ∉ (s.finish k).bodies := by
  intro hb
  have hperm := (gathered_finish_some (f := manned?) hn ha rfl).map Prod.fst
  obtain ⟨hgone, -⟩ := List.nodup_cons.mp (hperm.nodup_iff.mp hnodup)
  exact hgone (List.mem_map.mpr ⟨_, hb, rfl⟩)

theorem Membership.waits_iff (h : Membership s) {id : Identity} (hid : id ∈ returned s.record) :
    id ∈ s.reapers.map Prod.fst ↔ ∀ o, .jobRemoved id o ∉ s.record := by
  rw [h.reapers, h.ids, List.mem_filter, ← h.answered]
  simp [hid, mem_departed]

/-- **No job is lost, and none is doubled.** A move adds a job only as the step of the call that it
answers with that job, and a call is answered with a job only in such a step. A job enters once, its
completer is used once, and it leaves at most once, after that use and with its outcome; the first
use of a completer decides, and letting go of it is a failure. So the members are, in the order of
the answers and without repetition, the jobs that were answered with and whose reapers still wait;
and a reaper that has taken its job out is gone for good. -/
theorem members_are_jobs_answered_for (h : Reachable env s) :
    (∀ s', Move env s s' → ∃ os, s'.record = s.record ++ os ∧
      ((entered os = [] ∧ returned os = []) ∨ ∃ k id, s.step env k = some s' ∧
        entered os = [id] ∧ answers os = [(k, .trigger (.ok id))])) ∧
    entered s.record = returned s.record ∧
    Orderly Timely s.record ∧
    (∀ c job, s.completers[c]? = some ⟨job, none⟩ →
      (∀ o, (s.complete c o).record = s.record ++ [.jobCompleted job c o]) ∧
        (s.dropCompleter c).record =
          s.record ++ [.jobCompleted job c (.failed "dropped without completing")]) ∧
    (∀ c job o, s.completers[c]? = some ⟨job, some o⟩ →
      ∀ o', s.complete c o' = s ∧ s.dropCompleter c = s) ∧
    s.jobs.ids = (returned s.record).filter (fun id => (s.reapers.map Prod.fst).contains id) ∧
    s.jobs.ids.Nodup ∧
    ∀ id ∈ returned s.record,
      id ∈ s.reapers.map Prod.fst ↔ ∀ o, .jobRemoved id o ∉ s.record := by
  have hm := membership_reachable h
  refine ⟨fun s' hmove => (membership_move (sane_reachable h) hm hmove).2, hm.answered.symm,
    hm.lives.timely, fun c job hc => ⟨record_complete hc, record_dropCompleter hc⟩,
    fun c job o hc => complete_of_used hc, ?_, hm.nodup, fun id hid => hm.waits_iff hid⟩
  rw [hm.ids, ← hm.answered]
  refine List.filter_congr fun id hid => ?_
  have hiff := hm.waits_iff hid
  rw [Bool.eq_iff_iff]
  simp only [Bool.not_eq_true', List.contains_eq_mem, decide_eq_false_iff_not, decide_eq_true_eq]
  rw [hiff, mem_departed, not_exists]

/-- A service with two jobs of which one has failed and been taken out. -/
def failedSyncRun : Option (Service Plan) :=
  playFrom Plan.collaborators {} false { sync := [.error (.generic "offline")] }
    [.trigger swapMessage, .trigger swapMessage, .turn 1, .turn 1, .turn 2, .turn 4, .turn 4,
      .turn 3]

/-- Two jobs were answered with, and the second is the only member left. -/
theorem failed_job_leaves_other : ∃ s, failedSyncRun = some s ∧
    returned s.record = [⟨1⟩, ⟨2⟩] ∧ s.jobs.ids = [⟨2⟩] ∧
    s.jobs.ids = (returned s.record).filter (fun id => (s.reapers.map Prod.fst).contains id) ∧
    Orderly Timely s.record := by
  have hrun : failedSyncRun.isSome = true := rfl
  obtain ⟨-, -, htimely, -, -, hids, -⟩ :=
    members_are_jobs_answered_for (reachable_of_playFrom (Option.some_get hrun).symm)
  exact ⟨failedSyncRun.get hrun, (Option.some_get hrun).symm, rfl, rfl, hids, htimely⟩

end Service

end PushWake
