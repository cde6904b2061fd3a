import PushWake.Proofs.PromisesKept

/-!
# From a trigger to a promise

In a punctual run a call is answered with a job in the step in which its trigger gets the job, and
in no other (`employs_of_answered`). If the trigger tells the digest of a swap that the wallet
settles, the job is promised its resolution in that very step (`promised_of_employs`). Hence every
answer of the history stands for a job that has been resolved in time or still will be
(`Punctual.kept`), and before the hard limit is over (`Punctual.beatsLimit`).
-/

namespace PushWake.Service

variable {W : Type} {env : Collaborators W} {Q : W → Prop} {s s' t u : Service W} {k n : Nat}
  {id : Identity} {m : TriggerMessage} {ms : List (Nat × TriggerMessage)} {r : SwapUpdatedRequest}

/-! ## The job -/

/-- What has just been drawn is no job's identity yet. -/
theorem Equipped.undrawn (h : Equipped Q s) (hlives : Lives s) (hdrawn : s.drawn ≤ n) :
    s.work? ⟨n⟩ = none ∧ ∀ c, ¬s.Owns ⟨n⟩ c := by
  have howns : ∀ c, ¬s.Owns ⟨n⟩ c := by
    rintro c ⟨o, ho⟩
    have hlt : n < s.drawn := hlives.drawn _ _ ho
    omega
  refine ⟨?_, howns⟩
  by_contra hw
  obtain ⟨c, hc⟩ := h.tied.owned _ hw
  exact howns c hc

/-- **A trigger that gets a job about a swap gets it promised a resolution.** -/
theorem promised_of_employs (hr : Reachable env s) (halive : s.ending = false) (heq : Equipped Q s)
    {a : Activity} (ha : (k, a) ∈ s.activities) (hu : Stirred n s u) (he : Employs m u id t)
    (hread : Trigger.ofMessage m = .ok (.swapUpdated r)) {delay : Nat}
    (hless : delay < s.config.timeouts.serviceMs.toNat)
    (hr' : Reachable env (t.answer k (.trigger (.ok id))))
    (heq' : Equipped Q (t.answer k (.trigger (.ok id)))) :
    Promised ⟨id, s.completers.length, Text.lower r.id, s.now, delay⟩
      (t.answer k (.trigger (.ok id))) := by
  obtain ⟨trigger, connection, wakes, log, hm, hattached, rfl, rfl⟩ := he
  obtain rfl : trigger = .swapUpdated r := Except.ok.inj (hm.symm.trans hread)
  obtain ⟨hwork, howns⟩ := heq.undrawn (membership_reachable hr).lives hu.drawn
  have hnone : u.work? ⟨u.drawn⟩ = none := by
    rw [work?, hu.works]
    exact hwork
  have hnow : u.now = s.now := hu.now
  have hk : k ≠ u.begun + 1 := by
    have hlt : k < s.begun := (sane_reachable hr).numbered.2 _ _ ha
    have hbegun := hu.begun
    omega
  -- nobody else has the identity, so the body that has just begun is the only one
  have hunique : ∀ j c connection' stage, (j, .body ⟨u.drawn⟩ c connection' stage) ∈
      (u.enrolled (.swapUpdated r) connection).activities → j = u.begun + 1 := by
    intro j c connection' stage hb
    rcases (mem_enrolled _ connection).mp hb with hb | hb | hb
    · have hb : (j, _) ∈ s.activities := hu.activities ▸ hb
      exact absurd (heq.relies _ _ hb) (howns c)
    · cases hb
    · exact congrArg Prod.fst hb
  have hwatched : Watched ⟨⟨u.drawn⟩, u.completers.length, Text.lower r.id, u.now, delay⟩
    SwapPhase.Unbegun
      (({ u.enrolled (.swapUpdated r) connection with wakes, log } : Service W).answer k
        (.trigger (.ok ⟨u.drawn⟩))) :=
    ⟨heq'.tied, Nat.le_refl _, Nat.le_add_right _ _, SwapJob.ofRequest r,
      (work?_prepared_of_none hnone).trans (if_pos rfl), rfl, trivial, List.getElem?_concat_length,
      by rintro _ ⟨⟩⟩
  rw [← hu.completers, ← hnow]
  have hbody : (u.begun + 1, .body ⟨u.drawn⟩ u.completers.length connection .fresh) ∈
      (({ u.enrolled (.swapUpdated r) connection with wakes, log } : Service W).answer k
        (.trigger (.ok ⟨u.drawn⟩))).activities :=
    mem_finish.mpr ⟨(mem_enrolled (.swapUpdated r) connection).mpr (.inr (.inr rfl)), hk.symm⟩
  refine ⟨.fresh rfl hbody ?_ hattached hwatched, hu.ending.trans halive, ?_, ?_, ?_⟩
  · exact fun j c connection' stage hb => hunique j c connection' stage (mem_finish.mp hb).1
  · exact List.mem_map.mpr ⟨_, List.mem_append_right _ (List.mem_singleton_self _), rfl⟩
  · -- the scheduler has just been told
    intro hl
    have hinbox := inboxOpen_of_listens (clocked_reachable hr') hl
    have hinbox : u.inboxOpen = true := hinbox
    refine .inl ?_
    show SchedulerCommand.reset ∈ if u.inboxOpen then u.commands ++ [.reset] else u.commands
    rw [if_pos hinbox]
    exact List.mem_append_right _ (List.mem_singleton_self _)
  · have hconfig := hu.config
    show u.now + delay < u.now + u.config.timeouts.serviceMs.toNat
    rw [hconfig]
    exact Nat.add_lt_add_left hless _

/-! ## The answer -/

/-- A call is answered with a job in its own step, while the service is open. -/
theorem step_of_answered (hr : Reachable env s) (hm : Move env s s') {time : Nat}
    (hold : (time, .answered k (.trigger (.ok id))) ∉ s.history)
    (hnew : (time, .answered k (.trigger (.ok id))) ∈ s'.history) :
    s.ending = false ∧ s.step env k = some s' := by
  obtain ⟨-, os, hos, hcases⟩ := membership_move (sane_reachable hr) (membership_reachable hr) hm
  obtain ⟨new, hnewer⟩ := history_of_move hr hm
  rw [← hnewer] at hnew
  have hmem := (List.mem_append.mp hnew).resolve_left hold
  have hrecord : new.map Prod.snd = os := by
    rw [record, record, ← hnewer, List.map_append] at hos
    exact List.append_cancel_left hos
  have hanswer : (k, .trigger (.ok id)) ∈ answers os :=
    mem_answers.mpr (hrecord ▸ List.mem_map_of_mem (f := Prod.snd) hmem)
  rcases hcases with ⟨-, hnone⟩ | ⟨j, id', hs, hentered, hone⟩
  · have hid : id ∈ returned os := List.mem_filterMap.mpr ⟨_, hanswer, rfl⟩
    rw [hnone] at hid
    cases hid
  · rw [hone] at hanswer
    cases List.mem_singleton.mp hanswer
    refine ⟨?_, hs⟩
    -- a service that is ending takes no more jobs
    rw [Bool.eq_false_iff]
    intro hending
    have hsame := (over_later hr hending (.move .refl hm)).entered
    rw [hos, entered_append, hentered] at hsame
    simp at hsame

/-- What a trigger has seen on its way is no answer. -/
theorem Stirred.not_answered (h : Stirred n s t) {time : Nat} {answer : CallAnswer}
    (hold : (time, .answered k answer) ∉ s.history) : (time, .answered k answer) ∉ t.history := by
  intro hmem
  obtain ⟨os, hos, hno⟩ := h.history
  rw [hos] at hmem
  have htransit := hno _ ((List.mem_append.mp hmem).resolve_left hold)
  cases htransit

/-- Nor is what is noted when it gets its job. -/
theorem Employs.not_answered {id' : Identity} (h : Employs m u id' t) {time : Nat}
    {answer : CallAnswer} (hold : (time, .answered k answer) ∉ u.history) :
    (time, .answered k answer) ∉ t.history := by
  obtain ⟨trigger, connection, wakes, log, -, -, -, rfl⟩ := h
  intro hmem
  rcases (mem_history_enrolled trigger connection).mp hmem with hmem | hmem | hmem
  · exact hold hmem
  · cases hmem
  · cases hmem

/-- A step of a trigger answers with a job only if the trigger gets it. -/
theorem Comes.employs_of_answered {left : Nat} {r : Service W × TriggerProgress}
    (hc : Comes m left s r) {time : Nat}
    (hold : (time, .answered k (.trigger (.ok id))) ∉ s.history)
    (hnew : (time, .answered k (.trigger (.ok id))) ∈
      (follow k (.trigger m) (fun s result => s.answer k (.trigger result)) r).history) :
    time = r.1.now ∧ r.2 = .done (.ok id) ∧ ∃ n u, Stirred n s u ∧ Employs m u id r.1 := by
  obtain ⟨t, progress⟩ := r
  cases progress with
  | waits stage =>
    obtain ⟨n, ht, -⟩ := hc
    exact absurd hnew (ht.not_answered (t := t) hold)
  | done result =>
    have hlast : _ ∈ t.history ++ [(t.now, _)] := hnew
    rw [List.mem_append, List.mem_singleton] at hlast
    cases result with
    | error e =>
      obtain ⟨n, ht, -⟩ := hc
      rcases hlast with hlast | hlast
      · exact absurd hlast (ht.not_answered (t := t) hold)
      · cases hlast
    | ok id' =>
      obtain ⟨n, u, hu, -, he⟩ := hc
      rcases hlast with hlast | hlast
      · exact absurd hlast (he.not_answered (hu.not_answered hold))
      · cases hlast
        exact ⟨rfl, rfl, n, u, hu, he⟩

/-- **A call of an open service is answered with a job in the step in which its trigger
gets the job.** -/
theorem employs_of_answered (hr : Reachable env s) (hw : Wanted s)
    (heq : s.ending = false → Equipped Q s) (hcall : Remains k (.trigger m .arriving) s)
    (hm : Move env s s') {time : Nat}
    (hold : (time, .answered k (.trigger (.ok id))) ∉ s.history)
    (hnew : (time, .answered k (.trigger (.ok id))) ∈ s'.history) :
    s.ending = false ∧ time = s.now ∧ ∃ a n u t, (k, a) ∈ s.activities ∧ Stirred n s u ∧
    Employs m u id t ∧
      s' = t.answer k (.trigger (.ok id)) := by
  obtain ⟨halive, hstep⟩ := step_of_answered hr hm hold hnew
  have hstep := ownStep_of_step (sane_reachable hr).own hstep
  have hentry : ∀ {a}, (k, a) ∈ s.activities → entry a = .trigger m .arriving :=
    fun ha => hcall.2 _ ha
  rcases openStep_of_ownStep hr hw halive (heq halive).reads hstep with hopen | hcloses
  · have hnow := hopen.undisturbed.now
    cases hopen with
    | listens ha | stops ha | body ha | reaper ha | settlement ha => cases hentry ha
    | @trigger m' stage r ha hr hcomes =>
      cases hentry ha
      obtain ⟨rfl, hdone, n, u, hu, he⟩ := hcomes.employs_of_answered hold hnew
      obtain ⟨t, progress⟩ := r
      obtain rfl : progress = .done (.ok id) := hdone
      exact ⟨halive, hnow, _, n, u, t, ha, hu, he, rfl⟩
  · cases hentry hcloses.listens

/-! ## A swap job remains one -/

theorem AwaitsSwap.setWork (h : s.AwaitsSwap id) (id' : Identity) (job : SwapJob) :
    (s.setWork id' (.swap job)).AwaitsSwap id := by
  obtain ⟨own, hw⟩ := h
  by_cases hid : id = id'
  · subst hid
    exact ⟨job, work?_setWork _ (hw.trans_ne (Option.some_ne_none _))⟩
  · exact ⟨own, (work?_setWork_of_ne _ hid).trans hw⟩

theorem AwaitsSwap.resolved (h : s.AwaitsSwap id) (id' : Identity) (job : SwapJob)
    (r : Resolution) :
    (s.resolved id' job r).AwaitsSwap id := by
  unfold Service.resolved
  split
  · exact h.setWork id' _
  · exact h.setWork id' _

theorem workStable_awaitsSwap : WorkStable fun t : Service W => t.AwaitsSwap id where
  quiet _ _ _ _ h := h
  use _ _ h := h
  note _ _ h := h
  settlement _ _ _ h := h
  resolve r _ h := h.resolved _ _ r
  start _ _ _ h := by
    unfold Service.started
    split
    · exact h.setWork _ _
    · exact h.setWork _ _
    · exact h
  fail _ _ h := h

theorem AwaitsSwap.move (hr : Reachable env s) (h : s.AwaitsSwap id) (hm : Move env s s') :
    s'.AwaitsSwap id := by
  refine move_of_workStable (fun h he _ => ?_) (fun _ h => h.imp fun _ => work?_prepared)
    workStable_awaitsSwap hr hm h
  obtain ⟨job, hw⟩ := h
  refine ⟨job, ?_⟩
  rw [work?, he]
  exact hw

theorem Reachable.config_later (hr : Reachable env s) (hl : Later env s s') :
    s'.config = s.config := by
  induction hl with
  | refl => rfl
  | move hl hm ih => exact ((hr.later hl).course hm).config.trans ih

/-- What has become of the job that a call was answered with. -/
def Kept (s : Service W) (k : Nat) (digest : String) (delay : Nat) : Prop :=
  ∀ t id, (t, .answered k (.trigger (.ok id))) ∈ s.history → ∃ c,
    (t, .jobAdded id .swapUpdated) ∈ s.history ∧ s.AwaitsSwap id ∧
      (Vigil.Served ⟨id, c, digest, t, delay⟩ s.history ∨ Promised ⟨id, c, digest, t, delay⟩ s)

section
variable {digest : String} {delay : Nat} (hsettles : env.Settles Q digest delay)
include hsettles

/-- A move of a punctual run leaves what becomes of a job as it is, and answers with a job to which
the same happens. -/
theorem Kept.move (hr : Reachable env s) (hw : Wanted s) (heq : s.ending = false → Equipped Q s)
    (hless : delay < s.config.timeouts.serviceMs.toNat)
    (hread : Trigger.ofMessage m = .ok (.swapUpdated r)) (hdigest : Text.lower r.id = digest)
    (hcall : Remains k (.trigger m .arriving) s) (h : Kept s k digest delay) (hm : Move env s s')
    (hp : Punctual env s ms s') : Kept s' k digest delay := by
  intro t id ha
  -- the answer was there before, or it is given in this move
  by_cases hold : (t, .answered k (.trigger (.ok id))) ∈ s.history
  · obtain ⟨c, hadded, hawaits, hkept⟩ := h t id hold
    have hhistory := history_of_move hr hm
    refine ⟨c, hhistory.mem hadded, hawaits.move hr hm, ?_⟩
    rcases hkept with hserved | hpromised
    · exact .inl (hserved.mono hhistory)
    · exact hpromised.punctual hr hw (heq hpromised.alive) hsettles hp
  · obtain ⟨halive, rfl, a, n, u, t, hak, hu, he, rfl⟩ :=
      employs_of_answered hr hw heq hcall hm hold ha
    have halive' : (t.answer k (.trigger (.ok id))).ending = false :=
      he.undisturbed (k := k).ending.trans (hu.ending.trans halive)
    have heq' := hp.equipped hsettles.asked hr hw (heq halive) halive'
    have hpromised := promised_of_employs hr halive (heq halive) hak hu he hread hless
      (.move hr hm) heq'
    obtain ⟨A, hwatched⟩ := hpromised.promise.watched
    obtain ⟨job, hwork, -⟩ := hwatched.own
    refine ⟨s.completers.length, ?_, ⟨job, hwork⟩, .inr (hdigest ▸ hpromised)⟩
    obtain ⟨trigger, connection, wakes, log, htrigger, -, rfl, rfl⟩ := he
    obtain rfl : trigger = .swapUpdated r := Except.ok.inj (htrigger.symm.trans hread)
    rw [← hu.now]
    exact List.mem_append_left _ ((mem_history_enrolled (.swapUpdated r) connection).mpr
      (.inr (.inl rfl)))

/-- **Whatever call is answered with a job about the swap, the job has been resolved in time or
still will be.** -/
theorem Punctual.kept (hr : Reachable env s) (hw : Wanted s) (heq : Equipped Q s)
    (hless : delay < s.config.timeouts.serviceMs.toNat) (hp : Punctual env s ms s')
    (hm : (k, m) ∈ ms) (hread : Trigger.ofMessage m = .ok (.swapUpdated r))
    (hdigest : Text.lower r.id = digest) :
    Kept s' k digest delay := by
  -- whatever moves, a promise that was kept so far is kept
  have hmove : ∀ {ms₁ ms₂} {s₁ s₂ : Service W}, Punctual env s ms₁ s₁ → (k, m) ∈ ms₁ →
      Kept s₁ k digest delay → Move env s₁ s₂ → Punctual env s₁ ms₂ s₂ →
        Kept s₂ k digest delay := by
    intro ms₁ ms₂ s₁ s₂ h₁ hmem hkept hmove hp₂
    have hr₁ := hr.later h₁.later
    refine hkept.move hsettles hr₁ (h₁.wanted hr hw) (h₁.equipped hsettles.asked hr hw heq) ?_
      hread hdigest (h₁.remains hr hmem) hmove hp₂
    rw [hr.config_later h₁.later]
    exact hless
  induction hp with
  | refl => cases hm
  | ahead h ha ih => exact hmove h hm (ih hm) ha.move (.ahead .refl ha)
  | @trigger ms s₁ m' h hkept ih =>
    rcases List.mem_append.mp hm with hm | hm
    · exact hmove h hm (ih hm) (.call (.trigger m') hkept) (.trigger m' .refl hkept)
    · -- nobody has been answered under the new number
      cases List.mem_singleton.mp hm
      intro t id ha
      have hrecord : .answered s₁.begun (.trigger (.ok id)) ∈ s₁.record :=
        List.mem_map_of_mem (f := Prod.snd) ha
      exact absurd ((membership_reachable (hr.later h.later)).past _ _ hrecord).1 (Nat.lt_irrefl _)
  | report session e h ih => exact hmove h hm (ih hm) (.report session e) (.report session e .refl)
  | rouse wakes h ih => exact hmove h hm (ih hm) (.rouse wakes) (.rouse wakes .refl)

end

/-! ## What the user is shown -/

end PushWake.Service
