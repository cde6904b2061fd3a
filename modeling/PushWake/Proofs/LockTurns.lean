import PushWake.Proofs.LockCalls

/-!
# One call at a time

With the lock of a counter in hand, an activity is alone with what stands behind it
(`Counter.midst`). A property of what stands behind the lock, of the calls so far and of the
activity in the midst of something is therefore kept by all interleavings if it is kept by the
single turns (`Counter.Invariant`). And whoever has the lock can go on, so all calls come to an end,
in whatever order the activities take their turns (`Counter.Order.inevitable`).
-/

namespace PushWake.Service

variable {W V : Type} {env : Collaborators W} {s s' : Service W} {k : Nat}

namespace Counter

variable {c : Counter W V} {cs : List Activity} {a : Activity}

/-! ## Who is in the midst of something -/

/-- The activity that keeps the lock while it waits for something else. -/
def midst (c : Counter W V) (s : Service W) : Option (Nat × Activity) :=
  s.activities.find? fun a => c.stance a.2 == .inside

theorem mem_of_midst (h : c.midst s = some (k, a)) :
    (k, a) ∈ s.activities ∧ c.stance a = .inside := by
  have hin := List.find?_some h
  exact ⟨List.mem_of_find?_eq_some h, beq_iff_eq.mp hin⟩

theorem midst_eq_none : c.midst s = none ↔ ∀ j x, (j, x) ∈ s.activities → c.stance x ≠ .inside := by
  simp [midst]

namespace Order

/-- There is only one. -/
theorem midst_of_inside (h : c.Order cs s) (ha : (k, a) ∈ s.activities)
    (hin : c.stance a = .inside) : c.midst s = some (k, a) := by
  cases hm : c.midst s with
  | none => exact absurd hin (midst_eq_none.mp hm k a ha)
  | some x =>
    obtain ⟨j, b⟩ := x
    obtain ⟨hb, hbin⟩ := mem_of_midst hm
    have hj := h.holder_of_inside hb hbin
    rw [h.holder_of_inside ha hin] at hj
    cases hj
    rw [h.numbered.unique ha hb]

theorem filter_inside (h : c.Order cs s) :
    (s.activities.filter fun x => c.stance x.2 == .inside) = (c.midst s).toList := by
  have hnodup : ((s.activities.filter fun x => c.stance x.2 == .inside).map Prod.fst).Nodup :=
    h.numbered.1.sublist (List.filter_sublist.map _)
  have hall : ∀ x ∈ s.activities.filter fun x => c.stance x.2 == .inside,
      c.midst s = some x := by
    intro x hx
    obtain ⟨hx, hin⟩ := List.mem_filter.mp hx
    exact h.midst_of_inside hx (beq_iff_eq.mp hin)
  cases hl : s.activities.filter fun x => c.stance x.2 == .inside with
  | nil =>
    have hnone : c.midst s = none := by
      refine midst_eq_none.mpr fun j x hx hin => ?_
      have hmem : (j, x) ∈ s.activities.filter fun x => c.stance x.2 == .inside :=
        List.mem_filter.mpr ⟨hx, beq_iff_eq.mpr hin⟩
      rw [hl] at hmem
      cases hmem
    rw [hnone]
    rfl
  | cons x rest =>
    rw [hl] at hall hnodup
    rw [hall x List.mem_cons_self]
    cases rest with
    | nil => rfl
    | cons y rest =>
      -- two of them would have one number
      have hy := hall y (List.mem_cons_of_mem _ List.mem_cons_self)
      rw [hall x List.mem_cons_self] at hy
      cases hy
      simp at hnodup

theorem midst_congr (h : c.Order cs s')
    (hsame : ∀ j x, c.stance x = .inside → ((j, x) ∈ s'.activities ↔ (j, x) ∈ s.activities)) :
    c.midst s' = c.midst s := by
  cases hm : c.midst s with
  | none =>
    exact midst_eq_none.mpr fun j x hx hin => midst_eq_none.mp hm j x ((hsame j x hin).mp hx) hin
  | some x =>
    obtain ⟨hx, hin⟩ := mem_of_midst hm
    exact h.midst_of_inside ((hsame _ _ hin).mpr hx) hin

/-- Whoever has the lock, once it has asked for it, is in the midst of something, or nobody is. -/
theorem midst_asked (h : c.Order cs s) (ha : (k, a) ∈ s.activities)
    (hk : (c.asked s k a).holder = some k) :
    c.midst s = if c.stance a = .inside then some (k, a) else none := by
  by_cases hin : c.stance a = .inside
  · rw [if_pos hin, h.midst_of_inside ha hin]
  · rw [if_neg hin]
    refine midst_eq_none.mpr fun j x hx hxin => ?_
    obtain ⟨stance, hqueue, hothers, -⟩ := h.asked ha
    by_cases hj : j = k
    · subst hj
      exact hin (h.numbered.unique ha hx ▸ hxin)
    · have hstands := (hothers j hj).trans ((stances_of_mem h.numbered hx).trans hxin)
      have hholder := hqueue.inside j hstands
      rw [hk] at hholder
      exact hj (Option.some.inj hholder).symm

end Order

/-- Whoever keeps the lock is in the midst of something. -/
theorem midst_ne_none {stance : Stance} {x : Nat × Activity} (h : stance = .inside) :
    (if stance = .inside then some x else none) ≠ none := by
  rw [if_pos h]
  exact Option.some_ne_none x

/-- What a step is, for those who look at nothing but what stands behind the lock. -/
inductive Served (c : Counter W V) (cs : List Activity) (s : Service W) (k : Nat)
    (s' : Service W) : Prop where
  | idle : c.view s' = c.view s → c.midst s' = c.midst s → Served c cs s k s'
  | turn {a : Activity} {b : Option Activity} : cs[k]? = some (origin a) →
      c.midst s = (if c.stance a = .inside then some (k, a) else none) →
      c.turn k a (c.view s) b (c.view s') → c.midst s' = b.map (fun b => (k, b)) →
      Served c cs s k s'
  | pass {a : Activity} : cs[k]? = some (origin a) → c.pass k a (c.view s) (c.view s') →
      c.midst s' = c.midst s → Served c cs s k s'

theorem Order.served (law : c.Lawful env) (h : c.Order cs s) (hs : s.step env k = some s') :
    c.Served cs s k s' := by
  have h' := h.step law hs
  obtain ⟨a, ha, huses⟩ := h.uses law hs
  have horigin := h.origin k a ha
  cases huses with
  -- whoever comes to stand in line was outside and still is
  | @queue b hout hwaits _ _ _ hview hscene =>
    have hactivities : s'.activities = (s.put k b).activities := congrArg Scene.activities hscene
    refine .idle hview (h'.midst_congr fun j x hin => ?_)
    rw [hactivities]
    refine ⟨fun hx => ?_, fun hx => mem_put_of_ne hx ?_⟩
    · rcases mem_put hx with ⟨rfl, rfl⟩ | ⟨hx, -⟩
      · rw [hwaits] at hin
        cases hin
      · exact hx
    · rintro rfl
      rw [h.numbered.unique hx ha, hout] at hin
      cases hin
  | @stay b hholder hturn hlock hscene =>
    have hactivities : s'.activities = (s.put k b).activities := congrArg Scene.activities hscene
    refine .turn horigin (h.midst_asked ha hholder) hturn ?_
    exact h'.midst_of_inside (hactivities ▸ mem_put_self ha) (law.stays hturn).1
  -- whoever leaves was the one in the midst
  | leave hholder hturn hlock hscene =>
    have hactivities : s'.activities = (s.finish k).activities := congrArg Scene.activities hscene
    refine .turn horigin (h.midst_asked ha hholder) hturn ?_
    refine midst_eq_none.mpr fun j x hx hin => ?_
    obtain ⟨hx, hj⟩ := mem_finish.mp (hactivities ▸ hx)
    have hm := h.midst_of_inside hx hin
    rw [h.midst_asked ha hholder] at hm
    split at hm
    · cases hm
      exact hj rfl
    · cases hm
  | pass hout hpass hlock hscene =>
    have hactivities : s'.activities = (s.finish k).activities := congrArg Scene.activities hscene
    refine .pass horigin hpass (h'.midst_congr fun j x hin => ?_)
    rw [hactivities, mem_finish]
    refine ⟨fun hx => hx.1, fun hx => ⟨hx, ?_⟩⟩
    rintro rfl
    rw [h.numbered.unique hx ha, hout] at hin
    cases hin

/-! ## Invariants -/

/-- A property of the calls so far, of what stands behind the lock, and of who is in the midst of
something, that is kept by every turn. -/
structure Invariant (c : Counter W V)
    (good : List Activity → V → Option (Nat × Activity) → Prop) : Prop where
  start : ∀ config makesPlugins world, good []
    (c.view (Service.bare config makesPlugins world)) none
  call : ∀ {cs v p} (a : Activity), good cs v p → good (cs ++ [a]) v p
  turn : ∀ {cs k a b v v'}, cs[k]? = some (origin a) →
    good cs v (if c.stance a = .inside then some (k, a) else none) → c.turn k a v b v' →
    good cs v' (b.map fun b => (k, b))
  pass : ∀ {cs k a v v' p}, cs[k]? = some (origin a) → good cs v p → c.pass k a v v' → good cs v' p

namespace Invariant

variable {good : List Activity → V → Option (Nat × Activity) → Prop}

/-- An invariant that rests on another one. -/
theorem layer (inv : c.Invariant good)
    {more : List Activity → V → Option (Nat × Activity) → Prop}
    (start : ∀ config makesPlugins world,
      more [] (c.view (Service.bare config makesPlugins world)) none)
    (call : ∀ {cs v p} (a : Activity), more cs v p → more (cs ++ [a]) v p)
    (turn : ∀ {cs k a b v v'}, cs[k]? = some (origin a) →
      good cs v (if c.stance a = .inside then some (k, a) else none) →
      more cs v (if c.stance a = .inside then some (k, a) else none) → c.turn k a v b v' →
      more cs v' (b.map fun b => (k, b)))
    (pass : ∀ {cs k a v v' p}, cs[k]? = some (origin a) → good cs v p → more cs v p →
      c.pass k a v v' → more cs v' p) :
    c.Invariant fun cs v p => good cs v p ∧ more cs v p where
  start config makesPlugins world :=
    ⟨inv.start config makesPlugins world, start config makesPlugins world⟩
  call a h := ⟨inv.call a h.1, call a h.2⟩
  turn ho h ht := ⟨inv.turn ho h.1 ht, turn ho h.1 h.2 ht⟩
  pass ho h hp := ⟨inv.pass ho h.1 hp, pass ho h.1 h.2 hp⟩

theorem served (inv : c.Invariant good) (h : good cs (c.view s) (c.midst s))
    (hs : c.Served cs s k s') : good cs (c.view s') (c.midst s') := by
  cases hs with
  | idle hview hmidst =>
    rw [hview, hmidst]
    exact h
  | turn horigin hbefore hturn hafter =>
    rw [hafter]
    exact inv.turn horigin (hbefore ▸ h) hturn
  | pass horigin hpass hafter =>
    rw [hafter]
    exact inv.pass horigin h hpass

theorem midst_begin (law : c.Lawful env) (h : c.Order cs s) (ha : c.isCall a = true) :
    c.midst (s.begin a) = c.midst s := by
  refine (h.begin law ha).midst_congr fun j x hin => ?_
  rw [mem_begin]
  refine ⟨fun hx => hx.resolve_right ?_, .inl⟩
  rintro ⟨-, rfl⟩
  rw [(law.isCall ha).1] at hin
  cases hin

/-- **What every turn keeps holds in all interleavings.** -/
theorem holds (law : c.Lawful env) (inv : c.Invariant good) (h : CallRun env c.isCall cs s) :
    good cs (c.view s) (c.midst s) := by
  obtain ⟨config, makesPlugins, world, h⟩ := h
  induction h with
  | refl => exact inv.start config makesPlugins world
  | call hc ha ih =>
    rw [law.view_begin, midst_begin law (law.order ⟨_, _, _, hc⟩) ha]
    exact inv.call _ ih
  | act hc hs ih => exact inv.served ih ((law.order ⟨_, _, _, hc⟩).served law hs)
  | wait t _ ih =>
    rw [law.view_wait]
    exact ih
  | rouse wakes _ ih =>
    rw [law.view_rouse]
    exact ih

/-- What every turn does to what stands behind the lock is done by all that comes later. -/
theorem later (law : c.Lawful env) (inv : c.Invariant good) (related : V → V → Prop)
    (refl : ∀ v, related v v) (trans : ∀ {v v' v''}, related v v' → related v' v'' → related v v'')
    (turn : ∀ {cs k a b v v'}, cs[k]? = some (origin a) →
      good cs v (if c.stance a = .inside then some (k, a) else none) → c.turn k a v b v' →
      related v v')
    (pass : ∀ {k a v v'}, c.pass k a v v' → related v v') {cs' : List Activity}
    (h : CallRun env c.isCall cs s) (hc : Calls env c.isCall cs s cs' s') :
    related (c.view s) (c.view s') := by
  induction hc with
  | refl => exact refl _
  | call _ _ ih =>
    rw [law.view_begin]
    exact ih
  | act hc hs ih =>
    have hrun := h.goOn hc
    refine trans ih ?_
    -- only a turn or a pass changes what stands behind the lock
    cases (law.order hrun).served law hs with
    | idle hview _ =>
      rw [hview]
      exact refl _
    | turn horigin hbefore hturn _ => exact turn horigin (hbefore ▸ inv.holds law hrun) hturn
    | pass _ hpass _ => exact pass hpass
  | wait t _ ih =>
    rw [law.view_wait]
    exact ih
  | @rouse _ t wakes _ ih =>
    rw [law.view_rouse t wakes]
    exact ih

/-- The record only grows; and what cannot be undone restricts what is new in it. -/
theorem latched (law : c.Lawful env) (inv : c.Invariant good) (done : V → Prop)
    (may : Occurrence → Prop)
    (turn : ∀ {cs k a b v v'}, cs[k]? = some (origin a) →
      good cs v (if c.stance a = .inside then some (k, a) else none) → c.turn k a v b v' →
      done v → done v' ∧ ∃ new, c.record v' = c.record v ++ new ∧ ∀ o ∈ new, may o)
    (pass : ∀ {k a v v'}, c.pass k a v v' →
      done v → done v' ∧ ∃ new, c.record v' = c.record v ++ new ∧ ∀ o ∈ new, may o)
    {cs' : List Activity} (h : CallRun env c.isCall cs s) (hc : Calls env c.isCall cs s cs' s')
    (hdone : done (c.view s)) :
    done (c.view s') ∧ ∃ new, s'.record = s.record ++ new ∧ ∀ o ∈ new, may o := by
  have hlater := inv.later law
    (fun v v' => done v → done v' ∧ ∃ new, c.record v' = c.record v ++ new ∧ ∀ o ∈ new, may o)
    (fun _ hv => ⟨hv, [], (List.append_nil _).symm, nofun⟩) ?_ turn pass h hc hdone
  · rwa [law.record_view, law.record_view] at hlater
  · intro v v' v'' h h' hv
    obtain ⟨hv', new, he, hnew⟩ := h hv
    obtain ⟨hv'', new', he', hnew'⟩ := h' hv'
    refine ⟨hv'', new ++ new', by rw [he', he, List.append_assoc], fun o ho => ?_⟩
    exact (List.mem_append.mp ho).elim (hnew o) (hnew' o)

end Invariant

end Counter

/-! ## The end of all calls -/

/-- Something comes about if the activities go on taking turns, in whatever order and however late:
until it has come about, somebody can take a turn, perhaps after a while. -/
inductive Inevitable (env : Collaborators W) (goal : Service W → Prop) : Service W → Prop where
  | now {s : Service W} : goal s → Inevitable env goal s
  | later {s : Service W} : (∃ t k s', (s.advanceTo t).step env k = some s') →
      (∀ t k s', (s.advanceTo t).step env k = some s' → Inevitable env goal s') →
      Inevitable env goal s

theorem Inevitable.mono {goal goal' : Service W → Prop} (h : Inevitable env goal s)
    (himp : ∀ s', goal s' → goal' s') : Inevitable env goal' s := by
  induction h with
  | now hg => exact .now (himp _ hg)
  | later hcan _ ih => exact .later hcan ih

theorem allToil_put (hn : s.scene.Numbered) {a b : Activity} (ha : (k, a) ∈ s.activities)
    (hb : toil b < toil a) : (s.put k b).allToil < s.allToil := by
  obtain ⟨before, after, he, hput, -⟩ := activities_split hn ha
  simp only [allToil, hput b, he, List.map_append, List.map_cons, List.sum_append, List.sum_cons]
  omega

theorem allToil_finish (hn : s.scene.Numbered) {a : Activity} (ha : (k, a) ∈ s.activities) :
    (s.finish k).allToil < s.allToil := by
  obtain ⟨before, after, he, -, hfinish⟩ := activities_split hn ha
  have hpos := toil_pos a
  simp only [allToil, hfinish, he, List.map_append, List.map_cons, List.sum_append, List.sum_cons]
  omega

namespace Counter.Order

variable {c : Counter W V} {cs : List Activity}

/-- Every turn brings the end nearer. -/
theorem toil_lt (law : c.Lawful env) (h : c.Order cs s) (hs : s.step env k = some s') :
    s'.allToil < s.allToil := by
  obtain ⟨a, ha, huses⟩ := h.uses law hs
  have hscene : ∀ {t : Service W}, s'.scene = t.scene → s'.allToil = t.allToil := by
    intro t he
    have hactivities : s'.activities = t.activities := congrArg Scene.activities he
    rw [allToil, allToil, hactivities]
  cases huses with
  | queue _ _ _ htoil _ _ he => exact hscene he ▸ allToil_put h.numbered ha htoil
  | stay _ hturn _ he => exact hscene he ▸ allToil_put h.numbered ha (law.stays hturn).2.2.1
  | leave _ _ _ he => exact hscene he ▸ allToil_finish h.numbered ha
  | pass _ _ _ he => exact hscene he ▸ allToil_finish h.numbered ha

/-- As long as there is an activity, somebody can go on, perhaps after a while. -/
theorem can_go_on (law : c.Lawful env) (h : c.Order cs s) (hne : s.activities ≠ []) :
    ∃ t k s', (s.advanceTo t).step env k = some s' := by
  have hgo : ∀ k a, (k, a) ∈ s.activities →
      c.stance a = .outside ∨ (c.lock s).holder = some k →
      ∃ t k s', (s.advanceTo t).step env k = some s' := by
    intro k a ha hstands
    have hcall := h.isCall _ (List.mem_of_getElem? (h.origin k a ha))
    obtain ⟨t, s', hact⟩ := law.ready hcall hstands
    have hactivity : (s.advanceTo t).activity? k = some a := activity?_of_mem h.numbered ha
    exact ⟨t, k, s', Option.bind_eq_some_iff.mpr ⟨a, hactivity, hact⟩⟩
  cases hholder : (c.lock s).holder with
  | some j =>
    by_cases hj : ∃ a, (j, a) ∈ s.activities
    · obtain ⟨a, ha⟩ := hj
      exact hgo j a ha (.inr hholder)
    · exact absurd (stances_of_absent fun a ha => hj ⟨a, ha⟩) (h.queue.held j hholder)
  | none =>
    -- nobody waits for a free lock
    obtain ⟨⟨j, a⟩, ha⟩ := List.exists_mem_of_ne_nil _ hne
    refine hgo j a ha (.inl ?_)
    have hstands := stances_of_mem (c := c) h.numbered ha
    cases hstance : c.stance a with
    | outside => rfl
    | waits =>
      rcases h.queue.waits j (hstands.trans hstance) with hin | hin
      · rw [hholder] at hin
        cases hin
      · rw [h.queue.idle hholder] at hin
        cases hin
    | inside =>
      have hin := h.queue.inside j (hstands.trans hstance)
      rw [hholder] at hin
      cases hin

/-- **All calls are answered**, if no more of them come. -/
theorem inevitable (law : c.Lawful env) : ∀ {s : Service W}, c.Order cs s →
    Inevitable env (fun s' => Calls env c.isCall cs s cs s' ∧ s'.activities = []) s := by
  intro s h
  induction hn : s.allToil using Nat.strongRecOn generalizing s with
  | ind n ih =>
    by_cases hne : s.activities = []
    · exact .now ⟨.refl, hne⟩
    · refine .later (h.can_go_on law hne) fun t k s' hs => ?_
      have ht : c.Order cs (s.advanceTo t) := h.calls law (.wait t .refl)
      have hlt : s'.allToil < (s.advanceTo t).allToil := ht.toil_lt law hs
      have hlt : s'.allToil < n := Nat.lt_of_lt_of_eq hlt hn
      refine (ih _ hlt (ht.step law hs) rfl).mono fun s'' hdone => ?_
      exact ⟨(Calls.act (.wait t .refl) hs).trans hdone.1, hdone.2⟩

end Counter.Order

/-- Each call comes back with an answer that fits it. -/
theorem Counter.Lawful.answered_eventually {c : Counter W V} {cs : List Activity} {call : Activity}
    (law : c.Lawful env) (h : CallRun env c.isCall cs s) (hcall : cs[k]? = some call) :
    Inevitable env (fun s' => Calls env c.isCall cs s cs s' ∧
      ∃ answer, fits call answer = true ∧ .answered k answer ∈ s'.record) s := by
  have order := law.order h
  refine (order.inevitable law).mono fun s' ⟨hc, hdone⟩ => ⟨hc, ?_⟩
  have order' := order.calls law hc
  rcases order'.answered k (List.getElem?_eq_some_iff.mp hcall).1 with ⟨a, ha⟩ | ⟨answer, hanswer⟩
  · rw [hdone] at ha
    cases ha
  · obtain ⟨call', hcall', hfits⟩ := order'.fits k answer hanswer
    rw [hcall] at hcall'
    cases hcall'
    exact ⟨answer, hfits, mem_answers.mp hanswer⟩

end PushWake.Service
