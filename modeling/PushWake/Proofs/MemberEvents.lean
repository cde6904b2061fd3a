import Mathlib.Data.List.Nodup
import Mathlib.Data.List.TakeWhile
import PushWake.Collaborators.Plan
import PushWake.Proofs.PerformedOperations

/-!
# Who is there, and what they hear

A set of jobs forgets whoever has left it. Its history does not: it tells who was taken in,
whose body began and who was taken out. Where no identity is taken in twice, that determines
the set (`roster`), and what a job is shown is what comes between the two operations that take
it in and out.
-/

namespace PushWake

/-! ## Histories -/

/-- The jobs that were taken in, in their order. -/
def admitted (ops : List (SetOperation × Bool)) : List (Identity × JobKind) :=
  ops.filterMap fun x =>
    match x with
    | (.add id kind, true) => some (id, kind)
    | _ => none

/-- The jobs that were noted to run, in their order. -/
def underway (ops : List (SetOperation × Bool)) : List Identity :=
  ops.filterMap fun x =>
    match x with
    | (.markRunning id, true) => some id
    | _ => none

/-- The jobs that were taken out, in their order. -/
def dismissed (ops : List (SetOperation × Bool)) : List Identity :=
  ops.filterMap fun x =>
    match x with
    | (.remove id, true) => some id
    | _ => none

/-- The events that came, in their order. -/
def announced (ops : List (SetOperation × Bool)) : List Event :=
  ops.filterMap fun x =>
    match x with
    | (.broadcast e, _) => some e
    | _ => none

/-- Whether an operation takes a job out. -/
def dismisses (job : Identity) : SetOperation × Bool → Bool
  | (.remove id, true) => id == job
  | _ => false

/-- The events that come until a job is taken out. -/
def meanwhile (job : Identity) (ops : List (SetOperation × Bool)) : List Event :=
  announced (ops.takeWhile fun x => !dismisses job x)

/-- The state of a member: it is pending until it is first noted to run, and runs from then on. -/
def stateIn (ops : List (SetOperation × Bool)) (id : Identity) : JobState :=
  if id ∈ underway ops then .running else .pending

/-- A member, in a state that depends on who it is. -/
def memberIn (state : Identity → JobState) (j : Identity × JobKind) : JobEntry :=
  ⟨j.1, j.2, state j.1⟩

/-- The jobs that were taken in and have not been taken out, in their order. -/
def remaining (ops : List (SetOperation × Bool)) : List (Identity × JobKind) :=
  (admitted ops).filter fun j => j.1 ∉ dismissed ops

/-- The members that a history leaves. -/
def roster (ops : List (SetOperation × Bool)) : List JobEntry :=
  (remaining ops).map (memberIn (stateIn ops))

section
variable {ops ops' : List (SetOperation × Bool)} {job : Identity}

theorem admitted_append : admitted (ops ++ ops') = admitted ops ++ admitted ops' :=
  List.filterMap_append

theorem underway_append : underway (ops ++ ops') = underway ops ++ underway ops' :=
  List.filterMap_append

theorem dismissed_append : dismissed (ops ++ ops') = dismissed ops ++ dismissed ops' :=
  List.filterMap_append

theorem announced_append : announced (ops ++ ops') = announced ops ++ announced ops' :=
  List.filterMap_append

/-- Where nobody is taken in twice, nobody was so far. -/
theorem nodup_admitted (h : ((admitted (ops ++ ops')).map Prod.fst).Nodup) :
    ((admitted ops).map Prod.fst).Nodup := by
  rw [admitted_append, List.map_append] at h
  exact h.of_append_left

theorem mem_dismissed : job ∈ dismissed ops ↔ ∃ x ∈ ops, dismisses job x = true := by
  rw [dismissed, List.mem_filterMap]
  refine exists_congr fun x => and_congr_right fun _ => ?_
  rcases x with ⟨_ | _ | _ | _ | _ | _ | _ | _, _ | _⟩ <;> simp [dismisses]

/-- What takes a job out announces nothing. -/
theorem meanwhile_singleton (x : SetOperation × Bool) : meanwhile job [x] = announced [x] := by
  cases h : dismisses job x with
  | false => simp [meanwhile, h]
  | true =>
    rcases x with ⟨_ | _ | _ | _ | _ | _ | _ | _, _ | _⟩ <;>
      first | cases h | simp [meanwhile, h, announced]

/-- As long as a job is not taken out, it misses nothing. -/
theorem meanwhile_of_stays (h : job ∉ dismissed ops) (x : SetOperation × Bool) :
    meanwhile job (ops ++ [x]) = meanwhile job ops ++ announced [x] := by
  have hstays : ∀ x ∈ ops, (!dismisses job x) = true := fun x hx => by
    simpa using fun hgoes => h (mem_dismissed.mpr ⟨x, hx, hgoes⟩)
  rw [← meanwhile_singleton, meanwhile, meanwhile, meanwhile, List.takeWhile_append_of_pos hstays,
    announced_append, List.takeWhile_eq_self_iff.mpr hstays]

/-- Once it was, nothing is added. -/
theorem meanwhile_of_left (h : job ∈ dismissed ops) (x : SetOperation × Bool) :
    meanwhile job (ops ++ [x]) = meanwhile job ops := by
  obtain ⟨y, hy, hgoes⟩ := mem_dismissed.mp h
  rw [meanwhile, List.takeWhile_append, if_neg, meanwhile]
  intro hlength
  have hall := List.takeWhile_eq_self_iff.mp ((List.takeWhile_prefix _).eq_of_length hlength) y hy
  simp [hgoes] at hall

theorem remaining_ids : (remaining ops).map Prod.fst =
    ((admitted ops).map Prod.fst).filter fun id => id ∉ dismissed ops := by
  rw [remaining, List.filter_map]
  rfl

theorem remaining_nodup (h : ((admitted ops).map Prod.fst).Nodup) :
    ((remaining ops).map Prod.fst).Nodup := by
  rw [remaining_ids]
  exact h.filter _

theorem roster_ids : (roster ops).map JobEntry.id = (remaining ops).map Prod.fst := by
  rw [roster, List.map_map]
  rfl

theorem stateIn_congr (h : underway ops = underway ops') : stateIn ops = stateIn ops' := by
  unfold stateIn
  rw [h]

theorem stateIn_eq_pending : stateIn ops job = .pending ↔ job ∉ underway ops := by
  rw [stateIn]
  split_ifs with h
  · exact iff_of_false (by decide) (not_not_intro h)
  · exact iff_of_true rfl h

theorem stateIn_markRunning :
    stateIn (ops ++ [(.markRunning job, true)]) = Function.update (stateIn ops) job .running := by
  funext id
  have hunderway : underway (ops ++ [(.markRunning job, true)]) = underway ops ++ [job] :=
    underway_append
  by_cases hid : id = job <;> simp [stateIn, hunderway, hid]

end

/-! ## Sets -/

namespace JobSet

variable {s : JobSet} {ops : List (SetOperation × Bool)} {op : SetOperation} {id : Identity}
  {state : Identity → JobState} {js : List (Identity × JobKind)}

theorem startFirst_members (hjs : (js.map Prod.fst).Nodup) :
    startFirst id (js.map (memberIn state)) =
      if id ∈ js.map Prod.fst ∧ state id = .pending then
        some (js.map (memberIn (Function.update state id .running)))
      else none := by
  induction js with
  | nil => simp [startFirst]
  | cons j js ih =>
    obtain ⟨hj, hjs⟩ := List.nodup_cons.mp hjs
    by_cases hid : j.1 = id
    · subst hid
      -- nobody else has the identity
      have hothers : js.map (memberIn (Function.update state j.1 .running)) =
          js.map (memberIn state) := by
        refine List.map_congr_left fun j' hj' => ?_
        have hne : j'.1 ≠ j.1 := fun he => hj (he ▸ List.mem_map_of_mem hj')
        simp [memberIn, hne]
      simp [startFirst, memberIn, hothers]
    · have hother : startFirst id ((j :: js).map (memberIn state)) =
          (startFirst id (js.map (memberIn state))).map (memberIn state j :: ·) := by
        simp [startFirst, memberIn, hid]
      rw [hother, ih hjs]
      by_cases hp : id ∈ js.map Prod.fst ∧ state id = .pending
      · rw [if_pos hp, if_pos ⟨List.mem_cons_of_mem _ hp.1, hp.2⟩, Option.map_some, List.map_cons]
        simp [memberIn, hid]
      · rw [if_neg hp, if_neg, Option.map_none]
        rintro ⟨hmem, hpending⟩
        exact hp ⟨List.mem_of_ne_of_mem (Ne.symm hid) hmem, hpending⟩

/-- A job that occurs once is out after it was taken out. -/
theorem eraseP_members (hjs : (js.map Prod.fst).Nodup) :
    ((js.map (memberIn state)).eraseP fun e => e.id == id) =
      (js.filter fun j => j.1 ≠ id).map (memberIn state) := by
  induction js with
  | nil => rfl
  | cons j js ih =>
    obtain ⟨hj, hjs⟩ := List.nodup_cons.mp hjs
    by_cases hid : j.1 = id
    · have hothers : js.filter (fun j' => j'.1 ≠ id) = js := by
        refine List.filter_eq_self.mpr fun j' hj' => decide_eq_true ?_
        rintro rfl
        exact hj (hid ▸ List.mem_map_of_mem hj')
      rw [List.filter_cons_of_neg (by simp [hid]), hothers, List.map_cons,
        List.eraseP_cons_of_pos (by simp [memberIn, hid])]
    · rw [List.filter_cons_of_pos (by simp [hid]), List.map_cons, List.map_cons, ← ih hjs,
        List.eraseP_cons_of_neg (by simp [memberIn, hid])]

/-- A set is what its history says. -/
structure Attends (ops : List (SetOperation × Bool)) (s : JobSet) : Prop where
  entries : s.entries = roster ops
  underway_mem : underway ops ⊆ (admitted ops).map Prod.fst
  underway_nodup : (underway ops).Nodup
  dismissed_mem : dismissed ops ⊆ (admitted ops).map Prod.fst
  dismissed_nodup : (dismissed ops).Nodup

namespace Attends

/-- Whoever is in a set was taken in, and was not taken out. -/
theorem mem_ids (h : Attends ops s) :
    id ∈ s.ids ↔ id ∈ (admitted ops).map Prod.fst ∧ id ∉ dismissed ops := by
  rw [ids, h.entries, roster_ids, remaining_ids, List.mem_filter, decide_eq_true_iff]

/-- Whoever was not taken out before it came is there as long as it was not since. -/
theorem mem_ids_since {before after : List (SetOperation × Bool)} {kind : JobKind}
    (h : Attends (before ++ [(.add id kind, true)] ++ after) s) (hold : id ∉ dismissed before) :
    id ∈ s.ids ↔ id ∉ dismissed after := by
  have hin : id ∈ (admitted (before ++ [(.add id kind, true)] ++ after)).map Prod.fst := by
    rw [admitted_append, admitted_append]
    simp [admitted]
  have hnone : dismissed [(.add id kind, true)] = [] := rfl
  rw [h.mem_ids, dismissed_append, dismissed_append, hnone, List.append_nil,
    List.mem_append, not_or]
  exact ⟨fun h => h.2.2, fun h => ⟨hin, hold, h⟩⟩

/-- Nobody is in a set twice. -/
theorem nodup_ids (h : Attends ops s) (hops : ((admitted ops).map Prod.fst).Nodup) :
    s.ids.Nodup := by
  rw [ids, h.entries, roster_ids]
  exact remaining_nodup hops

/-- An operation that takes nobody in or out and starts nobody leaves the members as they were. -/
theorem idle {x : SetOperation × Bool} {t : JobSet} (h : Attends ops s)
    (hadmitted : admitted [x] = []) (hunderway : underway [x] = [])
    (hdismissed : dismissed [x] = []) (hentries : t.entries = s.entries) :
    Attends (ops ++ [x]) t := by
  have ha : admitted (ops ++ [x]) = admitted ops := by
    rw [admitted_append, hadmitted, List.append_nil]
  have hu : underway (ops ++ [x]) = underway ops := by
    rw [underway_append, hunderway, List.append_nil]
  have hd : dismissed (ops ++ [x]) = dismissed ops := by
    rw [dismissed_append, hdismissed, List.append_nil]
  obtain ⟨he, hu₁, hu₂, hd₁, hd₂⟩ := h
  refine ⟨?_, by rwa [ha, hu], by rwa [hu], by rwa [ha, hd], by rwa [hd]⟩
  rw [hentries, he, roster, roster, stateIn_congr hu, remaining, remaining, ha, hd]

/-- Whoever is taken in comes last, and is pending. -/
theorem enrol {t : JobSet} (kind : JobKind) (h : Attends ops s)
    (hnew : id ∉ (admitted ops).map Prod.fst)
    (hentries : t.entries = s.entries ++ [⟨id, kind, .pending⟩]) :
    Attends (ops ++ [(.add id kind, true)]) t := by
  have ha : admitted (ops ++ [(.add id kind, true)]) = admitted ops ++ [(id, kind)] :=
    admitted_append
  have hu : underway (ops ++ [(.add id kind, true)]) = underway ops :=
    underway_append.trans (List.append_nil _)
  have hd : dismissed (ops ++ [(.add id kind, true)]) = dismissed ops :=
    dismissed_append.trans (List.append_nil _)
  -- whoever is new has not begun, and has not gone
  have hpending : stateIn ops id = .pending := stateIn_eq_pending.mpr fun hid =>
    hnew (h.underway_mem hid)
  have hhere : id ∉ dismissed ops := fun hid => hnew (h.dismissed_mem hid)
  have hr : remaining (ops ++ [(.add id kind, true)]) = remaining ops ++ [(id, kind)] := by
    rw [remaining, ha, hd, List.filter_append, List.filter_singleton, decide_eq_true hhere]
    rfl
  obtain ⟨he, hu₁, hu₂, hd₁, hd₂⟩ := h
  have hmore : (admitted ops).map Prod.fst ⊆ (admitted ops ++ [(id, kind)]).map Prod.fst := by
    rw [List.map_append]
    exact List.subset_append_left _ _
  refine ⟨?_, ?_, by rwa [hu], ?_, by rwa [hd]⟩
  · rw [hentries, he, roster, roster, hr, stateIn_congr hu, List.map_append, List.map_singleton,
      memberIn, hpending]
  · rw [ha, hu]
    exact List.Subset.trans hu₁ hmore
  · rw [ha, hd]
    exact List.Subset.trans hd₁ hmore

/-- A member that is noted to run stays in its place. -/
theorem start {t : JobSet} (h : Attends ops s) (hmem : id ∈ (admitted ops).map Prod.fst)
    (hnew : id ∉ underway ops)
    (hentries : t.entries =
      (remaining ops).map (memberIn (Function.update (stateIn ops) id .running))) :
    Attends (ops ++ [(.markRunning id, true)]) t := by
  have ha : admitted (ops ++ [(.markRunning id, true)]) = admitted ops :=
    admitted_append.trans (List.append_nil _)
  have hu : underway (ops ++ [(.markRunning id, true)]) = underway ops ++ [id] := underway_append
  have hd : dismissed (ops ++ [(.markRunning id, true)]) = dismissed ops :=
    dismissed_append.trans (List.append_nil _)
  obtain ⟨-, hu₁, hu₂, hd₁, hd₂⟩ := h
  refine ⟨?_, ?_, ?_, by rwa [ha, hd], by rwa [hd]⟩
  · rw [hentries, roster, stateIn_markRunning, remaining, remaining, ha, hd]
  · rw [ha, hu]
    exact List.append_subset.mpr ⟨hu₁, List.cons_subset.mpr ⟨hmem, List.nil_subset _⟩⟩
  · rw [hu, ← List.concat_eq_append]
    exact hu₂.concat hnew

/-- A member that is taken out leaves the others where they were. -/
theorem dismiss {t : JobSet} (h : Attends ops s)
    (hmem : id ∈ (admitted ops).map Prod.fst ∧ id ∉ dismissed ops)
    (hentries : t.entries = ((remaining ops).filter fun j => j.1 ≠ id).map
      (memberIn (stateIn ops))) :
    Attends (ops ++ [(.remove id, true)]) t := by
  have ha : admitted (ops ++ [(.remove id, true)]) = admitted ops :=
    admitted_append.trans (List.append_nil _)
  have hu : underway (ops ++ [(.remove id, true)]) = underway ops :=
    underway_append.trans (List.append_nil _)
  have hd : dismissed (ops ++ [(.remove id, true)]) = dismissed ops ++ [id] := dismissed_append
  have hr : remaining (ops ++ [(.remove id, true)]) = (remaining ops).filter fun j => j.1 ≠ id := by
    rw [remaining, remaining, ha, hd, List.filter_filter]
    refine List.filter_congr fun j _ => ?_
    simp [and_comm]
  obtain ⟨-, hu₁, hu₂, hd₁, hd₂⟩ := h
  refine ⟨?_, by rwa [ha, hu], by rwa [hu], ?_, ?_⟩
  · rw [hentries, roster, hr, stateIn_congr hu]
  · rw [ha, hd]
    exact List.append_subset.mpr ⟨hd₁, List.cons_subset.mpr ⟨hmem.1, List.nil_subset _⟩⟩
  · rw [hd, ← List.concat_eq_append]
    exact hd₂.concat hmem.2

/-- A member can be noted to run, once. -/
theorem markRunning_eq (h : Attends ops s) (hops : ((admitted ops).map Prod.fst).Nodup) :
    s.markRunning id =
      if id ∈ s.ids ∧ id ∉ underway ops then
        ⟨{ s with entries :=
  (remaining ops).map (memberIn (Function.update (stateIn ops) id .running)) },
          true, none⟩
      else s.unchanged := by
  have hmem : s.ids = (remaining ops).map Prod.fst := by rw [ids, h.entries, roster_ids]
  rw [markRunning, h.entries, roster, startFirst_members (remaining_nodup hops), hmem]
  simp only [stateIn_eq_pending]
  split_ifs <;> rfl

/-- A member can be taken out. -/
theorem remove_eq (h : Attends ops s) (hops : ((admitted ops).map Prod.fst).Nodup) (id : Identity) :
    (id ∉ s.ids ∧ s.remove id = s.unchanged) ∨
      (id ∈ s.ids ∧ (s.remove id).done = true ∧ (s.remove id).set.entries =
        ((remaining ops).filter fun j => j.1 ≠ id).map (memberIn (stateIn ops))) := by
  cases hfind : s.find? id with
  | none => exact .inl ⟨not_mem_of_find hfind, by simp [remove, hfind]⟩
  | some e =>
    refine .inr ⟨?_, by simp [remove, hfind], ?_⟩
    · rw [find?] at hfind
      have hid : e.id = id := by simpa using List.find?_some hfind
      exact hid ▸ List.mem_map_of_mem (List.mem_of_find?_eq_some hfind)
    · simp only [remove, hfind]
      rw [h.entries, roster, eraseP_members (remaining_nodup hops)]

/-- **An operation leaves of a set what its history says**, if it takes nobody in a second time. -/
theorem perform (h : Attends ops s) (op : SetOperation)
    (hops : ((admitted (ops ++ [(op, (s.perform op).done)])).map Prod.fst).Nodup) :
    Attends (ops ++ [(op, (s.perform op).done)]) (s.perform op).set := by
  have hold := nodup_admitted hops
  cases op with
  | add job kind =>
    rcases Bool.eq_false_or_eq_true s.closed with hclosed | hopen
    · rw [JobSet.perform, add_closed hclosed]
      exact h.idle rfl rfl rfl rfl
    · rw [JobSet.perform, add_open hopen] at hops ⊢
      rw [admitted_append, List.map_append] at hops
      -- or it would be taken in a second time
      have hnew : job ∉ (admitted ops).map Prod.fst := fun hjob =>
        List.disjoint_of_nodup_append hops hjob (List.mem_singleton_self job)
      exact h.enrol kind hnew rfl
  | markRunning job =>
    rw [JobSet.perform, h.markRunning_eq hold]
    split_ifs with hjob
    · exact h.start ((h.mem_ids.mp hjob.1).1) hjob.2 rfl
    · exact h.idle rfl rfl rfl rfl
  | remove job =>
    rw [JobSet.perform]
    rcases h.remove_eq hold job with ⟨_, hsame⟩ | ⟨hjob, hdone, hentries⟩
    · rw [hsame]
      exact h.idle rfl rfl rfl rfl
    · rw [hdone]
      exact h.dismiss (h.mem_ids.mp hjob) hentries
  | armIfEmpty =>
    refine h.idle rfl rfl rfl ?_
    rw [JobSet.perform, armIfEmpty]
    split <;> rfl
  | broadcast e => exact h.idle rfl rfl rfl rfl
  | signal =>
    refine h.idle rfl rfl rfl ?_
    rw [JobSet.perform, close]
    split <;> rfl
  | closeIfEmpty =>
    refine h.idle rfl rfl rfl ?_
    rw [JobSet.perform, closeIfEmpty]
    split <;> rfl
  | aside => exact h.idle rfl rfl rfl rfl

end Attends

/-- A command is nothing to a job. -/
theorem seen_tells (s : JobSet) (op : SetOperation) :
    seen id (s.tells op) = seen id (s.shows op) := by
  rw [tells, seen_append]
  cases (s.perform op).command with
  | none => exact List.append_nil _
  | some c => exact List.append_nil _

/-- An event is shown to a job as often as it is in the set. -/
theorem seen_shows_broadcast (s : JobSet) (e : Event) :
    seen id (s.shows (.broadcast e)) = List.replicate (s.ids.count id) e := by
  rw [shows]
  induction s.ids with
  | nil => rfl
  | cons id' ids ih =>
    by_cases hid : id' = id
    · subst hid
      rw [List.count_cons_self, List.replicate_succ, ← ih]
      simp [seen]
    · rw [List.count_cons_of_ne hid, ← ih]
      simp [seen, hid]

/-- Only a member is shown anything. -/
theorem seen_tells_of_not_mem (op : SetOperation) (hid : id ∉ s.ids) :
    seen id (s.tells op) = [] := by
  rw [seen_tells]
  cases op with
  | broadcast e =>
    rw [seen_shows_broadcast, List.count_eq_zero_of_not_mem hid]
    rfl
  | _ => rfl

/-- A member is shown an event once. -/
theorem seen_tells_of_mem (op : SetOperation) (done : Bool) (hids : s.ids.Nodup)
    (hid : id ∈ s.ids) :
    seen id (s.tells op) = announced [(op, done)] := by
  rw [seen_tells]
  cases op with
  | broadcast e =>
    rw [seen_shows_broadcast, List.count_eq_one_of_mem hids hid]
    rfl
  | _ => cases done <;> rfl

end JobSet

namespace Service

open JobSet (Attends)

variable {W : Type} {s₀ s t u : Service W} {ops : List (SetOperation × Bool)} {op : SetOperation}
  {done : Bool} {id : Identity}

theorem Performs.seen (h : Performs s op done t) :
    seen id t.record = PushWake.seen id s.record ++ PushWake.seen id (s.jobs.tells op) := by
  rw [← seen_tidings, h.effect.2.tidings, seen_append, seen_tidings]

theorem Performs.attends (h : Performs s op done t) (hs : Attends ops s.jobs)
    (hops : ((admitted (ops ++ [(op, done)])).map Prod.fst).Nodup) :
    Attends (ops ++ [(op, done)]) t.jobs := by
  obtain ⟨rfl, hleaves⟩ := h.effect
  rw [hleaves.jobs]
  exact hs.perform op hops

theorem Performed.attends (h : Performed s₀ ops s) (hjobs : s₀.jobs = {})
    (hops : ((admitted ops).map Prod.fst).Nodup) : Attends ops s.jobs := by
  induction h with
  | none =>
    rw [hjobs]
    exact ⟨rfl, List.nil_subset _, .nil, List.nil_subset _, .nil⟩
  | more _ hp ih => exact hp.attends (ih (nodup_admitted hops)) hops

/-- Nobody hears anything before it was taken in. -/
theorem Performed.unheard (h : Performed s₀ ops s) (hjobs : s₀.jobs = {}) (hrecord : s₀.record = [])
    (hops : ((admitted ops).map Prod.fst).Nodup) (hid : id ∉ (admitted ops).map Prod.fst) :
    seen id s.record = [] := by
  induction h with
  | none =>
    rw [hrecord]
    rfl
  | more h hp ih =>
    rw [admitted_append, List.map_append, List.mem_append, not_or] at hid
    have hbefore := nodup_admitted hops
    have hout : id ∉ _ := fun hin => hid.1 ((h.attends hjobs hbefore).mem_ids.mp hin).1
    rw [hp.seen, ih hbefore hid.1, JobSet.seen_tells_of_not_mem _ hout]
    rfl

/-- A job hears what comes until it is taken out. -/
theorem Performed.heard {before after : List (SetOperation × Bool)} {kind : JobKind}
    (hjobs : s₀.jobs = {}) (hrecord : s₀.record = []) (h : Performed s₀ before s)
    (ha : Performs s (.add id kind) true t) (hlater : Performed t after u)
    (hops : ((admitted (before ++ [(.add id kind, true)] ++ after)).map Prod.fst).Nodup) :
    seen id u.record = meanwhile id after := by
  have hbefore : ((admitted before).map Prod.fst).Nodup := nodup_admitted (nodup_admitted hops)
  have hnew : id ∉ (admitted before).map Prod.fst := by
    have hops := nodup_admitted hops
    rw [admitted_append, List.map_append] at hops
    exact fun hid => List.disjoint_of_nodup_append hops hid (List.mem_singleton_self id)
  induction hlater with
  | none =>
    have hs := h.attends hjobs hbefore
    rw [ha.seen, h.unheard hjobs hrecord hbefore hnew,
      JobSet.seen_tells_of_not_mem _ fun hid => hnew (hs.mem_ids.mp hid).1]
    rfl
  | @more after op done u v hafter hp ih =>
    rw [← List.append_assoc] at hops
    have hprefix := nodup_admitted hops
    have hu : Attends _ u.jobs := ((h.more ha).trans hafter).attends hjobs hprefix
    -- nobody is taken out who has not come
    have hsince := hu.mem_ids_since fun hid => hnew ((h.attends hjobs hbefore).dismissed_mem hid)
    rw [hp.seen, ih hprefix]
    by_cases hid : id ∈ u.jobs.ids
    · rw [JobSet.seen_tells_of_mem op done (hu.nodup_ids hprefix) hid,
        meanwhile_of_stays (hsince.mp hid)]
    · rw [JobSet.seen_tells_of_not_mem op hid, List.append_nil,
        meanwhile_of_left (not_not.mp (mt hsince.mpr hid))]

/-- **A job sees what comes while it is there.** After any operations on a set that was empty at
first, in any order, where no identity is taken in twice: a job has been shown the events that came
after it was taken in and before it was taken out, each once and in their order, and no other job
has been shown any. The members are those that were taken in and have not been taken out, in the
order in which they came, and no two of them are alike; each is pending until it is first noted to
run, and runs from then on. A member is noted to run once, and taken out once. -/
theorem job_sees_its_membership (hjobs : s₀.jobs = {}) (hrecord : s₀.record = [])
    (h : Performed s₀ ops s) (hops : ((admitted ops).map Prod.fst).Nodup) :
    (∀ id before kind after, ops = before ++ (.add id kind, true) :: after →
      seen id s.record = meanwhile id after) ∧
    (∀ id, id ∉ (admitted ops).map Prod.fst → seen id s.record = []) ∧
    s.jobs.entries = roster ops ∧ s.jobs.ids.Nodup ∧
    (∀ id, ((s.markRunning id).2 = true ↔ id ∈ s.jobs.ids ∧ id ∉ underway ops) ∧
      (underway ops).count id ≤ 1) ∧
    ∀ id, (dismissed ops).count id =
      if id ∈ (admitted ops).map Prod.fst ∧ id ∉ s.jobs.ids then 1 else 0 := by
  have hs : Attends ops s.jobs := h.attends hjobs hops
  refine ⟨?heard, fun id hid => h.unheard hjobs hrecord hops hid, hs.entries,
    hs.nodup_ids hops, ?runs, ?leaves⟩
  case heard =>
    -- the history is cut where the job is taken in
    rintro id before kind after rfl
    rw [List.append_cons] at h hops
    obtain ⟨t, hbegin, hlater⟩ := h.split
    obtain ⟨r, hbefore, ha⟩ := hbegin.last
    exact hbefore.heard hjobs hrecord ha hlater hops
  case runs =>
    intro id
    refine ⟨?_, List.nodup_iff_count_le_one.mp hs.underway_nodup id⟩
    show (s.jobs.markRunning id).done = true ↔ _
    rw [hs.markRunning_eq hops]
    split_ifs with hid
    · exact iff_of_true rfl hid
    · exact iff_of_false (by simp [JobSet.unchanged]) hid
  case leaves =>
    intro id
    split_ifs with hid
    · refine List.count_eq_one_of_mem hs.dismissed_nodup ?_
      by_contra hnot
      exact hid.2 (hs.mem_ids.mpr ⟨hid.1, hnot⟩)
    · refine List.count_eq_zero_of_not_mem fun hgone => ?_
      exact hid ⟨hs.dismissed_mem hgone, fun hin => (hs.mem_ids.mp hin).2 hgone⟩

/-- A service whose first job is taken out by hand after its completer was used. The set has another
job by then, and is closed before the reaper comes. -/
def revisited : Service Plan :=
  let s := ((bare {} false {}).broadcast .synced).addJob ⟨0⟩ .swapUpdated |>.1
  let s := (s.broadcast (.waitingConfirmation "swap")).markRunning ⟨0⟩ |>.1
  let s := (s.complete 0 .completed).removeJob ⟨0⟩ .completed |>.1
  let s := ((s.addJob ⟨1⟩ .lnurlPayInfo).1.broadcast .synced).signalJobs.1
  (s.removeJob ⟨0⟩ .completed).1.finish 0

/-- What happened to that service. -/
def visits : List (SetOperation × Bool) :=
  [(.broadcast .synced, false), (.add ⟨0⟩ .swapUpdated, true),
    (.broadcast (.waitingConfirmation "swap"), false), (.markRunning ⟨0⟩, true), (.aside, false),
    (.remove ⟨0⟩, true), (.add ⟨1⟩ .lnurlPayInfo, true), (.broadcast .synced, false),
      (.signal, true),
    (.remove ⟨0⟩, false)]

/-- The first job has seen one of the three events, its late reaper finds nobody to take out, and
the other job is still there. -/
theorem late_reaper_finds_nobody :
    Performed (bare {} false {}) visits revisited ∧
    seen ⟨0⟩ revisited.record = [.waitingConfirmation "swap"] ∧
    revisited.jobs.entries = [⟨⟨1⟩, .lnurlPayInfo, .pending⟩] ∧
    (dismissed visits).count ⟨0⟩ = 1 := by
  have hrun : Performed (bare {} false {}) visits revisited :=
    (((((((((Performed.none.more (.broadcast .synced)).more (.add ⟨0⟩ .swapUpdated)).more
      (.broadcast (.waitingConfirmation "swap"))).more (.markRunning ⟨0⟩)).more
      (.complete 0 .completed)).more (.remove ⟨0⟩ .completed)).more (.add ⟨1⟩ .lnurlPayInfo)).more
      (.broadcast .synced)).more .signal).more (.reap (k := 0) rfl rfl)
  obtain ⟨hseen, -, hentries, -, -, hleaves⟩ := job_sees_its_membership rfl rfl hrun (by decide)
  refine ⟨hrun, hseen ⟨0⟩ [(.broadcast .synced, false)] .swapUpdated _ rfl, hentries, ?_⟩
  rw [hleaves, if_pos]
  exact ⟨List.mem_cons_self .., by decide⟩

end Service

end PushWake
