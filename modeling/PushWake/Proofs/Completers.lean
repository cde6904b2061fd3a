import PushWake.Proofs.JobChanges
import PushWake.Proofs.SwapNotices

/-!
# Whose completer is whose

A completer is made for one job and stays its own. Every body has the completer of its job, and a
swap job that waits has been given its own by its body (`Tied`), so while bodies go on and jobs are
resolved nobody uses the completer of somebody else. All of this holds throughout a run.
-/

namespace PushWake.Service

variable {W : Type} {env : Collaborators W} {s s' t : Service W} {id : Identity} {c : Nat}
  {job : SwapJob}

/-! ## Completers and their jobs -/

/-- A completer is the one of a job. -/
def Owns (s : Service W) (id : Identity) (c : Nat) : Prop := ∃ o, s.completers[c]? = some ⟨id, o⟩

theorem Owns.lt (h : s.Owns id c) : c < s.completers.length := by
  obtain ⟨o, ho⟩ := h
  exact (List.getElem?_eq_some_iff.mp ho).1

/-- A completer that is prepared for another job leaves a job its own. -/
theorem Owns.prepared (h : s.Owns id c) (work : JobWork) : (s.prepared work).Owns id c := by
  obtain ⟨o, ho⟩ := h
  exact ⟨o, (List.getElem?_append_left (List.getElem?_eq_some_iff.mp ho).1).trans ho⟩

theorem Owns.eq {id' : Identity} (h : s.Owns id c) (h' : s.Owns id' c) : id = id' := by
  obtain ⟨o, ho⟩ := h
  obtain ⟨o', ho'⟩ := h'
  rw [ho] at ho'
  exact congrArg Completer.job (Option.some.inj ho')

section
variable {c' : Nat} (o : JobOutcome)

theorem complete_of_ne (hne : c' ≠ c) : (s.complete c' o).completers[c]? = s.completers[c]? := by
  obtain he | ⟨owner, wakes, -, he⟩ := s.complete_cases c' o
  · rw [he]
  · rw [he]
    exact List.getElem?_set_ne hne

/-- Whoever's completer is used, it has been used afterwards. -/
theorem used_complete (h : s.Owns id c) :
    ∃ o', (s.complete c o).completers[c]? = some ⟨id, some o'⟩ := by
  obtain ⟨used, hc⟩ := h
  cases used with
  | none =>
    obtain ⟨wakes, he⟩ := complete_eq hc o
    rw [he]
    exact ⟨o, List.getElem?_set_self (List.getElem?_eq_some_iff.mp hc).1⟩
  | some o' =>
    rw [(complete_of_used hc o).1]
    exact ⟨o', hc⟩

theorem Owns.complete (h : s.Owns id c) : (s.complete c' o).Owns id c := by
  by_cases hc : c' = c
  · subst hc
    obtain ⟨o', ho'⟩ := used_complete o h
    exact ⟨_, ho'⟩
  · obtain ⟨used, hu⟩ := h
    exact ⟨used, (complete_of_ne o hc).trans hu⟩

theorem history_complete : s.history <+: (s.complete c o).history := by
  obtain he | ⟨owner, wakes, -, he⟩ := s.complete_cases c o
  · have hsame : (s.complete c o).history = s.history := congrArg Service.history he
    exact hsame ▸ List.prefix_rfl
  · rw [he]
    exact List.prefix_append _ _

end

theorem work?_setWork_same {work : JobWork} (h : s.work? id = some work) (id' : Identity) :
    (s.setWork id work).work? id' = s.work? id' := by
  by_cases hid : id' = id
  · rw [hid, work?_setWork work (h.trans_ne (Option.some_ne_none _)), h]
  · exact work?_setWork_of_ne work hid

/-- Every job has a completer, and a swap job that waits holds its own. -/
structure Tied (s : Service W) : Prop where
  owned : ∀ id, s.work? id ≠ none → ∃ c, s.Owns id c
  held : ∀ id job c, s.work? id = some (.swap job) → job.phase = .waiting c → s.Owns id c

namespace Tied

/-- Jobs that do not begin to wait change nothing. -/
theorem congr (h : Tied s) (hknown : ∀ id, t.work? id ≠ none → s.work? id ≠ none)
    (hwaits : ∀ id job c, t.work? id = some (.swap job) → job.phase = .waiting c →
      ∃ job, s.work? id = some (.swap job) ∧ job.phase = .waiting c)
    (howns : ∀ id c, s.Owns id c → t.Owns id c) : Tied t where
  owned id hw := by
    obtain ⟨c, hc⟩ := h.owned id (hknown id hw)
    exact ⟨c, howns id c hc⟩
  held id job c hw hphase := by
    obtain ⟨job, hw, hphase⟩ := hwaits id job c hw hphase
    exact howns id c (h.held id job c hw hphase)

/-- Jobs that stay as they are change nothing. -/
theorem of_work (h : Tied s) (hwork : ∀ id, t.work? id = s.work? id)
    (howns : ∀ id c, s.Owns id c → t.Owns id c) : Tied t :=
  h.congr (fun id hw => hwork id ▸ hw)
    (fun id job _ hw hphase => ⟨job, (hwork id).symm.trans hw, hphase⟩) howns

theorem quiet (h : Tied s) (hworks : t.works = s.works)
    (hcompleters : t.completers = s.completers) :
    Tied t := by
  refine h.of_work (fun id => by rw [work?, work?, hworks]) fun id c ho => ?_
  rw [Owns, hcompleters]
  exact ho

/-- A job comes to a phase in which it does not wait, or waits with its own completer. -/
theorem rework (h : Tied s) {phase : SwapPhase} (hown : ∀ c, phase = .waiting c → s.Owns id c) :
    Tied (s.setWork id (.swap { job with phase })) where
  owned id' hw := by
    rw [work?_setWork_eq] at hw
    exact h.owned id' fun hnone => hw (by rw [hnone, Option.map_none])
  held id' job' c hw hphase := by
    by_cases hid : id' = id
    · subst hid
      rw [work?_setWork_eq, Option.map_eq_some_iff] at hw
      obtain ⟨_, _, hjob⟩ := hw
      rw [if_pos rfl] at hjob
      obtain rfl : { job with phase } = job' := JobWork.swap.inj hjob
      exact hown c hphase
    · rw [work?_setWork_of_ne _ hid] at hw
      exact h.held id' job' c hw hphase

theorem complete (h : Tied s) (c : Nat) (o : JobOutcome) : Tied (s.complete c o) := by
  have hwork : ∀ id, (s.complete c o).work? id = s.work? id := by
    obtain ⟨_, _, _, he⟩ := complete_eq_with (s := s) c o
    rw [he]
    exact fun _ => rfl
  exact h.of_work hwork fun _ _ ho => ho.complete o

theorem dropCompleter (h : Tied s) (c : Nat) : Tied (s.dropCompleter c) := by
  unfold Service.dropCompleter
  split
  · exact complete (s := s.say _ _ _) (h.quiet rfl rfl) c .dropped
  · exact h

theorem settled (h : Tied s) (c : Nat) (r : Resolution) :
    Tied ((s.setWork id (.swap { job with phase := .done })).settle id c r) :=
  complete (s := (s.setWork id _).note _) (quiet (h.rework fun _ hdone => by cases hdone) rfl rfl) c
    r.outcome

/-- A job that is prepared does not wait yet. -/
theorem prepared (h : Tied s) (trigger : Trigger) : Tied (s.prepared (.ofTrigger trigger)) where
  owned id hw := by
    cases hbefore : s.work? id with
    | some work =>
      obtain ⟨c, hc⟩ := h.owned id (hbefore.trans_ne (Option.some_ne_none _))
      exact ⟨c, hc.prepared _⟩
    | none =>
      rw [work?_prepared_of_none hbefore] at hw
      obtain rfl : id = ⟨s.drawn⟩ := by
        by_contra hne
        exact hw (if_neg hne)
      exact ⟨s.completers.length, none, List.getElem?_concat_length⟩
  held id job c hw hphase := by
    cases hbefore : s.work? id with
    | some work =>
      rw [work?_prepared hbefore] at hw
      obtain rfl := Option.some.inj hw
      exact (h.held id job c hbefore hphase).prepared _
    | none =>
      rw [work?_prepared_of_none hbefore, Option.ite_none_right_eq_some] at hw
      obtain ⟨-, hw⟩ := hw
      cases trigger <;> cases hw
      cases hphase

end Tied

theorem eventStrokes_owns : EventStrokes fun t : Service W => t.Owns id c where
  quiet _ _ _ h := h
  note _ _ h := h
  same _ h := h
  keep _ _ _ h := h
  settle _ _ _ h := Owns.complete (s := (Service.setWork _ _ _).note _) _ h

theorem eventStrokes_tied : EventStrokes (Tied (W := W)) where
  quiet _ _ _ h := h.quiet rfl rfl
  note _ _ h := h.quiet rfl rfl
  same hw h := h.of_work (work?_setWork_same hw) fun _ _ ho => ho
  keep _ _ _ h := h.rework fun _ hpending => by cases hpending
  settle {_ _ _ c r} _ _ _ h := h.settled c r

/-- A body that has the completer of its job leaves the others theirs. -/
theorem bodyStrokes_tied (env : Collaborators W) (id : Identity) (c : Nat) :
    BodyStrokes env id c fun t => Tied t ∧ t.Owns id c where
  toEventStrokes := eventStrokes_tied.and eventStrokes_owns
  ask _ h := ⟨h.1.quiet rfl rfl, h.2⟩
  sync _ h := ⟨h.1.quiet rfl rfl, h.2⟩
  start _ _ h := ⟨h.1.rework (by rintro _ ⟨⟩; exact h.2), h.2⟩
  early {_ _ r} _ _ h :=
    ⟨h.1.settled c r, Owns.complete (s := (Service.setWork _ _ _).note _) _ h.2⟩
  use o h := ⟨h.1.complete c o, h.2.complete o⟩
  tell _ _ h := ⟨h.1.quiet rfl rfl, h.2⟩

section
variable {P : Service W → Prop}
  (hsame : ∀ {s t : Service W}, P s → t.works = s.works → t.completers = s.completers → P t)
include hsame

theorem deskStable_of_works : DeskStable P :=
  ⟨fun _ _ h => hsame h rfl rfl, fun _ h => hsame h rfl rfl, fun h => hsame h rfl rfl⟩

variable (hprepare : ∀ {s : Service W} (trigger : Trigger), P s →
  P (s.prepared (.ofTrigger trigger)))
  (hdrop : ∀ {s : Service W} (c : Nat), P s → P (s.dropCompleter c))
  (hsignal : ∀ {s : Service W} (id : Identity), P s → P (s.signalJob id)) (hevents : EventStable P)
include hprepare hdrop hsignal hevents

theorem ambient_of_works : Ambient P where
  quiet _ _ _ _ h := hsame h rfl rfl
  session := ⟨fun _ _ _ _ _ _ _ h => hsame h rfl rfl, fun h => hsame h rfl rfl,
    fun _ _ h => hsame h rfl rfl, fun _ h => hsame h rfl rfl⟩
  send {s} c h := by
    obtain ⟨_, _, he⟩ := s.send_eq c
    rw [he]
    exact hsame h rfl rfl
  set _ _ _ h := hsame h rfl rfl
  refuse trigger message h := hdrop _ (hsame (hprepare trigger h) rfl rfl)
  hub _ h := hsame h rfl rfl
  shelf _ h := hsame h rfl rfl
  signal id _ h := hsignal id h
  close h := hsame h rfl rfl
  start _ h := hsame h rfl rfl
  tell _ h := hsame h rfl rfl
  place _ _ h := hsame h rfl rfl
  answered _ _ h := hsame h rfl rfl
  enroll trigger _ _ h := hsame (hprepare trigger h) rfl rfl
  remove _ _ _ _ h := hsame h rfl rfl
  wait _ h := hsame h rfl rfl
  release h := hsame h rfl rfl
  events := hevents
  closeInbox h := hsame h rfl rfl

/-- What is true of the jobs' work and their completers stays so, if new jobs, events, the signal of
the end and bodies keep it. -/
theorem move_of_works (hr : Reachable env s) (hm : Move env s s')
    (hbody : ∀ {k id c connection stage} {t : Service W} {r}, (k, .body id c connection stage) ∈
      s.activities → Marked s t → t.resumeBody env id c connection.session stage = some r →
      P t → P r.1)
    (h : P s) : P s' := by
  have hambient : Ambient P := ambient_of_works hsame hprepare hdrop hsignal hevents
  exact hambient.move (sane_reachable hr).own hm
    (fun _ hs => hambient.resumeScheduler (deskStable_of_works hsame) hs h)
    (fun ha _ hmarked hs => hbody ha hmarked hs) h

omit hdrop hsignal hevents in
/-- What is true of them stays so, if work keeps it and new jobs do. -/
theorem move_of_workStable (hwork : WorkStable P) (hr : Reachable env s) (hm : Move env s s')
    (h : P s) :
    P s' :=
  move_of_works hsame hprepare hwork.dropCompleter (fun _ h => hwork.signalJob (hsame h rfl rfl))
    hwork.events hr hm (fun _ _ hs => hwork.resumeBody hs) h

end

theorem workBlind_owns : WorkBlind fun t : Service W => t.Owns id c where
  quiet _ _ _ _ _ h := h
  use {s c' job} o hc h := by
    obtain ⟨used, hu⟩ := h
    by_cases hcc : c' = c
    · subst hcc
      rw [hc] at hu
      cases hu
      exact ⟨_, List.getElem?_set_self (List.getElem?_eq_some_iff.mp hc).1⟩
    · exact ⟨used, (List.getElem?_set_ne hcc).trans hu⟩
  note _ h := h
  settlement _ _ _ h := h

/-- A job keeps its completer for ever. -/
theorem Owns.move (hr : Reachable env s) (h : s.Owns id c) (hm : Move env s s') : s'.Owns id c := by
  refine move_of_workStable (fun h _ he => ?_)
    (fun _ h => h.prepared _) workBlind_owns.stable hr hm h
  rw [Owns, he]
  exact h

end PushWake.Service
