import PushWake.Service.State

/-!
# The record of a run

The history of a service is all that its past leaves behind, and a property of runs is a property of
the record: of what happened, in its order. Most of them say what must have happened before
something else may, or how often something has happened.
-/

namespace PushWake

/-- How often something of a kind happened. -/
def tally (p : Occurrence → Bool) (os : List Occurrence) : Nat := os.countP p

@[simp] theorem tally_nil (p : Occurrence → Bool) : tally p [] = 0 := rfl

@[simp] theorem tally_cons (p : Occurrence → Bool) (o : Occurrence) (os : List Occurrence) :
    tally p (o :: os) = tally p os + if p o = true then 1 else 0 := List.countP_cons

@[simp] theorem tally_append (p : Occurrence → Bool) (os os' : List Occurrence) :
    tally p (os ++ os') = tally p os + tally p os' := List.countP_append

/-- Where a view of the record shows one kind of thing, what it shows has happened. -/
theorem mem_view {α : Type} {view : Occurrence → Option α} {shown : α → Occurrence}
    (h : ∀ o a, view o = some a ↔ o = shown a) {os : List Occurrence} {a : α} :
    a ∈ os.filterMap view ↔ shown a ∈ os := by
  rw [List.mem_filterMap]
  constructor
  · rintro ⟨o, ho, hview⟩
    exact (h o a).mp hview ▸ ho
  · exact fun ho => ⟨_, ho, (h _ _).mpr rfl⟩

/-- The calls that were answered, with their answers. -/
def answers (os : List Occurrence) : List (Nat × CallAnswer) :=
  os.filterMap fun o =>
    match o with
    | .answered k a => some (k, a)
    | _ => none

@[simp] theorem answers_append (os os' : List Occurrence) :
    answers (os ++ os') = answers os ++ answers os' := List.filterMap_append

@[simp] theorem answers_answered (k : Nat) (a : CallAnswer) (os : List Occurrence) :
    answers (.answered k a :: os) = (k, a) :: answers os := rfl

theorem mem_answers {os : List Occurrence} {k : Nat} {a : CallAnswer} :
    (k, a) ∈ answers os ↔ .answered k a ∈ os := by
  refine @mem_view _ _ (fun b : Nat × CallAnswer => .answered b.1 b.2) (fun o b => ?_) _ _
  obtain ⟨j, b⟩ := b
  cases o <;> simp

/-- A record in which everything was allowed when it happened. -/
inductive Orderly (allowed : List Occurrence → Occurrence → Prop) : List Occurrence → Prop where
  | nil : Orderly allowed []
  | snoc {os : List Occurrence} {o : Occurrence} :
      Orderly allowed os → allowed os o → Orderly allowed (os ++ [o])

namespace Orderly

variable {allowed : List Occurrence → Occurrence → Prop} {os : List Occurrence} {a b c : Occurrence}

/-- Two things that are allowed one after the other may happen together. -/
theorem snoc₂ (h : Orderly allowed os) (ha : allowed os a) (hb : allowed (os ++ [a]) b) :
    Orderly allowed (os ++ [a, b]) := by
  simpa using (h.snoc ha).snoc hb

theorem snoc₃ (h : Orderly allowed os) (ha : allowed os a) (hb : allowed (os ++ [a]) b)
    (hc : allowed (os ++ [a, b]) c) : Orderly allowed (os ++ [a, b, c]) := by
  simpa using (h.snoc₂ ha hb).snoc hc

/-- What is allowed anyway may follow. -/
theorem append {new : List Occurrence} (h : Orderly allowed os)
    (hnew : ∀ o ∈ new, ∀ os, allowed os o) : Orderly allowed (os ++ new) := by
  induction new generalizing os with
  | nil => exact (List.append_nil os).symm ▸ h
  | cons o new ih =>
    rw [List.append_cons]
    refine ih (h.snoc (hnew o List.mem_cons_self os)) fun o' ho' => ?_
    exact hnew o' (List.mem_cons_of_mem _ ho')

/-- Whatever happened was allowed by what had happened before. -/
theorem was_allowed (h : Orderly allowed os) : ∀ {before : List Occurrence} {o : Occurrence}
    {after : List Occurrence}, os = before ++ o :: after → allowed before o := by
  induction h with
  | nil => intro before o after he; simp at he
  | @snoc os last _ hlast ih =>
    intro before o after he
    rcases List.eq_nil_or_concat after with rfl | ⟨after, x, rfl⟩
    · obtain ⟨rfl, hx⟩ := List.append_inj' he rfl
      cases hx
      exact hlast
    · rw [List.concat_eq_append, ← List.cons_append, ← List.append_assoc] at he
      exact ih (List.append_inj' he rfl).1

end Orderly

/-! ## What is granted until it is revoked -/

/-- Something was granted, and has not been revoked since. -/
def Unrevoked (grants : Occurrence → Prop) (revocation : Occurrence) (os : List Occurrence) :
    Prop :=
  ∃ before o after, os = before ++ o :: after ∧ grants o ∧ revocation ∉ after

namespace Unrevoked

variable {grants : Occurrence → Prop} {revocation o : Occurrence} {os new : List Occurrence}

/-- Nothing was granted before anything has happened. -/
theorem not_nil : ¬Unrevoked grants revocation [] := by
  rintro ⟨before, o, after, he, -⟩
  simp at he

/-- What is granted now was granted last, or it was granted before and has just not been revoked. -/
theorem snoc (h : Unrevoked grants revocation (os ++ [o])) :
    grants o ∨ (Unrevoked grants revocation os ∧ o ≠ revocation) := by
  obtain ⟨before, x, after, he, hgrants, hnot⟩ := h
  rcases List.eq_nil_or_concat after with rfl | ⟨after, y, rfl⟩
  · obtain ⟨-, hx⟩ := List.append_inj' he rfl
    exact .inl (List.singleton_inj.mp hx ▸ hgrants)
  · rw [List.concat_eq_append, ← List.cons_append, ← List.append_assoc] at he
    obtain ⟨rfl, hy⟩ := List.append_inj' he rfl
    obtain rfl := List.singleton_inj.mp hy
    simp only [List.concat_eq_append, List.mem_append, List.mem_singleton, not_or] at hnot
    exact .inr ⟨⟨before, x, after, rfl, hgrants, hnot.1⟩, Ne.symm hnot.2⟩

/-- What grants nothing may only revoke. -/
theorem append (hnew : ∀ o ∈ new, ¬grants o) (h : Unrevoked grants revocation (os ++ new)) :
    Unrevoked grants revocation os ∧ revocation ∉ new := by
  induction new generalizing os with
  | nil => exact ⟨by simpa using h, by simp⟩
  | cons o new ih =>
    rw [← List.singleton_append, ← List.append_assoc] at h
    obtain ⟨h, hin⟩ := ih (fun o' ho' => hnew o' (List.mem_cons_of_mem _ ho')) h
    rcases h.snoc with ho | ⟨h, hne⟩
    · exact absurd ho (hnew o List.mem_cons_self)
    · exact ⟨h, by simpa [hin] using Ne.symm hne⟩

end Unrevoked

namespace Service

variable {W : Type} {s : Service W}

/-- What happened, without the times. -/
def record (s : Service W) : List Occurrence := s.history.map Prod.snd

@[simp] theorem record_note (o : Occurrence) : (s.note o).record = s.record ++ [o] := by
  simp [record, note]

end Service

end PushWake
