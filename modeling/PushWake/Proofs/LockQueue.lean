import Mathlib.Logic.Function.Basic
import PushWake.Lock

/-!
# The queue of a lock

Whoever uses a lock is outside, waits for it, or is inside. `Lock.Queue` says how the lock and its
users fit together: at most one is inside and holds the lock, whoever waits holds it already or is
in line, and a free lock has no line. Asking for the lock, going inside and leaving keep that.
-/

namespace PushWake

open Function

/-- How a user stands to a lock. -/
inductive Stance where
  | outside
  | waits
  | inside
deriving DecidableEq, Repr

namespace Lock

/-- **How a lock and its users fit together.** -/
structure Queue (l : Lock) (stance : Nat → Stance) : Prop where
  /-- A lock that was handed over to somebody who waits is held by them. -/
  held : ∀ j, l.holder = some j → stance j ≠ .outside
  inside : ∀ j, stance j = .inside → l.holder = some j
  inLine : ∀ j, j ∈ l.waiting → stance j = .waits
  waits : ∀ j, stance j = .waits → l.holder = some j ∨ j ∈ l.waiting
  idle : l.holder = none → l.waiting = []
  once : l.waiting.Nodup
  apart : ∀ j, l.holder = some j → j ∉ l.waiting

namespace Queue

variable {l : Lock} {stance : Nat → Stance} {k : Nat}

theorem free : Queue {} fun _ => .outside where
  held _ h := by cases h
  inside _ h := by cases h
  inLine _ h := by cases h
  waits _ h := by cases h
  idle _ := rfl
  once := List.nodup_nil
  apart _ h := by cases h

/-- Whoever is outside is not known to the lock. -/
theorem not_inLine (h : Queue l stance) (hk : stance k = .outside) : k ∉ l.waiting := by
  intro hw
  rw [h.inLine k hw] at hk
  cases hk

/-- Whoever comes to a free lock holds it at once, for nobody waits there. -/
theorem take (h : Queue l stance) (hfree : l.holder = none) :
    Queue ⟨some k, l.waiting⟩ (update stance k .waits) := by
  have hother : ∀ j, j ≠ k → update stance k .waits j = stance j := fun j hj =>
    update_of_ne hj _ _
  have hempty : l.waiting = [] := h.idle hfree
  rw [hempty]
  constructor
  case held =>
    rintro j hj
    cases hj
    simp
  case inside =>
    intro j hj
    by_cases hjk : j = k
    · exact congrArg some hjk.symm
    · rw [hother j hjk] at hj
      rw [h.inside j hj] at hfree
      cases hfree
  case inLine => exact nofun
  case waits =>
    intro j hj
    by_cases hjk : j = k
    · exact .inl (congrArg some hjk.symm)
    · rw [hother j hjk] at hj
      rcases h.waits j hj with hj | hj
      · rw [hj] at hfree
        cases hfree
      · rw [hempty] at hj
        cases hj
  case idle => exact nofun
  case once => exact List.nodup_nil
  case apart => exact nofun

/-- Whoever comes to a lock that is held is the last in line. -/
theorem join (h : Queue l stance) (hk : stance k = .outside) {i : Nat} (hheld : l.holder = some i) :
    Queue ⟨some i, l.waiting ++ [k]⟩ (update stance k .waits) := by
  have hother : ∀ j, j ≠ k → update stance k .waits j = stance j := fun j hj =>
    update_of_ne hj _ _
  have hline : ∀ j ∈ l.waiting, j ≠ k := by
    rintro j hj rfl
    exact h.not_inLine hk hj
  have hi : i ≠ k := by
    rintro rfl
    exact h.held _ hheld hk
  constructor
  case held =>
    rintro j hj
    cases hj
    rw [hother _ hi]
    exact h.held _ hheld
  case inside =>
    intro j hj
    by_cases hjk : j = k
    · subst hjk
      simp at hj
    · rw [hother j hjk] at hj
      exact hheld ▸ h.inside j hj
  case inLine =>
    intro j hj
    rcases List.mem_append.mp hj with hj | hj
    · rw [hother j (hline j hj)]
      exact h.inLine j hj
    · rw [List.mem_singleton.mp hj, update_self]
  case waits =>
    intro j hj
    by_cases hjk : j = k
    · exact .inr (List.mem_append_right _ (hjk ▸ List.mem_singleton_self k))
    · rw [hother j hjk] at hj
      exact (h.waits j hj).imp (hheld ▸ ·) (List.mem_append_left _)
  case idle => exact nofun
  case once =>
    rw [List.nodup_append]
    refine ⟨h.once, by simp, ?_⟩
    rintro j hj _ hk'
    rw [List.mem_singleton.mp hk']
    exact hline j hj
  case apart =>
    rintro j hj hw
    cases hj
    rcases List.mem_append.mp hw with hw | hw
    · exact h.apart _ hheld hw
    · exact hi (List.mem_singleton.mp hw)

/-- Whoever asks for the lock waits for it, and may hold it already. -/
theorem request (h : Queue l stance) (hk : stance k = .outside) :
    Queue (l.request k) (update stance k .waits) := by
  cases hh : l.holder with
  | none =>
    have he : l.request k = ⟨some k, l.waiting⟩ := by simp [Lock.request, hh]
    rw [he]
    exact h.take hh
  | some i =>
    have he : l.request k = ⟨some i, l.waiting ++ [k]⟩ := by simp [Lock.request, hh]
    rw [he]
    exact h.join hk hh

/-- The holder goes inside, or goes on there. -/
theorem enter (h : Queue l stance) (hk : l.holder = some k) :
    Queue l (update stance k .inside) := by
  have hother : ∀ j, j ≠ k → update stance k .inside j = stance j := fun j hj =>
    update_of_ne hj _ _
  refine ⟨?_, ?_, ?_, ?_, h.idle, h.once, h.apart⟩
  · intro j hj
    obtain rfl : k = j := by rw [hj] at hk; exact (Option.some.inj hk).symm
    simp
  · intro j hj
    by_cases hjk : j = k
    · exact hjk ▸ hk
    · exact h.inside j (hother j hjk ▸ hj)
  · intro j hj
    have hjk : j ≠ k := by
      rintro rfl
      exact h.apart j hk hj
    rw [hother j hjk]
    exact h.inLine j hj
  · intro j hj
    by_cases hjk : j = k
    · exact .inl (hjk ▸ hk)
    · exact h.waits j (hother j hjk ▸ hj)

/-- The holder leaves, and hands the lock to the first in line. -/
theorem leave (h : Queue l stance) (hk : l.holder = some k) :
    Queue l.release (update stance k .outside) := by
  have hother : ∀ j, j ≠ k → update stance k .outside j = stance j := fun j hj =>
    update_of_ne hj _ _
  -- nobody else is inside
  have halone : ∀ j, update stance k .outside j ≠ .inside := by
    intro j hj
    by_cases hjk : j = k
    · subst hjk
      simp at hj
    · have hin := h.inside j (hother j hjk ▸ hj)
      rw [hk] at hin
      exact hjk (Option.some.inj hin).symm
  have hline : ∀ j ∈ l.waiting, update stance k .outside j = .waits := by
    intro j hj
    have hjk : j ≠ k := by
      rintro rfl
      exact h.apart j hk hj
    rw [hother j hjk]
    exact h.inLine j hj
  have hwaits : ∀ j, update stance k .outside j = .waits → j ∈ l.waiting := by
    intro j hj
    by_cases hjk : j = k
    · subst hjk
      simp at hj
    · rcases h.waits j (hother j hjk ▸ hj) with hin | hin
      · rw [hk] at hin
        exact absurd (Option.some.inj hin).symm hjk
      · exact hin
  cases hw : l.waiting with
  | nil =>
    have he : l.release = {} := by simp [release, hw]
    rw [he]
    refine ⟨nofun, fun j hj => absurd hj (halone j), nofun, ?_, fun _ => rfl, List.nodup_nil, nofun⟩
    intro j hj
    have hin := hwaits j hj
    rw [hw] at hin
    cases hin
  | cons i rest =>
    have he : l.release = ⟨some i, rest⟩ := by simp [release, hw]
    obtain ⟨hfirst, hrest⟩ := List.nodup_cons.mp (hw ▸ h.once)
    rw [he]
    refine ⟨?_, fun j hj => absurd hj (halone j), ?_, ?_, nofun, hrest, ?_⟩
    · rintro j hj
      cases hj
      rw [hline i (hw ▸ List.mem_cons_self)]
      simp
    · exact fun j hj => hline j (hw ▸ List.mem_cons_of_mem _ hj)
    · intro j hj
      have hin := hwaits j hj
      rw [hw] at hin
      exact (List.mem_cons.mp hin).imp (fun he => congrArg some he.symm) id
    · rintro j hj
      cases hj
      exact hfirst

end Queue

end Lock

end PushWake
