import PushWake.Job.Set

/-!
# The members of a set of jobs

What each operation does to the identities of the members. A set in which no identity occurs twice
is determined by them: they come in the order of their registration, and a removal takes out one.
-/

namespace PushWake

instance : LawfulBEq Identity where
  eq_of_beq {a b} h := by
    cases a
    cases b
    exact congrArg Identity.mk (eq_of_beq h)
  rfl {a} := beq_self_eq_true a.number

namespace JobSet

variable {s : JobSet} {id : Identity} {entries entries' : List JobEntry}

theorem eq_nil_of_ids (h : entries.map JobEntry.id = s.ids) :
    entries = [] ↔ s.entries = [] := by
  rw [← List.map_eq_nil_iff (f := JobEntry.id), h, ids, List.map_eq_nil_iff]

theorem startFirst_ids (h : startFirst id entries = some entries') :
    entries'.map JobEntry.id = entries.map JobEntry.id := by
  induction entries generalizing entries' with
  | nil => cases h
  | cons e rest ih =>
    simp only [startFirst] at h
    split at h
    · split at h
      · cases h
        rfl
      · cases h
    · obtain ⟨left, hl, rfl⟩ := Option.map_eq_some_iff.mp h
      rw [List.map_cons, List.map_cons, ih hl]

/-- That the body of a job has begun changes neither the members nor whether the set is closed, and
is nothing to the scheduler. -/
theorem markRunning_eq (s : JobSet) (id : Identity) : ∃ entries : List JobEntry,
    entries.map JobEntry.id = s.ids ∧ (s.markRunning id).set = { s with entries } ∧
      (s.markRunning id).command = none := by
  unfold markRunning
  split
  · rename_i entries h
    exact ⟨entries, startFirst_ids h, rfl, rfl⟩
  · exact ⟨s.entries, rfl, rfl, rfl⟩

theorem add_open (h : s.closed = false) (id : Identity) (kind : JobKind) :
    s.add id kind =
      ⟨{ s with entries := s.entries ++ [⟨id, kind, .pending⟩] }, true, some .reset⟩ := by
  simp [add, h]

theorem add_closed (h : s.closed = true) (id : Identity) (kind : JobKind) :
    s.add id kind = s.unchanged := by
  simp [add, h]

/-- A removal takes the first of an identity out, and starts the delay if nobody is left in an open
set. -/
theorem remove_of_find {e : JobEntry} (h : s.find? id = some e) : ∃ left : List JobEntry,
    left.map JobEntry.id = s.ids.erase id ∧ s.remove id =
      ⟨{ s with entries := left }, true,
        if left.isEmpty && !s.closed then some .armEmptyDelay else none⟩ := by
  refine ⟨s.entries.eraseP fun e => e.id == id, ?_, ?_⟩
  · rw [ids, List.erase_eq_eraseP', List.eraseP_map]
    rfl
  · simp [remove, h, commandIfEmpty]

theorem not_mem_of_find (h : s.find? id = none) : id ∉ s.ids := by
  intro hid
  obtain ⟨e, he, rfl⟩ := List.mem_map.mp hid
  exact List.find?_eq_none.mp h e he (beq_self_eq_true e.id)

end JobSet

end PushWake
