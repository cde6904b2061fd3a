import Mathlib.Data.List.Basic
import Mathlib.Data.List.Induction
import PushWake.Proofs.SetOperations

/-!
# The operations on the set, one after the other

Whoever uses the set sees a few operations and what they answer. In a service each of them does
more: it logs, wakes somebody up, and jobs react to what they are shown, so a broadcast may use
completers. None of that comes back to the set before the operation is over. So what a whole service
leaves after any sequence of operations (`Performed`) is what the set alone makes of them
(`Performs.effect`), and what holds of such sequences is shown on the set.
-/

namespace PushWake

/-- An operation on the set of jobs, as whoever uses it sees it. -/
inductive SetOperation where
  | add (job : Identity) (kind : JobKind)
  | markRunning (job : Identity)
  | remove (job : Identity)
  | armIfEmpty
  | broadcast (event : Event)
  | signal
  | closeIfEmpty
  /-- Nothing that concerns the set. -/
  | aside

/-- Whether something is shown to a job, or the scheduler is told something. -/
def Occurrence.isTidings : Occurrence → Bool
  | .jobEvent _ _ => true
  | .command _ => true
  | _ => false

/-- What was shown to jobs and what the scheduler was told, in its order. -/
def tidings (os : List Occurrence) : List Occurrence := os.filter Occurrence.isTidings

theorem tidings_append (os os' : List Occurrence) :
    tidings (os ++ os') = tidings os ++ tidings os' :=
  List.filter_append os os'

/-- What the scheduler was told. -/
def sent (os : List Occurrence) : List SchedulerCommand :=
  os.filterMap fun o =>
    match o with
    | .command c => some c
    | _ => none

/-- The events that a job was shown. -/
def seen (job : Identity) (os : List Occurrence) : List Event :=
  os.filterMap fun o =>
    match o with
    | .jobEvent id e => if id = job then some e else none
    | _ => none

theorem sent_append (os os' : List Occurrence) : sent (os ++ os') = sent os ++ sent os' :=
  List.filterMap_append

theorem seen_append (job : Identity) (os os' : List Occurrence) :
    seen job (os ++ os') = seen job os ++ seen job os' :=
  List.filterMap_append

/-- Commands are tidings, so nothing is sent that the tidings do not tell. -/
theorem sent_tidings (os : List Occurrence) : sent (tidings os) = sent os := by
  rw [sent, tidings, List.filterMap_filter]
  refine List.filterMap_congr fun o _ => ?_
  cases o <;> rfl

/-- What a job is shown are tidings, too. -/
theorem seen_tidings (job : Identity) (os : List Occurrence) :
    seen job (tidings os) = seen job os := by
  rw [seen, tidings, List.filterMap_filter]
  refine List.filterMap_congr fun o _ => ?_
  cases o <;> rfl

namespace JobSet

/-- What an operation leaves of the set, whether it did anything, and what the scheduler is to be
told. -/
def perform (s : JobSet) : SetOperation → Change
  | .add job kind => s.add job kind
  | .markRunning job => s.markRunning job
  | .remove job => s.remove job
  | .armIfEmpty => s.armIfEmpty
  | .broadcast _ => s.unchanged
  | .signal => s.close
  | .closeIfEmpty => s.closeIfEmpty
  | .aside => s.unchanged

/-- What an operation shows to the members. -/
def shows (s : JobSet) : SetOperation → List Occurrence
  | .broadcast e => s.ids.map fun id => .jobEvent id e
  | _ => []

/-- What comes of an operation: what the members are shown, and what the scheduler is told. -/
def tells (s : JobSet) (op : SetOperation) : List Occurrence :=
  s.shows op ++ (s.perform op).command.toList.map Occurrence.command

end JobSet

namespace Service

variable {W : Type} {env : Collaborators W} {s t : Service W} {k : Nat}
  {ops ops' : List (SetOperation × Bool)}

/-! ## Operations -/

/-- An operation of a service on its set, and what it answers. -/
inductive Performs (s : Service W) : SetOperation → Bool → Service W → Prop where
  | add (id : Identity) (kind : JobKind) :
      Performs s (.add id kind) (s.addJob id kind).2.isSome (s.addJob id kind).1
  | markRunning (id : Identity) :
      Performs s (.markRunning id) (s.markRunning id).2 (s.markRunning id).1
  | remove (id : Identity) (o : JobOutcome) :
      Performs s (.remove id) (s.removeJob id o).2 (s.removeJob id o).1
  /-- The reaper of a completer that has been used takes its job out. -/
  | reap {k c : Nat} {id owner : Identity} {o : JobOutcome} :
      s.activity? k = some (.reaper id c) → s.completers[c]? = some ⟨owner, some o⟩ →
      Performs s (.remove id) (s.removeJob id o).2 ((s.removeJob id o).1.finish k)
  | complete (c : Nat) (o : JobOutcome) : Performs s .aside false (s.complete c o)
  | dropCompleter (c : Nat) : Performs s .aside false (s.dropCompleter c)
  | armIfEmpty : Performs s .armIfEmpty s.armIfEmpty.2 s.armIfEmpty.1
  | broadcast (e : Event) : Performs s (.broadcast e) false (s.broadcast e)
  /-- An event comes from the session. -/
  | fanOut (e : Event) : Performs s (.broadcast e) false (s.fanOut e)
  | signal : Performs s .signal s.signalJobs.2 s.signalJobs.1
  | closeIfEmpty : Performs s .closeIfEmpty s.closeIfEmpty.2 s.closeIfEmpty.1
  /-- The rest of the service goes on, and leaves the set, the jobs' events and the
  commands alone. -/
  | elsewhere {t : Service W} : t.jobs = s.jobs → tidings t.record = tidings s.record →
      Performs s .aside false t

/-- Some operations, with their answers, and what they leave. -/
inductive Performed (s : Service W) : List (SetOperation × Bool) → Service W → Prop where
  | none : Performed s [] s
  | more {ops : List (SetOperation × Bool)} {op : SetOperation} {done : Bool} {t u : Service W} :
      Performed s ops t → Performs t op done u → Performed s (ops ++ [(op, done)]) u

/-- Operations may be put one after the other. -/
theorem Performed.trans {u : Service W} (h : Performed s ops t) (h' : Performed t ops' u) :
    Performed s (ops ++ ops') u := by
  induction h' with
  | none => rwa [List.append_nil]
  | more _ hp ih =>
    rw [← List.append_assoc]
    exact ih.more hp

/-- The last of some operations comes after the others. -/
theorem Performed.last {x : SetOperation × Bool} (h : Performed s (ops ++ [x]) t) :
    ∃ m, Performed s ops m ∧ Performs m x.1 x.2 t := by
  generalize hall : ops ++ [x] = all at h
  cases h with
  | none => simp at hall
  | @more ops' op done m _ h hp =>
    obtain ⟨rfl, hx⟩ := List.append_inj' hall rfl
    cases hx
    exact ⟨m, h, hp⟩

/-- There is a moment between two stretches of operations. -/
theorem Performed.split (h : Performed s (ops ++ ops') t) :
    ∃ m, Performed s ops m ∧ Performed m ops' t := by
  induction ops' using List.reverseRecOn generalizing t with
  | nil =>
    rw [List.append_nil] at h
    exact ⟨t, h, .none⟩
  | append_singleton ops' x ih =>
    rw [← List.append_assoc] at h
    obtain ⟨m, h, hp⟩ := h.last
    obtain ⟨m', hfirst, hrest⟩ := ih h
    exact ⟨m', hfirst, hrest.more hp⟩

/-! ## What operations do besides -/

/-- Nothing has happened to the set, no job was shown an event, and no command was sent. -/
structure Alike (s t : Service W) : Prop where
  jobs : t.jobs = s.jobs
  tidings : tidings t.record = PushWake.tidings s.record

namespace Alike

theorem refl : Alike s s := ⟨rfl, rfl⟩

theorem trans {u : Service W} (h : Alike s t) (h' : Alike t u) : Alike s u :=
  ⟨h'.jobs.trans h.jobs, h'.tidings.trans h.tidings⟩

theorem quiet (hjobs : t.jobs = s.jobs) (hhistory : t.history = s.history) : Alike s t :=
  ⟨hjobs, by rw [record, record, hhistory]⟩

/-- What is no tidings may be noted besides. -/
theorem note {o : Occurrence} (h : Alike s t) (ho : o.isTidings = false) : Alike s (t.note o) := by
  refine ⟨h.jobs, ?_⟩
  rw [record_note, tidings_append, h.tidings]
  simp [PushWake.tidings, ho]

theorem say (h : Alike s t) (tag : String) (level : LogLevel) (message : String) :
    Alike s (t.say tag level message) :=
  ⟨h.jobs, h.tidings⟩

theorem spawn (h : Alike s t) (a : Activity) : Alike s (t.spawn a) :=
  ⟨h.jobs, h.tidings⟩

/-- A completer that is used wakes a reaper; the set hears of it when the reaper has its turn. -/
theorem complete (h : Alike s t) (c : Nat) (o : JobOutcome) : Alike s (t.complete c o) := by
  refine h.trans ?_
  unfold Service.complete
  split
  · rename_i job _
    have hused : Alike t (({ t with completers := t.completers.set c ⟨job, some o⟩ }).note
        (.jobCompleted job c o)) := Alike.note (.quiet rfl rfl) rfl
    unfold wakeReaper
    split
    · exact hused.trans (.quiet rfl rfl)
    · exact hused
  · exact .refl

theorem dropCompleter (h : Alike s t) (c : Nat) : Alike s (t.dropCompleter c) := by
  unfold Service.dropCompleter
  split
  · exact (h.say _ _ _).complete _ _
  · exact h

/-- A swap job that is resolved may use its completer. -/
theorem resolveSwap (h : Alike s t) (id : Identity) (job : SwapJob) (r : Resolution) :
    Alike s (t.resolveSwap id job r) := by
  unfold Service.resolveSwap
  extract_lets said
  have hs : Alike s said := by
    simp only [said]
    split
    · exact h.say _ _ _
    · exact h
  split
  rename_i job' completer _
  have hw : Alike s (said.setWork id (.swap job')) := hs.trans (.quiet rfl rfl)
  cases completer with
  | none => exact hw
  | some c => exact (hw.note (o := .notify id r.notification) rfl).complete c r.outcome

theorem sayResolution (h : Alike s t) (id : Identity) (e : Event) :
    Alike s (t.sayResolution id e) := by
  cases e with
  | synced => exact h
  | waitingConfirmation | succeeded | failed => exact h.say _ _ _

/-- A job that is told may use its completer, and stays in the set. -/
theorem signalJob (h : Alike s t) (id : Identity) : Alike s (t.signalJob id) := by
  have hn : Alike s (t.note (.jobShutdown id)) := h.note rfl
  unfold Service.signalJob
  extract_lets noted
  split
  · exact hn.resolveSwap id _ _
  · exact hn.say _ _ _
  · exact hn.say _ _ _
  · exact hn

theorem signalAll (h : Alike s t) (ids : List Identity) :
    Alike s (ids.foldl Service.signalJob t) := by
  induction ids generalizing t with
  | nil => exact h
  | cons id ids ih => exact ih (h.signalJob id)

end Alike

/-! ## What operations leave -/

/-- A service after something that leaves a set, and shows or tells something. -/
structure Leaves (s : Service W) (set : JobSet) (new : List Occurrence) (t : Service W) : Prop where
  jobs : t.jobs = set
  tidings : tidings t.record = PushWake.tidings s.record ++ new

namespace Leaves

variable {set : JobSet} {new : List Occurrence}

theorem alike (h : Leaves s set new t) {u : Service W} (hu : Alike t u) : Leaves s set new u :=
  ⟨hu.jobs.trans h.jobs, hu.tidings.trans h.tidings⟩

theorem of_alike (h : Alike s t) (hjobs : set = s.jobs) : Leaves s set [] t :=
  ⟨h.jobs.trans hjobs.symm, h.tidings.trans (List.append_nil _).symm⟩

/-- A change that is put into effect may send a command. -/
theorem change {c : JobSet.Change} (h : Alike s t) :
    Leaves s c.set (c.command.toList.map Occurrence.command) (t.change c) := by
  unfold Service.change
  extract_lets u
  have hu : Leaves s c.set [] u := ⟨rfl, h.tidings.trans (List.append_nil _).symm⟩
  cases hc : c.command with
  | none => exact hu
  | some command =>
    refine ⟨(send_jobs command).trans hu.jobs, ?_⟩
    show PushWake.tidings (u.send command).record = _
    rw [record_send, tidings_append, hu.tidings, List.append_nil]
    rfl

end Leaves

variable {new : List Occurrence}

/-- A member is shown an event before it reacts to it. -/
theorem showJob_leaves (e : Event) (id : Identity) :
    Leaves s s.jobs [.jobEvent id e] (s.showJob e id) := by
  have hn : Leaves s s.jobs [.jobEvent id e] (s.note (.jobEvent id e)) := by
    refine ⟨rfl, ?_⟩
    rw [record_note, tidings_append]
    rfl
  unfold showJob
  extract_lets noted
  split
  · split
    · exact hn.alike ((Alike.refl.sayResolution id e).resolveSwap id _ _)
    · exact hn
  · exact hn

/-- Each member is shown the event, in the order of the set. -/
theorem showAll_leaves (e : Event) (ids : List Identity) (h : Leaves s s.jobs new t) :
    Leaves s s.jobs (new ++ ids.map fun id => .jobEvent id e) (ids.foldl (showJob e) t) := by
  induction ids generalizing t new with
  | nil => rwa [List.map_nil, List.append_nil]
  | cons id ids ih =>
    obtain ⟨hjobs, htidings⟩ := showJob_leaves (s := t) e id
    have hshown : Leaves s s.jobs (new ++ [.jobEvent id e]) (t.showJob e id) :=
      ⟨hjobs.trans h.jobs, by rw [htidings, h.tidings, List.append_assoc]⟩
    rw [List.map_cons, List.append_cons]
    exact ih hshown

/-- A service takes a job if its set does, and tells the scheduler what its set tells. -/
theorem addJob_leaves (id : Identity) (kind : JobKind) :
    (s.addJob id kind).2.isSome = (s.jobs.add id kind).done ∧
      Leaves s (s.jobs.add id kind).set ((s.jobs.add id kind).command.toList.map .command)
        (s.addJob id kind).1 := by
  rcases Bool.eq_false_or_eq_true s.jobs.closed with hclosed | hopen
  · obtain ⟨message, he⟩ := addJob_of_closed hclosed id kind
    have hsaid : Alike s ((s.newCompleter id).1.say "registry" .debug message) := .quiet rfl rfl
    rw [he, JobSet.add_closed hclosed]
    exact ⟨rfl, .of_alike (hsaid.dropCompleter _) rfl⟩
  · obtain ⟨message, he⟩ := addJob_of_open hopen id kind
    have hadded : Alike s (s.note (.jobAdded id kind)) := Alike.note .refl rfl
    have hsent : Leaves s (s.registered id kind).jobs [.command .reset]
        ((s.registered id kind).send .reset) := by
      refine ⟨send_jobs .reset, ?_⟩
      rw [record_send, tidings_append]
      exact congrArg (· ++ [Occurrence.command .reset]) hadded.tidings
    rw [he, JobSet.add_open hopen]
    exact ⟨rfl, hsent.alike ((Alike.refl.say _ _ _).spawn _)⟩

/-- Whether a job was there to be taken out is said by the set. -/
theorem removeJob_leaves (id : Identity) (o : JobOutcome) :
    (s.removeJob id o).2 = (s.jobs.remove id).done ∧
      Leaves s (s.jobs.remove id).set ((s.jobs.remove id).command.toList.map .command)
        (s.removeJob id o).1 := by
  cases hfind : s.jobs.find? id with
  | none =>
    simp only [removeJob, JobSet.remove, hfind]
    exact ⟨rfl, .of_alike (.quiet rfl rfl) rfl⟩
  | some e =>
    have hdone : (s.jobs.remove id).done = true := by simp [JobSet.remove, hfind]
    obtain ⟨log, hlog⟩ := (s.note (.jobRemoved id o)).sayOutcome_eq e o
    have hnoted : Alike s (s.note (.jobRemoved id o)) := Alike.note .refl rfl
    simp only [removeJob, hfind, hlog]
    exact ⟨hdone.symm, .change (hnoted.trans (.quiet rfl rfl))⟩

/-- Whether it is this signal that closes the set is said by the set. -/
theorem signalJobs_leaves : s.signalJobs.2 = s.jobs.close.done ∧
    Leaves s s.jobs.close.set (s.jobs.close.command.toList.map .command) s.signalJobs.1 := by
  unfold signalJobs
  extract_lets c closed said
  have hc : c = s.jobs.close := rfl
  split
  · rename_i hdone
    rw [← hc]
    refine ⟨hdone.symm, Leaves.alike (Leaves.change .refl) (Alike.signalAll ?_ _)⟩
    simp only [said]
    split
    · exact .refl
    · exact .quiet rfl rfl
  · rename_i hdone
    have hsame : s.jobs.close = s.jobs.unchanged := by
      unfold JobSet.close
      split
      · rfl
      · rename_i hopen
        exact absurd (by simp [hc, JobSet.close, hopen]) hdone
    rw [hsame]
    exact ⟨rfl, .of_alike .refl rfl⟩

/-- **A service leaves what the set alone makes of an operation**, whatever its jobs do
meanwhile. -/
theorem Performs.effect {op : SetOperation} {done : Bool} (h : Performs s op done t) :
    done = (s.jobs.perform op).done ∧ Leaves s (s.jobs.perform op).set (s.jobs.tells op) t := by
  -- one case for each operation, each by its own lemma
  cases h with
  | add id kind => exact addJob_leaves id kind
  | markRunning id => exact ⟨rfl, .change .refl⟩
  | remove id o => exact removeJob_leaves id o
  | @reap k c id owner o _ _ =>
    obtain ⟨hdone, hleaves⟩ := removeJob_leaves (s := s) id o
    exact ⟨hdone, hleaves.alike (.quiet rfl rfl)⟩
  | complete c o => exact ⟨rfl, .of_alike (Alike.refl.complete c o) rfl⟩
  | dropCompleter c => exact ⟨rfl, .of_alike (Alike.refl.dropCompleter c) rfl⟩
  | armIfEmpty => exact ⟨rfl, .change .refl⟩
  | broadcast e | fanOut e =>
    refine ⟨rfl, ?_⟩
    rw [JobSet.tells, JobSet.shows, JobSet.perform, JobSet.unchanged, Option.toList_none,
      List.map_nil, List.append_nil]
    refine showAll_leaves e s.jobs.ids (?_ : Leaves s s.jobs [] _)
    exact .of_alike (.quiet rfl rfl) rfl
  | signal => exact signalJobs_leaves
  | closeIfEmpty => exact ⟨rfl, .change .refl⟩
  | elsewhere hjobs htidings => exact ⟨rfl, .of_alike ⟨hjobs, htidings⟩ rfl⟩

end Service

end PushWake
