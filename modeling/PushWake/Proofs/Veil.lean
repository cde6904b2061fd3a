import PushWake.Service.Step

/-!
# A service behind a veil

A veil hides the texts of secrets, and not whether there are any: the words and the passphrase of
the wallet, the key of the wallet's interface and the secret key of the relay plugin. Everything a
service does can be seen through it: a service behind a veil does what the service does, among
collaborators who are behind the veil as well. There is one lemma for each function of a service,
and it says that the function and the veil commute.
-/

namespace PushWake

/-! ## What the veil hides -/

/-- Credentials without the texts. -/
def Credentials.veiled (c : Credentials) : Credentials := ⟨"", c.passphrase.map fun _ => ""⟩

/-- The parameters of a connection without the key. -/
def ConnectionConfig.veiled (c : ConnectionConfig) : ConnectionConfig :=
  { c with apiKey := c.apiKey.map fun _ => "" }

/-- The settings of the relay plugin without the key. -/
def NwcConfig.veiled (c : NwcConfig) : NwcConfig :=
  { c with secretKey := c.secretKey.map fun _ => "" }

/-- The settings of the plugins without the key. -/
def PluginConfigs.veiled (c : PluginConfigs) : PluginConfigs := ⟨c.nwc.map NwcConfig.veiled⟩

/-- A configuration without its keys. -/
def ServiceConfig.veiled (c : ServiceConfig) : ServiceConfig :=
  { c with connection := c.connection.veiled, plugins := c.plugins.veiled }

/-- What happened, without the secrets that were handed over. -/
def Occurrence.veiled : Occurrence → Occurrence
  | .openSession config credentials => .openSession config.veiled credentials.veiled
  | .createPlugin connection config => .createPlugin connection config.veiled
  | o => o

/-- An activity without the secrets it was called with. -/
def Activity.veiled : Activity → Activity
  | .connect config target stage => .connect config.veiled target stage
  | .startPlugin all connection configs stage => .startPlugin all connection configs.veiled stage
  | a => a

/-- Collaborators that look like others to those who see no secrets: what they answer, how long they
take and what they log is the same, and does not depend on the secrets. -/
structure LooksLike {W U : Type} (view : W → U) (env : Collaborators W)
    (picture : Collaborators U) :
    Prop where
  loadCredentials : ∀ w, picture.loadCredentials (view w) =
    ((env.loadCredentials w).1.map (Option.map Credentials.veiled), view (env.loadCredentials w).2)
  openSession : ∀ config credentials w,
    picture.openSession config.veiled credentials.veiled (view w) =
      Prod.map id view (env.openSession config credentials w)
  addListener : ∀ session w,
    picture.addListener session (view w) = Prod.map id view (env.addListener session w)
  removeListener : ∀ session listener w, picture.removeListener session listener (view w) =
    Prod.map id view (env.removeListener session listener w)
  closeSession : ∀ session w,
    picture.closeSession session (view w) = Prod.map id view (env.closeSession session w)
  sync : ∀ session w, picture.sync session (view w) = Prod.map id view (env.sync session w)
  receiveLimits : ∀ session w,
    picture.receiveLimits session (view w) = Prod.map id view (env.receiveLimits session w)
  receivePayment : ∀ session sat description w,
    picture.receivePayment session sat description (view w) =
      Prod.map id view (env.receivePayment session sat description w)
  reply : ∀ url body w, picture.reply url body (view w) = Prod.map id view (env.reply url body w)
  createPlugin : ∀ connection config w, picture.createPlugin connection config.veiled (view w) =
    Prod.map id view (env.createPlugin connection config w)
  stopPlugin : ∀ plugin w,
    picture.stopPlugin plugin (view w) = Prod.map id view (env.stopPlugin plugin w)
  pluginLines : ∀ plugin e w, picture.pluginLines plugin e (view w) = env.pluginLines plugin e w

/-- Configurations are checked without a look at the keys. -/
theorem ServiceConfig.validate_veiled (c : ServiceConfig) : c.veiled.validate = c.validate := by
  obtain ⟨timeouts, ⟨network, workingDir, apiKey⟩, ⟨nwc⟩, lnurl⟩ := c
  cases nwc <;> rfl

namespace Service

variable {W U : Type} {view : W → U} {s : Service W}

/-- A service behind the veil. -/
def veiled (view : W → U) (s : Service W) : Service U :=
  { s with
    config := s.config.veiled
    world := view s.world
    activities := s.activities.map (Prod.map id Activity.veiled)
    history := s.history.map (Prod.map id Occurrence.veiled) }

/-- A service behind the veil, and what else a function gives. -/
def veiledWith {α : Type} (view : W → U) (r : Service W × α) : Service U × α :=
  (r.1.veiled view, r.2)

@[simp] theorem veiledWith_mk {α : Type} (a : α) : veiledWith view (s, a) = (s.veiled view, a) :=
  rfl

@[simp] theorem now_veiled : (s.veiled view).now = s.now := rfl

/-! ## Traces, activities and locks -/

@[simp] theorem veiled_say (tag : String) (level : LogLevel) (message : String) :
    (s.say tag level message).veiled view = (s.veiled view).say tag level message := rfl

@[simp] theorem veiled_quote (lines : List LogLine) :
    (s.quote lines).veiled view = (s.veiled view).quote lines := rfl

@[simp] theorem veiled_wake (k : Nat) : (s.wake k).veiled view = (s.veiled view).wake k := rfl

/-- The veil goes over the record one occurrence at a time. -/
@[simp] theorem veiled_note (o : Occurrence) :
    (s.note o).veiled view = (s.veiled view).note o.veiled := by
  simp [veiled, note]

/-- Activities are numbered alike behind the veil. -/
@[simp] theorem veiled_begin (a : Activity) :
    (s.begin a).veiled view = (s.veiled view).begin a.veiled := by
  simp [veiled, begin]

@[simp] theorem veiled_spawn (a : Activity) :
    (s.spawn a).veiled view = (s.veiled view).spawn a.veiled := by
  simp [spawn]
  rfl

@[simp] theorem veiled_put (k : Nat) (a : Activity) :
    (s.put k a).veiled view = (s.veiled view).put k a.veiled := by
  have hactivities : (s.activities.map fun b => if b.1 == k then (k, a) else b).map
      (Prod.map id Activity.veiled) = (s.activities.map (Prod.map id Activity.veiled)).map
        fun b => if b.1 == k then (k, a.veiled) else b := by
    rw [List.map_map, List.map_map]
    refine List.map_congr_left fun b _ => ?_
    -- the entries of other activities are left alone, with or without the veil
    by_cases hb : b.1 = k
    · simp [hb]
    · simp [hb]
  simp only [veiled, put, hactivities]

/-- Who is there no more is not there behind the veil, since numbers are not hidden. -/
@[simp] theorem veiled_finish (k : Nat) :
    (s.finish k).veiled view = (s.veiled view).finish k := by
  have hactivities : (s.activities.filter fun b => b.1 != k).map (Prod.map id Activity.veiled) =
      (s.activities.map (Prod.map id Activity.veiled)).filter fun b => b.1 != k := by
    rw [List.filter_map]
    rfl
  simp only [veiled, finish, hactivities]

/-- An activity is found behind the veil where it is. -/
theorem activity?_veiled (k : Nat) :
    (s.veiled view).activity? k = (s.activity? k).map Activity.veiled := by
  simp only [activity?, veiled, List.find?_map, Option.map_map]
  rfl

/-- The veil does not hide what kind of activity something is. -/
theorem find?_veiled {p : Activity → Bool} (hp : ∀ a, p a.veiled = p a) :
    ((s.veiled view).activities.find? fun a => p a.2).map Prod.fst =
      (s.activities.find? fun a => p a.2).map Prod.fst := by
  have hpred : ((fun a : Nat × Activity => p a.2) ∘ Prod.map id Activity.veiled) = fun a => p a.2 :=
    funext fun a => hp a.2
  -- the search sees the activities through the veil, and stops at the same one
  simp only [veiled, List.find?_map, hpred, Option.map_map]
  rfl

@[simp] theorem veiled_wakeHolder (l : Lock) :
    (s.wakeHolder l).veiled view = (s.veiled view).wakeHolder l := by
  unfold wakeHolder
  cases l.holder <;> rfl

@[simp] theorem veiled_releaseSlot :
    s.releaseSlot.veiled view = (s.veiled view).releaseSlot := by
  simp only [releaseSlot, veiled_wakeHolder]
  rfl

@[simp] theorem veiled_releaseShelf :
    s.releaseShelf.veiled view = (s.veiled view).releaseShelf := by
  simp only [releaseShelf, veiled_wakeHolder]
  rfl

theorem veiled_wakeIfAny (k : Option Nat) :
    (k.elim s s.wake).veiled view = k.elim (s.veiled view) (s.veiled view).wake := by
  cases k <;> rfl

/-- The scheduler is woken if there is one, whoever else there is. -/
theorem wakeScheduler_eq_wakeIfAny : s.wakeScheduler =
    ((s.activities.find? fun a => isScheduler a.2).map Prod.fst).elim s s.wake := by
  unfold wakeScheduler
  cases s.activities.find? fun a => isScheduler a.2 <;> rfl

@[simp] theorem veiled_wakeScheduler :
    s.wakeScheduler.veiled view = (s.veiled view).wakeScheduler := by
  have hfind : ((s.veiled view).activities.find? fun a => isScheduler a.2).map Prod.fst = _ :=
    find?_veiled fun a => by cases a <;> rfl
  rw [wakeScheduler_eq_wakeIfAny, wakeScheduler_eq_wakeIfAny, veiled_wakeIfAny, hfind]

/-- Whether a command is read is no secret. -/
@[simp] theorem veiled_send (c : SchedulerCommand) :
    (s.send c).veiled view = (s.veiled view).send c := by
  unfold send
  cases hopen : s.inboxOpen with
  | true =>
    simp only [if_true, veiled_wakeScheduler, veiled_note,
      show (s.veiled view).inboxOpen = true from hopen]
    rfl
  | false =>
    simp [show (s.veiled view).inboxOpen = false from hopen]
    rfl

/-! ## Jobs -/

/-- The reaper that waits for a completer is woken if there is one. -/
theorem wakeReaper_eq_wakeIfAny (c : Nat) : s.wakeReaper c =
    ((s.activities.find? fun a => awaits c a.2).map Prod.fst).elim s s.wake := by
  unfold wakeReaper
  cases s.activities.find? fun a => awaits c a.2 <;> rfl

@[simp] theorem veiled_wakeReaper (c : Nat) :
    (s.wakeReaper c).veiled view = (s.veiled view).wakeReaper c := by
  have hfind : ((s.veiled view).activities.find? fun a => awaits c a.2).map Prod.fst = _ :=
    find?_veiled fun a => by cases a <;> rfl
  rw [wakeReaper_eq_wakeIfAny, wakeReaper_eq_wakeIfAny, veiled_wakeIfAny, hfind]

/-- A completer is used behind the veil if it is used. -/
@[simp] theorem veiled_complete (c : Nat) (o : JobOutcome) :
    (s.complete c o).veiled view = (s.veiled view).complete c o := by
  have hcompleters : (s.veiled view).completers = s.completers := rfl
  unfold complete
  rw [hcompleters]
  split
  · rw [veiled_wakeReaper, veiled_note]
    rfl
  · rfl

@[simp] theorem veiled_dropCompleter (c : Nat) :
    (s.dropCompleter c).veiled view = (s.veiled view).dropCompleter c := by
  have hcompleters : (s.veiled view).completers = s.completers := rfl
  unfold dropCompleter
  rw [hcompleters]
  split
  · rw [veiled_complete, veiled_say]
  · rfl

@[simp] theorem work?_veiled (id : Identity) : (s.veiled view).work? id = s.work? id := rfl

@[simp] theorem veiled_setWork (id : Identity) (work : JobWork) :
    (s.setWork id work).veiled view = (s.veiled view).setWork id work := rfl

@[simp] theorem veiled_settle (id : Identity) (c : Nat) (r : Resolution) :
    (s.settle id c r).veiled view = (s.veiled view).settle id c r := by
  rw [settle, veiled_complete, veiled_note]
  rfl

/-- What has become of a swap is shown to the user, and so it is no secret. -/
@[simp] theorem veiled_resolveSwap (id : Identity) (job : SwapJob) (r : Resolution) :
    (s.resolveSwap id job r).veiled view = (s.veiled view).resolveSwap id job r := by
  unfold resolveSwap
  by_cases hphase : job.phase = .pending none
  · simp only [hphase, if_true]
    cases (job.resolve r).2 <;> simp
  · simp only [hphase, if_false]
    cases (job.resolve r).2 <;> simp

@[simp] theorem veiled_sayResolution (id : Identity) (e : Event) :
    (s.sayResolution id e).veiled view = (s.veiled view).sayResolution id e := by
  cases e <;> rfl

/-- A job makes the same of an event: its work holds no secret. -/
@[simp] theorem veiled_showJob (e : Event) (id : Identity) :
    (s.showJob e id).veiled view = (s.veiled view).showJob e id := by
  have hnote : (s.note (.jobEvent id e)).veiled view = (s.veiled view).note (.jobEvent id e) :=
    veiled_note _
  have hwork : ((s.veiled view).note (.jobEvent id e)).work? id =
      (s.note (.jobEvent id e)).work? id := rfl
  unfold showJob
  -- the work is looked up after the event has been noted
  extract_lets noted noted'
  rw [show noted'.work? id = noted.work? id from hwork]
  split
  · split
    · rw [veiled_resolveSwap, veiled_sayResolution, hnote]
    · exact hnote
  · exact hnote

@[simp] theorem veiled_signalJob (id : Identity) :
    (s.signalJob id).veiled view = (s.veiled view).signalJob id := by
  have hnote : (s.note (.jobShutdown id)).veiled view = (s.veiled view).note (.jobShutdown id) :=
    veiled_note _
  have hwork : ((s.veiled view).note (.jobShutdown id)).work? id =
      (s.note (.jobShutdown id)).work? id := rfl
  unfold signalJob
  -- as in `veiled_showJob`, the work is looked up after the signal has been noted
  extract_lets noted noted'
  rw [show noted'.work? id = noted.work? id from hwork]
  split
  · rw [veiled_resolveSwap, hnote]
  · rw [veiled_say, hnote]
  · rw [veiled_say, hnote]
  · exact hnote

/-! ## The set of jobs -/

/-- What a change of the set tells the scheduler does not depend on secrets. -/
@[simp] theorem veiled_change (c : JobSet.Change) :
    (s.change c).veiled view = (s.veiled view).change c := by
  unfold change
  cases c.command with
  | none => rfl
  | some command =>
    rw [veiled_send]
    rfl

/-- A job is taken or turned away by whether the set is closed, which the veil does not hide. -/
@[simp] theorem veiled_addJob (id : Identity) (kind : JobKind) :
    veiledWith view (s.addJob id kind) = (s.veiled view).addJob id kind := by
  have hnew : (s.newCompleter id).1.veiled view = ((s.veiled view).newCompleter id).1 := rfl
  have hjobs : ((s.veiled view).newCompleter id).1.jobs = (s.newCompleter id).1.jobs := rfl
  unfold addJob
  simp only [hjobs]
  split
  · rw [veiledWith_mk, veiled_spawn, veiled_say, veiled_change, veiled_note, hnew]
    rfl
  · rw [veiledWith_mk, veiled_dropCompleter, veiled_say, hnew]
    rfl

@[simp] theorem veiled_markRunning (id : Identity) :
    veiledWith view (s.markRunning id) = (s.veiled view).markRunning id := by
  rw [markRunning, veiledWith_mk, veiled_change]
  rfl

@[simp] theorem veiled_sayOutcome (e : JobEntry) (o : JobOutcome) :
    (s.sayOutcome e o).veiled view = (s.veiled view).sayOutcome e o := by
  cases o <;> rfl

@[simp] theorem veiled_removeJob (id : Identity) (o : JobOutcome) :
    veiledWith view (s.removeJob id o) = (s.veiled view).removeJob id o := by
  have hjobs : (s.veiled view).jobs = s.jobs := rfl
  unfold removeJob
  rw [hjobs]
  split
  · rfl
  · rename_i e _
    have hsaid : ∀ {V : Type} (t : Service V), (t.sayOutcome e o).jobs = t.jobs := fun t => by
      cases o <;> rfl
    -- the outcome is only logged, so the set is still what it was
    simp only [veiledWith_mk, veiled_change, veiled_sayOutcome, veiled_note, hsaid]
    rfl

@[simp] theorem veiled_armIfEmpty : veiledWith view s.armIfEmpty = (s.veiled view).armIfEmpty := by
  rw [armIfEmpty, veiledWith_mk, veiled_change]
  rfl

@[simp] theorem veiled_closeIfEmpty :
    veiledWith view s.closeIfEmpty = (s.veiled view).closeIfEmpty := by
  rw [closeIfEmpty, veiledWith_mk, veiled_change]
  rfl

/-- What commutes with the veil for each of some things commutes with it for all. -/
theorem veiled_foldl {α : Type} {f : Service W → α → Service W} {g : Service U → α → Service U}
    (h : ∀ s a, (f s a).veiled view = g (s.veiled view) a) (as : List α) :
    (as.foldl f s).veiled view = as.foldl g (s.veiled view) := by
  induction as generalizing s with
  | nil => rfl
  | cons a as ih => rw [List.foldl_cons, List.foldl_cons, ih, h]

/-- The members are told in the same order. -/
@[simp] theorem veiled_signalJobs :
    veiledWith view s.signalJobs = (s.veiled view).signalJobs := by
  have hjobs : (s.veiled view).jobs = s.jobs := rfl
  have hchanged : ∀ c : JobSet.Change, ((s.veiled view).change c).jobs = (s.change c).jobs := by
    intro c
    rw [← veiled_change]
    rfl
  unfold signalJobs
  -- whether the set closes now, and who is told, is decided by the set, which is not veiled
  simp only [hjobs]
  split
  · simp only [hchanged]
    split
    · rw [veiledWith_mk, veiled_foldl fun s id => veiled_signalJob id, veiled_change, hchanged]
    · rw [veiledWith_mk, veiled_foldl fun s id => veiled_signalJob id, veiled_say, veiled_change]
      simp only [say, hchanged]
  · rfl

/-- What has begun to wait waits behind the veil. -/
theorem veiled_waits {α σ β : Type} {r : Service W × α} {r' : Service U × α}
    (hr : veiledWith view r = r') (stage : α → σ) :
    veiledWith view (r.1, (.waits (stage r.2) : Progress σ β)) = (r'.1, .waits (stage r'.2)) := by
  rw [← hr]
  rfl

/-! ## Events -/

@[simp] theorem veiled_fanOut (e : Event) : (s.fanOut e).veiled view = (s.veiled view).fanOut e :=
  veiled_foldl (fun _ id => veiled_showJob e id) _

section
variable {env : Collaborators W} {picture : Collaborators U} (h : LooksLike view env picture)
include h

theorem veiled_showTarget (e : Event) (target : ListenerTarget) :
    (s.showTarget env e target).veiled view = (s.veiled view).showTarget picture e target := by
  cases target with
  | jobs => exact veiled_fanOut e
  | plugin p =>
    have hlines : picture.pluginLines p e (s.veiled view).world = env.pluginLines p e s.world :=
      h.pluginLines p e s.world
    simp only [showTarget, hlines, veiled_note, veiled_quote]
    rfl
  | host name => exact veiled_note _

/-- A session has the same listeners behind the veil, and they are told in the same order. -/
theorem veiled_emit (session : Nat) (e : Event) :
    (s.emit env session e).veiled view = (s.veiled view).emit picture session e :=
  veiled_foldl (fun _ l => veiled_showTarget h e l.target) _

theorem veiled_settleLater (session : Nat) (steps : List (LogLine × Event)) :
    (settleLater env session s steps).veiled view =
      settleLater picture session (s.veiled view) steps := by
  refine veiled_foldl (fun t step => ?_) steps
  rw [veiled_emit h, veiled_quote]

/-- A session takes a listener behind the veil if it takes it, under the same number. -/
theorem veiled_addListener (session : Nat) (target : ListenerTarget) :
    veiledWith view (s.addListener env session target) =
      (s.veiled view).addListener picture session target := by
  have hworld : (s.veiled view).world = view s.world := rfl
  simp only [addListener, note, hworld, h.addListener]
  generalize env.addListener session s.world = asked
  obtain ⟨result, world⟩ := asked
  cases result with
  | error e => simp [veiled, Occurrence.veiled]
  | ok => simp [veiled, Occurrence.veiled]

theorem veiled_removeListener (session listener : Nat) :
    veiledWith view (s.removeListener env session listener) =
      (s.veiled view).removeListener picture session listener := by
  have hworld : (s.veiled view).world = view s.world := rfl
  simp only [removeListener, note, hworld, h.removeListener]
  generalize env.removeListener session listener s.world = asked
  obtain ⟨result, world⟩ := asked
  cases result with
  | error e => simp [veiled, Occurrence.veiled]
  | ok => simp [veiled, Occurrence.veiled]

/-! ## Bodies -/

/-- A sync shows the same events and leaves the same settlements. -/
theorem veiled_askSync (session : Nat) :
    veiledWith view (s.askSync env session) = (s.veiled view).askSync picture session := by
  have hasked : picture.sync session (s.veiled view).world =
      Prod.map id view (env.sync session s.world) := h.sync session s.world
  have hspawned : ∀ (later : List Settlement) (t : Service W),
      (later.foldl (fun t (l : Settlement) =>
        t.spawn (.settlement session (t.now + l.delay) l.steps)) t).veiled view =
      later.foldl (fun t (l : Settlement) =>
        t.spawn (.settlement session (t.now + l.delay) l.steps)) (t.veiled view) :=
    fun later t => veiled_foldl (fun _ _ => veiled_spawn _) later
  have hemitted : ∀ (events : List Event) (t : Service W),
      (events.foldl (emit env session) t).veiled view =
        events.foldl (emit picture session) (t.veiled view) :=
    fun events t => veiled_foldl (fun _ e => veiled_emit h session e) events
  -- with what is shown at once and later in hand, only the answer itself is left
  unfold askSync
  rw [hasked]
  cases env.sync session s.world with
  | mk reply world =>
    simp only [Prod.map_apply, id_eq, veiledWith_mk, hspawned, hemitted]
    rfl

theorem veiled_beginSync (id : Identity) (session : Nat) :
    veiledWith view (s.beginSync env id session) =
      (s.veiled view).beginSync picture id session := by
  have hsync := veiled_askSync h (s := s.note (.sync session id)) session
  rw [veiled_note] at hsync
  exact veiled_waits hsync BodyStage.syncing

theorem veiled_beginLimits (job : Identity) (session : Nat) :
    veiledWith view (s.beginLimits env job session) =
      (s.veiled view).beginLimits picture job session := by
  simp [beginLimits, veiled, note, ask, quote, Occurrence.veiled, h.receiveLimits]

/-- The description on an invoice comes from the configuration, from a part that is no secret. -/
theorem veiled_beginInvoice (job : Identity) (session : Nat) (sat : UInt64) :
    veiledWith view (s.beginInvoice env job session sat) =
      (s.veiled view).beginInvoice picture job session sat := by
  simp [beginInvoice, veiled, note, ask, quote, Occurrence.veiled, ServiceConfig.veiled,
    h.receivePayment]

theorem veiled_beginReply (job : Identity) (url : String) (body : Json) :
    veiledWith view (s.beginReply env job url body) =
      (s.veiled view).beginReply picture job url body := by
  simp [beginReply, veiled, note, ask, quote, Occurrence.veiled, h.reply]

theorem veiled_beginApology (job : Identity) (url : String) (error : JobError) :
    veiledWith view (s.beginApology env job url error) =
      (s.veiled view).beginApology picture job url error := by
  simp [beginApology, veiled, note, ask, quote, Occurrence.veiled, h.reply]

end

theorem veiled_endReplied (id : Identity) (c : Nat) (name : String) :
    veiledWith view (s.endReplied id c name) = (s.veiled view).endReplied id c name := by
  rw [endReplied, veiledWith_mk, veiled_complete, veiled_say]
  rfl

theorem veiled_endFailed (id : Identity) (c : Nat) (title : String) (error : JobError) :
    veiledWith view (s.endFailed id c title error) =
      (s.veiled view).endFailed id c title error := by
  rw [endFailed, veiledWith_mk, veiled_complete, veiled_note]
  rfl

theorem veiled_afterSync (id : Identity) (result : Except SdkError Unit) :
    veiledWith view (s.afterSync id result) = (s.veiled view).afterSync id result := by
  cases result with
  | ok => rfl
  | error e =>
    have hwork : ∀ message, ((s.veiled view).say "swap" .warn message).work? id =
        (s.say "swap" .warn message).work? id := fun _ => rfl
    simp only [afterSync, hwork]
    split
    · rw [veiledWith_mk, veiled_resolveSwap, veiled_say]
    · rw [veiledWith_mk, veiled_say]

/-- A body that owes a reply ends as its reply was received. -/
theorem veiled_afterReply (id : Identity) (c : Nat) (work : JobWork) (result : Except String Unit) :
    veiledWith view (s.afterReply id c work result) =
      (s.veiled view).afterReply id c work result := by
  cases work with
  | swap job => rfl
  | payInfo | payInvoice =>
    cases result with
    | ok => exact veiled_endReplied _ _ _
    | error => exact veiled_endFailed _ _ _ _

theorem veiled_afterApology (id : Identity) (c : Nat) (error : JobError) (work : JobWork)
    (result : Except String Unit) : veiledWith view (s.afterApology id c error work result) =
      (s.veiled view).afterApology id c error work result := by
  cases work with
  | swap job => rfl
  | payInfo | payInvoice =>
    cases result with
    | ok => exact veiled_endFailed _ _ _ _
    | error => exact veiled_endFailed _ _ _ _

/-- What goes on when its call is answered goes on behind the veil, and in the same way. -/
theorem veiled_answered {α β : Type} {call : Pending α} {f : α → Service W × β}
    {g : α → Service U × β} (hfg : ∀ a, veiledWith view (f a) = g a) :
    ((call.result? s.now).map f).map (veiledWith view) =
      (call.result? (s.veiled view).now).map g := by
  rw [now_veiled, Option.map_map]
  exact congrArg (Option.map · _) (funext hfg)

/-- So does what goes on for a job whose work is known. -/
theorem veiled_workAnswered {α β : Type} {call : Pending α} {id : Identity}
    {f : JobWork → α → Service W × β} {g : JobWork → α → Service U × β}
    (hfg : ∀ work a, veiledWith view (f work a) = g work a) :
    ((call.result? s.now).bind fun a => (s.work? id).bind fun work => some (f work a)).map
        (veiledWith view) =
      (call.result? (s.veiled view).now).bind fun a => ((s.veiled view).work? id).bind fun work =>
        some (g work a) := by
  rw [now_veiled, work?_veiled]
  cases call.result? s.now with
  | none => rfl
  | some a =>
    cases s.work? id with
    | none => rfl
    | some work => exact congrArg some (hfg work a)

section
variable {env : Collaborators W} {picture : Collaborators U} (h : LooksLike view env picture)
include h

/-- A swap job begins to wait, is resolved or has begun before, by its phase alone. -/
theorem veiled_beginSwap (id : Identity) (c session : Nat) (job : SwapJob) :
    veiledWith view (s.beginSwap env id c session job) =
      (s.veiled view).beginSwap picture id c session job := by
  simp only [beginSwap]
  split
  · rw [veiled_beginSync h, veiled_setWork, veiled_say]
  · rw [veiledWith_mk, veiled_settle, veiled_setWork, veiled_say]
  · rw [veiledWith_mk, veiled_dropCompleter, veiled_say, veiled_say]

theorem veiled_beginBody (id : Identity) (c session : Nat) :
    veiledWith view (s.beginBody env id c session) =
      (s.veiled view).beginBody picture id c session := by
  have hwork : (s.veiled view).work? id = s.work? id := rfl
  simp only [beginBody, hwork]
  split
  · exact veiled_beginSwap h _ _ _ _
  · exact veiled_beginLimits h _ _
  · exact veiled_beginLimits h _ _
  · rw [veiledWith_mk, veiled_dropCompleter]

/-- Whether an amount is within the limits is no secret. -/
theorem veiled_afterLimits (id : Identity) (session : Nat) (work : JobWork)
    (limits : Except SdkError ReceiveLimits) :
    veiledWith view (s.afterLimits env id session work limits) =
      (s.veiled view).afterLimits picture id session work limits := by
  cases work with
  | swap job => rfl
  | payInfo r =>
    cases limits with
    | ok limits => exact veiled_beginReply h _ _ _
    | error e => exact veiled_beginApology h _ _ _
  | payInvoice r =>
    cases limits with
    | ok limits =>
      simp only [afterLimits]
      -- the amount is compared with limits that both have been given
      cases Lnurl.accept limits r.amount with
      | ok sat => exact veiled_beginInvoice h _ _ _
      | error e => exact veiled_beginApology h _ _ _
    | error e => exact veiled_beginApology h _ _ _

theorem veiled_afterInvoice (id : Identity) (work : JobWork) (invoice : Except SdkError Invoice) :
    veiledWith view (s.afterInvoice env id work invoice) =
      (s.veiled view).afterInvoice picture id work invoice := by
  cases work with
  | swap | payInfo => rfl
  | payInvoice r =>
    cases invoice with
    | ok invoice => exact veiled_beginReply h _ _ _
    | error e => exact veiled_beginApology h _ _ _

/-- A body goes on behind the veil if it can go on, and comes as far. -/
theorem veiled_resumeBody (id : Identity) (c session : Nat) (stage : BodyStage) :
    (s.resumeBody env id c session stage).map (veiledWith view) =
      (s.veiled view).resumeBody picture id c session stage := by
  cases stage with
  | fresh => exact congrArg some (veiled_beginBody h _ _ _)
  | syncing call => exact veiled_answered fun result => veiled_afterSync id result
  | askingLimits call =>
    exact veiled_workAnswered fun work limits => veiled_afterLimits h id session work limits
  | invoicing call =>
    exact veiled_workAnswered fun work invoice => veiled_afterInvoice h id work invoice
  | replying call =>
    exact veiled_workAnswered fun work result => veiled_afterReply id c work result
  | apologizing error call =>
    exact veiled_workAnswered fun work result => veiled_afterApology id c error work result

end

end Service

end PushWake
