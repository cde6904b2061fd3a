import PushWake.Service.State
/-!
# Jobs in a service

Completers, the jobs' reactions to events and to the end of the service, and the operations on the
set with the lines they log. Each of them happens in one piece: no activity gets a turn in between.
-/

namespace PushWake.Service

variable {W : Type}

/-! ## Completers -/

/-- Makes a completer for a job. -/
def newCompleter (s : Service W) (job : Identity) : Service W × Nat :=
  ({ s with completers := s.completers ++ [⟨job, none⟩] }, s.completers.length)

/-- Whether an activity waits for a completer. -/
def awaits (completer : Nat) : Activity → Bool
  | .reaper _ c => c == completer
  | _ => false

/-- Wakes the activity that waits for a completer. -/
def wakeReaper (s : Service W) (completer : Nat) : Service W :=
  match s.activities.find? fun a => awaits completer a.2 with
  | some (k, _) => s.wake k
  | none => s

/-- Uses a completer. Only the first use counts. -/
def complete (s : Service W) (completer : Nat) (outcome : JobOutcome) : Service W :=
  match s.completers[completer]? with
  | some ⟨job, none⟩ =>
    wakeReaper ({ s with completers := s.completers.set completer ⟨job, some outcome⟩ }.note
      (.jobCompleted job completer outcome)) completer
  | _ => s

/-- Lets a completer go. If it has not been used, the job has failed. -/
def dropCompleter (s : Service W) (completer : Nat) : Service W :=
  match s.completers[completer]? with
  | some ⟨job, none⟩ =>
    complete (s.say "job" .debug
      ("Job " ++ job.text ++ " dropped its completer without completing")) completer .dropped
  | _ => s

/-! ## Work -/

/-- What a job has to do. -/
def work? (s : Service W) (id : Identity) : Option JobWork :=
  (s.works.find? fun w => w.1 == id).map Prod.snd

/-- Changes what a job has to do. -/
def setWork (s : Service W) (id : Identity) (work : JobWork) : Service W :=
  { s with works := s.works.map fun w => if w.1 == id then (id, work) else w }

/-- Shows a resolution to the user and uses the completer. -/
def settle (s : Service W) (id : Identity) (completer : Nat) (r : Resolution) : Service W :=
  (s.note (.notify id r.notification)).complete completer r.outcome

/-- Resolves a swap job, if it is not resolved yet. -/
def resolveSwap (s : Service W) (id : Identity) (job : SwapJob) (r : Resolution) : Service W :=
  let s :=
    if job.phase = .pending none then
      s.say "swap" .debug ("Swap job " ++ id.text ++ " resolved before start")
    else s
  let (job, completer) := job.resolve r
  let s := s.setWork id (.swap job)
  match completer with
  | some completer => s.settle id completer r
  | none => s

/-- Logs what an event means to a swap job. -/
def sayResolution (s : Service W) (id : Identity) : Event → Service W
  | .synced => s
  | .waitingConfirmation _ => s.say "swap" .info ("Swap job " ++ id.text ++ " waiting confirmation")
  | .succeeded _ _ => s.say "swap" .info ("Swap job " ++ id.text ++ " succeeded")
  | .failed _ reason => s.say "swap" .warn ("Swap job " ++ id.text ++ " failed: " ++ reason)

/-- Shows a job an event. -/
def showJob (e : Event) (s : Service W) (id : Identity) : Service W :=
  let s := s.note (.jobEvent id e)
  match s.work? id with
  | some (.swap job) =>
    match job.resolution? e with
    | some r => (s.sayResolution id e).resolveSwap id job r
    | none => s
  | _ => s

/-- Tells a job that the service ends. -/
def signalJob (s : Service W) (id : Identity) : Service W :=
  let s := s.note (.jobShutdown id)
  match s.work? id with
  | some (.swap job) => s.resolveSwap id job .cancelled
  | some (.payInfo _) =>
    s.say "lnurl" .debug ("Pay info job " ++ id.text ++ " asked to shut down")
  | some (.payInvoice _) =>
    s.say "lnurl" .debug ("Invoice job " ++ id.text ++ " asked to shut down")
  | none => s

/-! ## The set -/

/-- A job as it is called in the log. -/
def jobText (id : Identity) (kind : JobKind) : String :=
  "Job " ++ id.text ++ " (" ++ kind.name ++ ")"

/-- Puts a change of the set into effect. -/
def change (s : Service W) (c : JobSet.Change) : Service W :=
  let s := { s with jobs := c.set }
  match c.command with
  | some command => s.send command
  | none => s

/-- Registers a job. Gives its completer, unless the set is closed. -/
def addJob (s : Service W) (id : Identity) (kind : JobKind) : Service W × Option Nat :=
  let (s, completer) := s.newCompleter id
  let c := s.jobs.add id kind
  if c.done then
    let s := (s.note (.jobAdded id kind)).change c
    let s := s.say "registry" .debug (jobText id kind ++ " registered, " ++
      toString c.set.entries.length ++ " active")
    (s.spawn (.reaper id completer), some completer)
  else
    let s := s.say "registry" .debug (jobText id kind ++ " refused, shutting down")
    (s.dropCompleter completer, none)

/-- Notes that the body of a job has begun. -/
def markRunning (s : Service W) (id : Identity) : Service W × Bool :=
  let c := s.jobs.markRunning id
  (s.change c, c.done)

/-- Logs what became of a job. -/
def sayOutcome (s : Service W) (e : JobEntry) : JobOutcome → Service W
  | .completed => s.say "registry" .info (jobText e.id e.kind ++ " completed")
  | .failed reason => s.say "registry" .warn (jobText e.id e.kind ++ " failed: " ++ reason)

/-- Takes a job out of the set. -/
def removeJob (s : Service W) (id : Identity) (outcome : JobOutcome) : Service W × Bool :=
  match s.jobs.find? id with
  | none => (s.say "registry" .debug ("Job " ++ id.text ++ " already removed"), false)
  | some e =>
    let s := (s.note (.jobRemoved id outcome)).sayOutcome e outcome
    (s.change (s.jobs.remove id), true)

/-- Starts the delay if there is no job. -/
def armIfEmpty (s : Service W) : Service W × Bool :=
  let c := s.jobs.armIfEmpty
  (s.change c, c.done)

/-- Closes the set if it is empty. -/
def closeIfEmpty (s : Service W) : Service W × Bool :=
  let c := s.jobs.closeIfEmpty
  (s.change c, c.done)

/-- Closes the set and tells its members that the service ends. Only the first time
does anything. -/
def signalJobs (s : Service W) : Service W × Bool :=
  let c := s.jobs.close
  if c.done then
    let s := s.change c
    let s :=
      if s.jobs.entries.isEmpty then s
      else s.say "registry" .info ("Signalling shutdown to " ++ toString s.jobs.entries.length ++
        " job(s)")
    (s.jobs.ids.foldl signalJob s, true)
  else (s, false)

/-- Shows an event to all jobs of the set. -/
def broadcast (s : Service W) (e : Event) : Service W :=
  let s := s.say "registry" .trace ("Dispatching " ++ e.debug ++ " to " ++
    toString s.jobs.entries.length ++ " job(s)")
  s.jobs.ids.foldl (showJob e) s

/-! ## Events of a session -/

/-- Counts an event and shows it to the jobs. -/
def fanOut (s : Service W) (e : Event) : Service W :=
  let s := { s with dispatched := s.dispatched + 1 }
  let s := s.say "fanout" .trace ("Connection event #" ++ toString s.dispatched ++ ": " ++ e.debug)
  s.broadcast e

/-- Shows an event to whoever listens. -/
def showTarget (env : Collaborators W) (e : Event) (s : Service W) : ListenerTarget → Service W
  | .jobs => s.fanOut e
  | .plugin p => (s.quote (env.pluginLines p e s.world)).note (.pluginEvent p e)
  | .host name => s.note (.listenerEvent name e)

/-- The listeners of a session, in the order of their registration. -/
def listenersOf (s : Service W) (session : Nat) : List Listener :=
  s.listeners.filter fun l => l.session == session

/-- A session reports an event to its listeners. -/
def emit (env : Collaborators W) (session : Nat) (s : Service W) (e : Event) : Service W :=
  (s.listenersOf session).foldl (fun s l => s.showTarget env e l.target) s

/-- The session that was opened last. -/
def newestSession? (s : Service W) : Option Nat :=
  match s.hub.opened with
  | 0 => none
  | n + 1 => some n

/-- Offers a listener to a session. -/
def addListener (env : Collaborators W) (s : Service W) (session : Nat) (target : ListenerTarget) :
    Service W × Except SdkError Nat :=
  let s := s.note (.addListener session)
  match env.addListener session s.world with
  | (.error e, world) => ({ s with world }, .error e)
  | (.ok (), world) =>
    let number := s.listenersAdded
    let listener : Listener := ⟨session, number, target⟩
    let s := { s with world, listenersAdded := number + 1, listeners := s.listeners ++ [listener] }
    (s.note (.listenerAdded session number), .ok number)

/-- Removes a listener from a session; if the session refuses, it stays. -/
def removeListener (env : Collaborators W) (s : Service W) (session listener : Nat) :
    Service W × Except SdkError Unit :=
  let s := s.note (.removeListener session listener)
  match env.removeListener session listener s.world with
  | (.error e, world) => ({ s with world }, .error e)
  | (.ok (), world) =>
    ({ s with world, listeners := s.listeners.filter fun l =>
        !(l.session == session && l.number == listener) }, .ok ())

end PushWake.Service
