import Mathlib.Data.List.Forall2
import PushWake.Collaborators.Plan
import PushWake.Proofs.Runs
import PushWake.Proofs.VeiledRuns
import PushWake.Settings.Keys

/-!
# Secrets change nothing that can be seen

Two runs of the same cues, among collaborators that look the same, look the same if nothing but the
texts of secrets is different in their configurations and in their stores. Both are the same run
behind the veil, and what a veil leaves of a service is all that anybody sees of it.
-/

namespace PushWake

/-! ## What looks the same -/

namespace Occurrence

/-- Whether secrets are handed over. -/
def handsOver : Occurrence → Bool
  | .openSession .. => true
  | .createPlugin .. => true
  | _ => false

/-- Occurrences that differ in nothing but the secrets that are handed over. -/
inductive Alike : Occurrence → Occurrence → Prop where
  | same (o : Occurrence) : Alike o o
  | openSession {config config' : ConnectionConfig} {credentials credentials' : Credentials} :
      config.veiled = config'.veiled → credentials.veiled = credentials'.veiled →
      Alike (.openSession config credentials) (.openSession config' credentials')
  | createPlugin (connection : Connection) {config config' : NwcConfig} :
      config.veiled = config'.veiled →
      Alike (.createPlugin connection config) (.createPlugin connection config')

variable {o o' : Occurrence}

theorem veiled_of_not_handsOver (ho : o.handsOver = false) : o.veiled = o := by
  cases o <;> first | rfl | cases ho

theorem handsOver_veiled (o : Occurrence) : o.veiled.handsOver = o.handsOver := by
  cases o <;> rfl

theorem alike_of_veiled_eq (h : o.veiled = o'.veiled) : o.Alike o' := by
  have hboth : o.handsOver = o'.handsOver := by
    rw [← handsOver_veiled, h, handsOver_veiled]
  -- the veil changes only occurrences that hand secrets over, and keeps their kind
  cases ho : o.handsOver with
  | false =>
    rw [veiled_of_not_handsOver ho, veiled_of_not_handsOver (hboth ▸ ho)] at h
    rw [h]
    exact .same o'
  | true =>
    cases o with
    | openSession config credentials =>
      cases o' with
      | openSession config' credentials' =>
        obtain ⟨hconfig, hcredentials⟩ := Occurrence.openSession.inj h
        exact .openSession hconfig hcredentials
      | _ => cases h
    | createPlugin connection config =>
      cases o' with
      | createPlugin connection' config' =>
        obtain ⟨rfl, hconfig⟩ := Occurrence.createPlugin.inj h
        exact .createPlugin connection hconfig
      | _ => cases h
    | _ => cases ho

end Occurrence

namespace Service

variable {W V U : Type}

/-- Services that look the same: all that can be seen of them is equal, and what they asked of
others is equal but for the secrets that they handed over. -/
structure LooksSame (s : Service W) (t : Service V) : Prop where
  config : s.config.veiled = t.config.veiled
  makesPlugins : s.makesPlugins = t.makesPlugins
  now : s.now = t.now
  drawn : s.drawn = t.drawn
  hub : s.hub = t.hub
  listeners : s.listeners = t.listeners
  listenersAdded : s.listenersAdded = t.listenersAdded
  shelf : s.shelf = t.shelf
  jobs : s.jobs = t.jobs
  works : s.works = t.works
  completers : s.completers = t.completers
  commands : s.commands = t.commands
  inboxOpen : s.inboxOpen = t.inboxOpen
  scheduler : s.scheduler = t.scheduler
  dispatched : s.dispatched = t.dispatched
  ending : s.ending = t.ending
  terminated : s.terminated = t.terminated
  released : s.released = t.released
  begun : s.begun = t.begun
  wakes : s.wakes = t.wakes
  underWay : s.activities.map (Prod.map id Activity.veiled) =
    t.activities.map (Prod.map id Activity.veiled)
  log : s.log = t.log
  answers : ∀ k, s.answer? k = t.answer? k
  history : List.Forall₂ (fun o o' => o.1 = o'.1 ∧ o.2.Alike o'.2) s.history t.history
  plain : (s.history.filter fun o => !o.2.handsOver) = t.history.filter fun o => !o.2.handsOver

variable {s : Service W} {t : Service V} {view : W → U} {view' : V → U}

theorem answer?_veiled (view : W → U) (k : Nat) : (s.veiled view).answer? k = s.answer? k := by
  have hhistory : (s.veiled view).history = s.history.map (Prod.map id Occurrence.veiled) := rfl
  rw [answer?, hhistory, List.findSome?_map, answer?]
  refine congrArg (List.findSome? · s.history) (funext fun o => ?_)
  obtain ⟨t, o⟩ := o
  cases o <;> rfl

theorem plain_veiled (view : W → U) : (s.veiled view).history.filter (fun o => !o.2.handsOver) =
    s.history.filter fun o => !o.2.handsOver := by
  have hhistory : (s.veiled view).history = s.history.map (Prod.map id Occurrence.veiled) := rfl
  have hplain : ((fun o : Nat × Occurrence => !o.2.handsOver) ∘ Prod.map id Occurrence.veiled) =
      fun o => !o.2.handsOver :=
    funext fun o => congrArg not (Occurrence.handsOver_veiled o.2)
  have hsame : ∀ o ∈ s.history.filter (fun o => !o.2.handsOver),
      Prod.map id Occurrence.veiled o = o := by
    intro o ho
    have hkept : o.2.handsOver = false := by simpa using (List.mem_filter.mp ho).2
    exact Prod.ext rfl (Occurrence.veiled_of_not_handsOver hkept)
  rw [hhistory, List.filter_map, hplain]
  exact (List.map_congr_left hsame).trans (List.map_id _)

/-- Services that are the same behind the veil look the same. -/
theorem looksSame_of_veiled_eq (h : s.veiled view = t.veiled view') : s.LooksSame t where
  config := congrArg Service.config h
  makesPlugins := congrArg Service.makesPlugins h
  now := congrArg Service.now h
  drawn := congrArg Service.drawn h
  hub := congrArg Service.hub h
  listeners := congrArg Service.listeners h
  listenersAdded := congrArg Service.listenersAdded h
  shelf := congrArg Service.shelf h
  jobs := congrArg Service.jobs h
  works := congrArg Service.works h
  completers := congrArg Service.completers h
  commands := congrArg Service.commands h
  inboxOpen := congrArg Service.inboxOpen h
  scheduler := congrArg Service.scheduler h
  dispatched := congrArg Service.dispatched h
  ending := congrArg Service.ending h
  terminated := congrArg Service.terminated h
  released := congrArg Service.released h
  begun := congrArg Service.begun h
  wakes := congrArg Service.wakes h
  underWay := congrArg Service.activities h
  log := congrArg Service.log h
  answers k := by rw [← answer?_veiled view, h, answer?_veiled]
  history := by
    have hmapped : s.history.map (Prod.map id Occurrence.veiled) =
        t.history.map (Prod.map id Occurrence.veiled) := congrArg Service.history h
    rw [← List.forall₂_eq_eq_eq, List.forall₂_map_left_iff, List.forall₂_map_right_iff] at hmapped
    refine hmapped.imp fun o o' ho => ?_
    have htime := congrArg Prod.fst ho
    have hoccurrence := congrArg Prod.snd ho
    exact ⟨htime, Occurrence.alike_of_veiled_eq hoccurrence⟩
  plain := by rw [← plain_veiled view, h, plain_veiled]

end Service

namespace Runner

variable {W V U : Type} {r : Runner W} {r' : Runner V} {view : W → U} {view' : V → U}
  {env : Collaborators W} {env' : Collaborators V} {picture : Collaborators U}

/-- Runners that look the same. -/
structure LooksSame (r : Runner W) (r' : Runner V) : Prop where
  service : r.service.LooksSame r'.service
  line : r.line = r'.line

theorem looksSame_of_veiled_eq (h : r.veiled view = r'.veiled view') : r.LooksSame r' where
  service := Service.looksSame_of_veiled_eq (congrArg Runner.service h)
  line := congrArg Runner.line h

/-- Runs among collaborators that look the same can both be gone through, or neither, and
look the same. -/
theorem play_looks_same (h : LooksLike view env picture) (h' : LooksLike view' env' picture)
    {cs cs' : List Cue} (hcs : cs.map Cue.veiled = cs'.map Cue.veiled)
    (hr : r.veiled view = r'.veiled view') :
    Option.Rel LooksSame (play env cs r) (play env' cs' r') := by
  have hplayed : (play env cs r).map (veiled view) = (play env' cs' r').map (veiled view') := by
    rw [veiled_play h, veiled_play h', hcs, hr]
  cases hp : play env cs r with
  | none =>
    rw [hp] at hplayed
    rw [Option.map_eq_none_iff.mp hplayed.symm]
    exact .none
  | some q =>
    rw [hp] at hplayed
    obtain ⟨q', hq', hsame⟩ := Option.map_eq_some_iff.mp hplayed.symm
    rw [hq']
    exact .some (looksSame_of_veiled_eq hsame.symm)

end Runner

/-! ## Starts -/

theorem Service.start_error_veiled {W U : Type} (view : W → U) {config : ServiceConfig}
    {makesPlugins : Bool} {world : W} {e : ServiceError} :
    start config.veiled makesPlugins (view world) = .error e ↔
      start config makesPlugins world = .error e := by
  rw [← veiled_start]
  cases start config makesPlugins world with
  | error e' => simp [Except.map]
  | ok s => simp [Except.map]

/-! ## Credentials and settings -/

/-- What is shown of credentials is behind the veil. -/
theorem Credentials.debug_veiled (c : Credentials) : c.veiled.debug = c.debug := by
  obtain ⟨words, passphrase⟩ := c
  cases passphrase <;> rfl

namespace Settings

/-- Settings without the words of the wallet and without the key of the relay plugin. -/
def veiled (s : Settings) : Settings :=
  { s with
    mnemonic := s.mnemonic.map fun _ => ""
    service := { s.service with plugins := s.service.plugins.veiled } }

/-- What is shown for a setting does not depend on these secrets. -/
theorem shown_veiled (s : Settings) (key : SettingKey) : s.veiled.shown key = s.shown key := by
  obtain ⟨⟨timeouts, connection, ⟨nwc⟩, lnurl⟩, mnemonic, simulator⟩ := s
  cases key with
  | nwcRelays => cases nwc <;> rfl
  | mnemonic => cases mnemonic <;> rfl
  | serviceTimeoutMs | emptyDelayMs | network | workingDir | apiKey | lnurlDescription
  | settleDelayMs | settleSwaps | settleAmountSat => rfl

theorem get?_veiled (s : Settings) (key : String) : s.veiled.get? key = s.get? key :=
  congrArg (Option.bind (SettingKey.ofName? key)) (funext s.shown_veiled)

theorem list_veiled (s : Settings) : s.veiled.list = s.list :=
  congrArg (List.map · SettingKey.all)
    (funext fun key => congrArg (fun value => (key.name, value.getD "(unset)"))
      (s.shown_veiled key))

end Settings

/-! ## Secrets -/

/-- Nothing that can be seen depends on a secret. Runs of the same cues, among collaborators that
look the same, can both be gone through or neither, and look the same after every cue: on a service
that is started, and on one whose session and plugins are used on their own. What is shown of
credentials does not depend on their texts, and what is shown of settings does not depend on the
words of the wallet and on the key of the relay plugin. -/
theorem secrets_change_nothing_visible {W V U : Type} {env₁ : Collaborators W}
    {env₂ : Collaborators V} {picture : Collaborators U} {view₁ : W → U} {view₂ : V → U}
    (h₁ : LooksLike view₁ env₁ picture) (h₂ : LooksLike view₂ env₂ picture) {world₁ : W}
    {world₂ : V} (hworld : view₁ world₁ = view₂ world₂) {config₁ config₂ : ServiceConfig}
    (hconfig : config₁.veiled = config₂.veiled) (makesPlugins : Bool) {cs₁ cs₂ : List Runner.Cue}
    (hcs : cs₁.map Runner.Cue.veiled = cs₂.map Runner.Cue.veiled) :
    (∀ e, Service.start config₁ makesPlugins world₁ = .error e ↔
      Service.start config₂ makesPlugins world₂ = .error e) ∧
    (∀ s t, Service.start config₁ makesPlugins world₁ = .ok s →
      Service.start config₂ makesPlugins world₂ = .ok t →
      ∀ n, Option.Rel Runner.LooksSame (Runner.play env₁ (cs₁.take n) (.ofService s))
        (Runner.play env₂ (cs₂.take n) (.ofService t))) ∧
    (∀ n, Option.Rel Runner.LooksSame
      (Runner.play env₁ (cs₁.take n) (.ofService (.bare config₁ makesPlugins world₁)))
      (Runner.play env₂ (cs₂.take n) (.ofService (.bare config₂ makesPlugins world₂)))) ∧
    (∀ credentials₁ credentials₂ : Credentials, credentials₁.veiled = credentials₂.veiled →
      credentials₁.debug = credentials₂.debug) ∧
    ∀ settings₁ settings₂ : Settings, settings₁.veiled = settings₂.veiled →
      (∀ key, settings₁.get? key = settings₂.get? key) ∧ settings₁.list = settings₂.list := by
  -- veiled, the two services are one
  have hstarted : (Service.start config₁ makesPlugins world₁).map (Service.veiled view₁) =
      (Service.start config₂ makesPlugins world₂).map (Service.veiled view₂) := by
    rw [Service.veiled_start, Service.veiled_start, hconfig, hworld]
  have hfirst : ∀ n, (cs₁.take n).map Runner.Cue.veiled = (cs₂.take n).map Runner.Cue.veiled := by
    intro n
    rw [List.map_take, hcs, List.map_take]
  refine ⟨fun e => ?_, fun s t hs ht n => ?_, fun n => ?_,
    fun credentials₁ credentials₂ hcredentials => ?_,
    fun settings₁ settings₂ hsettings => ⟨fun key => ?_, ?_⟩⟩
  · rw [← Service.start_error_veiled view₁, hconfig, hworld, Service.start_error_veiled]
  · rw [hs, ht] at hstarted
    have hsame : s.veiled view₁ = t.veiled view₂ := Except.ok.inj hstarted
    refine Runner.play_looks_same h₁ h₂ (hfirst n) ?_
    rw [Runner.veiled_ofService, Runner.veiled_ofService, hsame]
  · refine Runner.play_looks_same h₁ h₂ (hfirst n) ?_
    rw [Runner.veiled_ofService, Runner.veiled_ofService, Service.veiled_bare, Service.veiled_bare,
      hconfig, hworld]
  · rw [← Credentials.debug_veiled, hcredentials, Credentials.debug_veiled]
  · rw [← Settings.get?_veiled, hsettings, Settings.get?_veiled]
  · rw [← Settings.list_veiled, hsettings, Settings.list_veiled]

/-- A plan without the texts of the credentials in its store. -/
def Plan.veiled (p : Plan) : Plan := { p with store := p.store.veiled }

/-- What planned collaborators answer does not depend on what is in their store. -/
theorem Plan.looksLike : LooksLike Plan.veiled Plan.collaborators Plan.collaborators where
  loadCredentials p := by
    simp only [collaborators, loadCredentials, veiled]
    cases p.credentials with
    | nil => rfl
    | cons outcome rest =>
      cases outcome with
      | error reason => rfl
      | ok there => cases there <;> rfl
  openSession _ _ _ := rfl
  addListener _ _ := rfl
  removeListener _ _ _ := rfl
  closeSession _ _ := rfl
  sync _ _ := rfl
  receiveLimits _ _ := rfl
  receivePayment _ _ _ _ := rfl
  reply _ _ _ := rfl
  createPlugin _ _ _ := rfl
  stopPlugin _ _ := rfl
  pluginLines _ _ _ := rfl

/-- A configuration with two secrets. -/
def keyedConfig (key secret : String) : ServiceConfig :=
  { connection := { apiKey := some key }, plugins := ⟨some ⟨["wss://relay"], some secret⟩⟩ }

/-- A slow wallet, with secrets in its store. -/
def keyedPlan (words passphrase : String) : Plan :=
  { store := ⟨words, some passphrase⟩, delays := { connect := 5, sync := 3 } }

/-- A trigger, an event that its job sees, and the end. -/
def keyedCues : List Runner.Cue :=
  [.call [.trigger Service.swapMessage .arriving] 20, .settle 20, .report 0 .synced, .settle 20,
    .call [.shutdown none] 20]

def keyedRun (key secret words passphrase : String) : Option (Runner Plan) :=
  match Service.start (keyedConfig key secret) true (keyedPlan words passphrase) with
  | .ok s => Runner.play Plan.collaborators keyedCues (.ofService s)
  | .error _ => none

/-- Settings with two secrets. -/
def keyedSettings (words secret : String) : Settings :=
  { mnemonic := some words, service := keyedConfig "key" secret }

/-- Two such runs look the same, although other secrets are handed over in each of them, and so do
two such settings. -/
theorem keyed_runs_look_same :
    Option.Rel Runner.LooksSame (keyedRun "key" "secret" "abandon about" "open")
      (keyedRun "another" "hidden" "legal winner" "sesame") ∧
    ((keyedRun "key" "secret" "abandon about" "open").bind fun r => r.service.history[2]?) =
      some (0, .openSession ⟨.mainnet, "./wallet-data", some "key"⟩
        ⟨"abandon about", some "open"⟩) ∧
    ((keyedRun "another" "hidden" "legal winner" "sesame").bind fun r => r.service.history[2]?) =
      some (0, .openSession ⟨.mainnet, "./wallet-data", some "another"⟩
        ⟨"legal winner", some "sesame"⟩) ∧
    ((keyedRun "key" "secret" "abandon about" "open").bind fun r => r.service.terminated) =
      some .requested ∧
    (keyedSettings "abandon about" "secret").list =
      (keyedSettings "legal winner" "hidden").list := by
  have hstore : (keyedPlan "abandon about" "open").veiled =
      (keyedPlan "legal winner" "sesame").veiled := rfl
  have hconfig : (keyedConfig "key" "secret").veiled = (keyedConfig "another" "hidden").veiled :=
    rfl
  obtain ⟨-, hruns, -, -, hsettings⟩ := secrets_change_nothing_visible Plan.looksLike Plan.looksLike
    hstore hconfig true (Eq.refl (keyedCues.map Runner.Cue.veiled))
  exact ⟨hruns _ _ rfl rfl keyedCues.length, rfl, rfl, rfl, (hsettings _ _ rfl).2⟩

end PushWake
