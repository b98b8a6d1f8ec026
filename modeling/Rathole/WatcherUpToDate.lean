import Rathole.HotReload
import Rathole.Watcher

set_option autoImplicit false

/- The watcher ends with the content of the file, unless the file was changed between
the initial read and the registration of the watch. -/
namespace Rathole

section Apply

variable {config : Config} {e : ConfigChange}

theorem ServerConfig.eq_of_services {a b : ServerConfig}
    (alike : a.withoutServices = b.withoutServices) (services : a.services = b.services) : a = b := by
  cases a
  cases b
  simp only [ServerConfig.withoutServices, ServerConfig.mk.injEq] at alike
  simp only [ServerConfig.mk.injEq]
  exact ⟨alike.1, alike.2.1, services, alike.2.2.2⟩

theorem ClientConfig.eq_of_services {a b : ClientConfig}
    (alike : a.withoutServices = b.withoutServices) (services : a.services = b.services) : a = b := by
  cases a
  cases b
  simp only [ClientConfig.withoutServices, ClientConfig.mk.injEq] at alike
  simp only [ClientConfig.mk.injEq]
  exact ⟨alike.1, alike.2.1, alike.2.2.1, services, alike.2.2.2.2⟩

theorem apply_withoutServices (service : e.isGeneral = false) :
    (config.apply e).withoutServices = config.withoutServices := by
  cases e with
  | general new => cases service
  | serverChange change =>
    cases change <;> simp only [Config.apply, Config.withoutServices, Option.map_map] <;> rfl
  | clientChange change =>
    cases change <;> simp only [Config.apply, Config.withoutServices, Option.map_map] <;> rfl

/-- The service of a section under a name. -/
def Config.serverService (config : Config) (name : String) : Option ServerServiceConfig :=
  config.server.bind fun s => s.services.lookup name

def Config.clientService (config : Config) (name : String) : Option ClientServiceConfig :=
  config.client.bind fun c => c.services.lookup name

/-- Events other than a restart, as a partial step. -/
def Config.applyService (config : Config) (e : ConfigChange) : Option Config :=
  if e.isGeneral then none else some (config.apply e)

theorem applyService_cases {next : Config} (applied : config.applyService e = some next) :
    e.isGeneral = false ∧ next = config.apply e := by
  unfold Config.applyService at applied
  split at applied
  · cases applied
  · next special =>
    cases applied
    exact ⟨Bool.eq_false_iff.mpr special, rfl⟩

theorem applyService_server : Reconcile.Local (fun config : Config => config.server.isSome)
    Config.applyService serverKey Config.serverService
    fun e _ after => after = serverOutcome e := by
  constructor
  · intro config e next present applied
    obtain ⟨service, rfl⟩ := applyService_cases applied
    have alike : (config.apply e).withoutServices.server = config.withoutServices.server :=
      congrArg Config.server (apply_withoutServices service)
    exact (isSome_eq_of_map_eq alike).trans present
  · intro config e next name present applied other
    obtain ⟨service, rfl⟩ := applyService_cases applied
    obtain ⟨s, held⟩ := Option.isSome_iff_exists.mp present
    cases e with
    | general new => cases service
    | clientChange change => cases change <;> rfl
    | serverChange change =>
      cases change with
      | add cfg =>
        have apart : name ≠ cfg.name := fun same => other (congrArg some same.symm)
        simp only [Config.serverService, Config.apply, held, Option.map_some, Option.bind_some,
          lookup_insert_eq, if_neg apart]
      | delete gone =>
        have apart : name ≠ gone := fun same => other (congrArg some same.symm)
        simp only [Config.serverService, Config.apply, held, Option.map_some, Option.bind_some,
          lookup_erase_eq, if_neg apart]
  · intro config e next name present applied own
    obtain ⟨service, rfl⟩ := applyService_cases applied
    obtain ⟨s, held⟩ := Option.isSome_iff_exists.mp present
    unfold serverKey at own
    split at own
    · cases own
      simp only [Config.serverService, Config.apply, held, Option.map_some, Option.bind_some,
        lookup_insert_eq, if_pos, serverOutcome]
    · cases own
      simp only [Config.serverService, Config.apply, held, Option.map_some, Option.bind_some,
        lookup_erase_eq, if_pos, serverOutcome]
    · cases own

theorem applyService_client : Reconcile.Local (fun config : Config => config.client.isSome)
    Config.applyService clientKey Config.clientService
    fun e _ after => after = clientOutcome e := by
  constructor
  · intro config e next present applied
    obtain ⟨service, rfl⟩ := applyService_cases applied
    have alike : (config.apply e).withoutServices.client = config.withoutServices.client :=
      congrArg Config.client (apply_withoutServices service)
    exact (isSome_eq_of_map_eq alike).trans present
  · intro config e next name present applied other
    obtain ⟨service, rfl⟩ := applyService_cases applied
    obtain ⟨c, held⟩ := Option.isSome_iff_exists.mp present
    cases e with
    | general new => cases service
    | serverChange change => cases change <;> rfl
    | clientChange change =>
      cases change with
      | add cfg =>
        have apart : name ≠ cfg.name := fun same => other (congrArg some same.symm)
        simp only [Config.clientService, Config.apply, held, Option.map_some, Option.bind_some,
          lookup_insert_eq, if_neg apart]
      | delete gone =>
        have apart : name ≠ gone := fun same => other (congrArg some same.symm)
        simp only [Config.clientService, Config.apply, held, Option.map_some, Option.bind_some,
          lookup_erase_eq, if_neg apart]
  · intro config e next name present applied own
    obtain ⟨service, rfl⟩ := applyService_cases applied
    obtain ⟨c, held⟩ := Option.isSome_iff_exists.mp present
    unfold clientKey at own
    split at own
    · cases own
      simp only [Config.clientService, Config.apply, held, Option.map_some, Option.bind_some,
        lookup_insert_eq, if_pos, clientOutcome]
    · cases own
      simp only [Config.clientService, Config.apply, held, Option.map_some, Option.bind_some,
        lookup_erase_eq, if_pos, clientOutcome]
    · cases own

end Apply

section Fold

variable {old new : Config} {events : List ConfigChange}

theorem foldlM_applyService (special : ∀ e ∈ events, e.isGeneral = false) (config : Config) :
    events.foldlM Config.applyService config = some (events.foldl Config.apply config) := by
  induction events generalizing config with
  | nil => rfl
  | cons e events ih =>
    have first : config.applyService e = some (config.apply e) :=
      if_neg (Bool.eq_false_iff.mp (special e List.mem_cons_self))
    rw [List.foldlM_cons, List.foldl_cons, first]
    exact ih (fun e member => special e (List.mem_cons_of_mem _ member)) (config.apply e)

theorem foldl_apply_withoutServices (special : ∀ e ∈ events, e.isGeneral = false) (config : Config) :
    (events.foldl Config.apply config).withoutServices = config.withoutServices := by
  induction events generalizing config with
  | nil => rfl
  | cons e events ih =>
    rw [List.foldl_cons, ih fun e member => special e (List.mem_cons_of_mem _ member)]
    exact apply_withoutServices (special e List.mem_cons_self)

/-- The service events turn the old configuration into the new one. -/
theorem foldl_apply_services (told : ServiceEvents old new events) :
    events.foldl Config.apply old = new := by
  have ran := foldlM_applyService told.special old
  have alike := foldl_apply_withoutServices told.special old
  generalize events.foldl Config.apply old = result at ran alike
  rw [told.alike] at alike
  have servers : result.server = new.server := by
    have section_ : result.server.map ServerConfig.withoutServices =
        new.server.map ServerConfig.withoutServices := congrArg Config.server alike
    have before : old.server.isSome = new.server.isSome :=
      isSome_eq_of_map_eq (congrArg Config.server told.alike)
    cases after : new.server with
    | none =>
      rw [after] at section_
      exact Option.map_eq_none_iff.mp section_
    | some n =>
      rw [after] at section_ before
      obtain ⟨o, had⟩ := Option.isSome_iff_exists.mp before
      obtain ⟨r, held, same⟩ := Option.map_eq_some_iff.mp section_
      have shown : ∀ name, result.serverService name = n.services.lookup name :=
        applyService_server.agrees (told.server o n had after) before ran
          (fun name service _ _ => by cases service <;> exact id)
          (fun name => by rw [Config.serverService, had, Option.bind_some])
      rw [held]
      refine congrArg some (ServerConfig.eq_of_services same (Finmap.ext_lookup fun name => ?_))
      rw [← shown name, Config.serverService, held, Option.bind_some]
  have clients : result.client = new.client := by
    have section_ : result.client.map ClientConfig.withoutServices =
        new.client.map ClientConfig.withoutServices := congrArg Config.client alike
    have before : old.client.isSome = new.client.isSome :=
      isSome_eq_of_map_eq (congrArg Config.client told.alike)
    cases after : new.client with
    | none =>
      rw [after] at section_
      exact Option.map_eq_none_iff.mp section_
    | some n =>
      rw [after] at section_ before
      obtain ⟨o, had⟩ := Option.isSome_iff_exists.mp before
      obtain ⟨r, held, same⟩ := Option.map_eq_some_iff.mp section_
      have shown : ∀ name, result.clientService name = n.services.lookup name :=
        applyService_client.agrees (told.client o n had after) before ran
          (fun name service _ _ => by cases service <;> exact id)
          (fun name => by rw [Config.clientService, had, Option.bind_some])
      rw [held]
      refine congrArg some (ClientConfig.eq_of_services same (Finmap.ext_lookup fun name => ?_))
      rw [← shown name, Config.clientService, held, Option.bind_some]
  cases result
  cases new
  cases servers
  cases clients
  rfl

/-- The events of any diff turn the old configuration into the new one. -/
theorem foldl_apply_events (order : HashOrder) (filled : new.Filled) :
    ((calculateEvents order old new).getD []).foldl Config.apply old = new := by
  cases told : calculateEvents order old new with
  | none => exact calculateEvents_none.mp told
  | some events =>
    by_cases alike : old.withoutServices = new.withoutServices
    · exact foldl_apply_services (calculateEvents_services filled told alike)
    · have restart : calculateEvents order old new = some [.general new] :=
        (calculateEvents_general new).mpr ⟨rfl, alike⟩
      cases told.symm.trans restart
      rfl

end Fold

namespace Watcher

variable {Text : Type} {tomlFromStr : Text → Except String Config} {s t : State Text}

/-- Folding the events sent, from the initial General on, gives the configuration. -/
def Told (sent : List ConfigChange) (config : Config) : Prop :=
  ∃ first rest, sent = .general first :: rest ∧ rest.foldl Config.apply first = config

/-- The content of the file is accepted as no other configuration. -/
def Shows (tomlFromStr : Text → Except String Config) (file : Text) (old : Config) : Prop :=
  ∀ order config, Config.fromStr tomlFromStr order file = .ok config → config = old

/-- At its `select!`, with no notification on its way, the watcher has the content of
the file, if that is accepted, and has told it. -/
def UpToDate (tomlFromStr : Text → Except String Config) (s : State Text) : Prop :=
  ∀ old, s.phase = .waiting old → s.undelivered = 0 → s.queued = 0 →
    ∀ order config, Config.fromStr tomlFromStr order s.file = .ok config →
      old = config ∧ Told s.sent config

/-- When the watch is registered the file shows what the initial read saw. -/
def RegistersCurrent (tomlFromStr : Text → Except String Config) (s : State Text)
    (a : Action Text) : Prop :=
  a = .register → ∀ old, s.phase = .spawned old → Shows tomlFromStr s.file old

/-- The configuration the watcher compares with. -/
def Phase.old : Phase → Option Config
  | .spawned old | .waiting old | .rescanning old _ => some old
  | _ => none

/-- Either the file shows what the watcher has, or a notification is on its way. -/
structure Follows (tomlFromStr : Text → Except String Config) (s : State Text) : Prop where
  told : ∀ old, s.phase.old = some old → Told s.sent old
  waiting : ∀ old, s.phase = .waiting old →
    0 < s.undelivered + s.queued ∨ Shows tomlFromStr s.file old
  torn : ∀ old, s.phase = .rescanning old true → 0 < s.undelivered + s.queued

theorem Told.append {sent : List ConfigChange} {old new : Config} (told : Told sent old)
    (order : HashOrder) (filled : new.Filled) :
    Told (sent ++ (calculateEvents order old new).getD []) new := by
  obtain ⟨first, rest, rfl, rfl⟩ := told
  refine ⟨first, _, List.cons_append, ?_⟩
  rw [List.foldl_append]
  exact foldl_apply_events order filled

theorem Follows.upToDate (follows : Follows tomlFromStr s) : UpToDate tomlFromStr s := by
  intro old waiting undelivered queued order config accepted
  have shows : Shows tomlFromStr s.file old := by
    rcases follows.waiting old waiting with owed | shows
    · omega
    · exact shows
  have same : config = old := shows order config accepted
  have told : Told s.sent old := follows.told old (by rw [waiting, Phase.old])
  rw [same]
  exact ⟨rfl, told⟩

@[simp] theorem old_tear (phase : Phase) : phase.tear.old = phase.old := by
  cases phase <;> rfl

@[simp] theorem watched_tear (phase : Phase) : phase.tear.watched = phase.watched := by
  cases phase <;> rfl

theorem Follows.write (follows : Follows tomlFromStr s) (text : Text) (extra : Nat) :
    Follows tomlFromStr (s.write text extra) := by
  have owed : s.phase.watched = true →
      0 < (s.write text extra).undelivered + (s.write text extra).queued := by
    intro watched
    rw [State.write, if_pos watched]
    show 0 < s.undelivered + (extra + 1) + s.queued
    omega
  have watched : ∀ {phase : Phase}, s.phase.tear = phase → phase.watched = true →
      s.phase.watched = true := by
    intro phase same watched
    rw [← watched_tear, same, watched]
  refine ⟨fun old held => follows.told old (by rwa [State.write, old_tear] at held),
    fun old waiting => ?_, fun old rescanning => ?_⟩
  · exact .inl (owed (watched waiting rfl))
  · exact owed (watched rescanning rfl)

/-- The notifications that are owed or queued add up to no less, and nothing else moves. -/
theorem Follows.keep (follows : Follows tomlFromStr s) (file : t.file = s.file)
    (phase : t.phase = s.phase) (sent : t.sent = s.sent)
    (owed : s.undelivered + s.queued ≤ t.undelivered + t.queued) : Follows tomlFromStr t := by
  refine ⟨fun old held => ?_, fun old waiting => ?_, fun old rescanning => ?_⟩
  · rw [sent]
    exact follows.told old (phase ▸ held)
  · rcases follows.waiting old (phase ▸ waiting) with before | shows
    · exact .inl (Nat.lt_of_lt_of_le before owed)
    · exact .inr (file ▸ shows)
  · exact Nat.lt_of_lt_of_le (follows.torn old (phase ▸ rescanning)) owed

/-- Before the first read, and after the end, there is nothing to follow. -/
theorem Follows.absent (unknown : s.phase.old = none) : Follows tomlFromStr s := by
  refine ⟨fun old held => ?_, fun old waiting => ?_, fun old rescanning => ?_⟩
  · rw [unknown] at held
    cases held
  · rw [waiting] at unknown
    cases unknown
  · rw [rescanning] at unknown
    cases unknown

theorem Follows.receive (follows : Follows tomlFromStr s) (moved : s.receive = some t) :
    Follows tomlFromStr t := by
  unfold State.receive at moved
  split at moved
  · next old waiting =>
    obtain ⟨-, ⟨⟩⟩ := Option.ite_none_right_eq_some.mp moved
    refine ⟨fun held same => ?_, (fun _ same => nomatch same), fun _ same => nomatch same⟩
    cases same
    exact follows.told old (by rw [waiting, Phase.old])
  · cases moved

variable [DecidableEq Text]

theorem Follows.finishRead {text : Text} {order : HashOrder}
    (moved : s.finishRead tomlFromStr text order = some t) : Follows tomlFromStr t := by
  unfold State.finishRead at moved
  split at moved
  · obtain ⟨-, moved⟩ := Option.ite_none_right_eq_some.mp moved
    split at moved
    · cases moved
      exact .absent rfl
    · next config read =>
      cases moved
      refine ⟨fun old held => ?_, (fun _ same => nomatch same), fun _ same => nomatch same⟩
      cases held
      exact ⟨config, [], rfl, rfl⟩
  · cases moved

/-- A rescan that was not torn read the content of the file; a torn one owes another. -/
theorem Follows.rescan {text : Text} {read diff : HashOrder} (follows : Follows tomlFromStr s)
    (moved : s.rescan tomlFromStr text read diff = some t) : Follows tomlFromStr t := by
  unfold State.rescan at moved
  split at moved
  · next old torn rescanning =>
    have told : Told s.sent old := follows.told old (by rw [rescanning, Phase.old])
    obtain ⟨seen, moved⟩ := Option.ite_none_right_eq_some.mp moved
    have owed : torn = true → 0 < s.undelivered + s.queued := by
      rintro rfl
      exact follows.torn old rescanning
    split at moved
    · next message refused =>
      cases moved
      refine ⟨fun held same => ?_, fun held waiting => ?_, fun _ same => nomatch same⟩
      · cases same
        exact told
      · by_cases tore : torn = true
        · exact .inl (owed tore)
        · right
          intro order config accepted
          cases seen.resolve_left tore
          have again := Config.fromStr_order order read accepted
          rw [refused] at again
          cases again
    · next new accepted =>
      cases moved
      refine ⟨fun held same => ?_, fun held waiting => ?_, fun _ same => nomatch same⟩
      · cases same
        exact told.append diff (Config.filled_of_fromStr accepted)
      · cases waiting
        by_cases tore : torn = true
        · exact .inl (owed tore)
        · right
          intro order config accepted'
          cases seen.resolve_left tore
          have again := Config.fromStr_order order read accepted'
          rw [accepted] at again
          cases again
          rfl
  · cases moved

theorem Follows.step {a : Action Text} (follows : Follows tomlFromStr s)
    (allowed : RegistersCurrent tomlFromStr s a) (moved : step tomlFromStr s a = some t) :
    Follows tomlFromStr t := by
  cases a with
  | write text extra =>
    cases moved
    exact follows.write text extra
  | touch =>
    obtain ⟨-, ⟨⟩⟩ := Option.ite_none_right_eq_some.mp moved
    exact follows.keep rfl rfl rfl (by show _ ≤ s.undelivered + 1 + s.queued; omega)
  | deliver =>
    obtain ⟨owed, ⟨⟩⟩ := Option.ite_none_right_eq_some.mp moved
    exact follows.keep rfl rfl rfl
      (by show _ ≤ s.undelivered - 1 + (s.queued + 1); omega)
  | beginRead =>
    obtain ⟨-, ⟨⟩⟩ := Option.ite_none_right_eq_some.mp moved
    exact .absent rfl
  | finishRead text order => exact .finishRead moved
  | register =>
    simp only [Watcher.step, State.register] at moved
    split at moved
    · next old spawned =>
      cases moved
      refine ⟨fun held same => ?_, fun held waiting => ?_, fun _ same => nomatch same⟩
      · cases same
        exact follows.told old (by rw [spawned, Phase.old])
      · cases waiting
        exact .inr (allowed rfl old spawned)
    · cases moved
  | receive => exact follows.receive moved
  | rescan text read diff => exact follows.rescan moved
  | shutdown =>
    simp only [Watcher.step, State.shutdown] at moved
    split at moved
    · cases moved
      exact .absent rfl
    · cases moved

/-- In every run that registers the watch while the file still shows what was read at
first, the watcher is up to date whenever nothing is on its way. -/
theorem up_to_date_of_registers_current
    (reached : (system tomlFromStr).Reach (RegistersCurrent tomlFromStr) s) :
    UpToDate tomlFromStr s := by
  have follows : Follows tomlFromStr s := by
    apply reached.invariant
    · rintro s ⟨file, rfl⟩
      exact .absent rfl
    · intro s a t allowed moved follows
      exact follows.step allowed moved
  exact follows.upToDate

/-- The initial read of an accepted content. -/
theorem run_of_read {file : Text} {order : HashOrder} {config : Config}
    (accepted : Config.fromStr tomlFromStr order file = .ok config) :
    (system tomlFromStr).Run (RegistersCurrent tomlFromStr) ⟨file, .idle, 0, 0, []⟩
      [.beginRead, .finishRead file order] ⟨file, .spawned config, 0, 0, [.general config]⟩ := by
  have read : State.finishRead tomlFromStr ⟨file, .loading false, 0, 0, []⟩ file order =
      some ⟨file, .spawned config, 0, 0, [.general config]⟩ := by
    simp only [State.finishRead, accepted, or_true, if_true]
  exact .cons (fun same => nomatch same) rfl (.single (fun same => nomatch same) read)

/-- A token changed while the file is watched. -/
theorem up_to_date_after_rescan : ∃ s : State Config,
    (system .ok).Reach (RegistersCurrent .ok) s ∧
      s.phase = .waiting (webConfig "new") ∧ s.undelivered = 0 ∧ s.queued = 0 ∧
      UpToDate .ok s := by
  obtain ⟨readOld, readNew⟩ := webConfig_accepted HashOrder.some
  have current : Shows .ok (webConfig "old") (webConfig "old") := by
    intro order config accepted
    exact Except.ok.inj (accepted.symm.trans (webConfig_accepted order).1)
  have rescanned : State.rescan .ok ⟨webConfig "new", .rescanning (webConfig "old") false, 0, 0,
      [.general (webConfig "old")]⟩ (webConfig "new") HashOrder.some HashOrder.some =
      some ⟨webConfig "new", .waiting (webConfig "new"), 0, 0, [.general (webConfig "old")] ++
        (calculateEvents HashOrder.some (webConfig "old") (webConfig "new")).getD []⟩ := by
    simp only [State.rescan, readNew, or_true, if_true]
  have watched : (system .ok).Reach (RegistersCurrent .ok)
      ⟨webConfig "old", .waiting (webConfig "old"), 0, 0, [.general (webConfig "old")]⟩ := by
    have started : (system .ok).Reach (RegistersCurrent .ok) ⟨webConfig "old", .idle, 0, 0, []⟩ :=
      .start ⟨_, rfl⟩
    apply (started.run (run_of_read readOld)).next (a := .register) _ rfl
    rintro - old ⟨⟩
    exact current
  have written := watched.next (a := .write (webConfig "new") 0) (fun same => nomatch same) rfl
  have delivered := written.next (a := .deliver) (fun same => nomatch same) rfl
  have received : (system .ok).Reach (RegistersCurrent .ok) ⟨webConfig "new",
      .rescanning (webConfig "old") false, 0, 0, [.general (webConfig "old")]⟩ :=
    delivered.next (a := .receive) (fun same => nomatch same) rfl
  have reached := received.next (a := .rescan (webConfig "new") HashOrder.some HashOrder.some)
    (fun same => nomatch same) rescanned
  exact ⟨_, reached, rfl, rfl, rfl, up_to_date_of_registers_current reached⟩

/-- A write between the initial read and the registration: nothing announces it, and the
watcher keeps the configuration it read. -/
theorem update_missed_before_register :
    ¬ ∀ (Text : Type) (_ : DecidableEq Text) (tomlFromStr : Text → Except String Config)
      (s : State Text), (system tomlFromStr).Reachable s → UpToDate tomlFromStr s := by
  intro current
  obtain ⟨readOld, readNew⟩ := webConfig_accepted HashOrder.some
  have started : (system .ok).Reachable (⟨webConfig "old", .idle, 0, 0, []⟩ : State Config) :=
    .start ⟨_, rfl⟩
  have read := started.run (run_of_read readOld).free
  have written := read.next (a := .write (webConfig "new") 0) trivial rfl
  have registered := written.next (a := .register) trivial rfl
  have same := (current Config _ .ok _ registered (webConfig "old") rfl rfl rfl HashOrder.some
    (webConfig "new") readNew).1
  have differs : webConfig "old" ≠ webConfig "new" := by decide +kernel
  exact differs same

/-- Before the watch is registered nothing is announced. -/
def Unannounced (s : State Text) : Prop :=
  s.phase.watched = true ∨ s.phase = .exited ∨ s.undelivered = 0 ∧ s.queued = 0

omit [DecidableEq Text] in
theorem Unannounced.quiet (quiet : Unannounced s) (unwatched : s.phase.watched = false)
    (running : s.phase ≠ .exited) : s.undelivered = 0 ∧ s.queued = 0 := by
  rcases quiet with watched | exited | none_owed
  · rw [unwatched] at watched
    cases watched
  · exact absurd exited running
  · exact none_owed

omit [DecidableEq Text] in
theorem Unannounced.write (quiet : Unannounced s) (text : Text) (extra : Nat) :
    Unannounced (s.write text extra) := by
  by_cases watched : s.phase.watched = true
  · exact .inl ((watched_tear s.phase).trans watched)
  · rcases quiet with now | exited | none_owed
    · exact absurd now watched
    · exact .inr (.inl (by rw [State.write, exited]; rfl))
    · right; right
      rw [State.write, if_neg watched]
      exact none_owed

theorem Unannounced.step {a : Action Text} (quiet : Unannounced s)
    (moved : step tomlFromStr s a = some t) : Unannounced t := by
  cases a with
  | write text extra =>
    cases moved
    exact quiet.write text extra
  | touch =>
    obtain ⟨watched, ⟨⟩⟩ := Option.ite_none_right_eq_some.mp moved
    exact .inl watched
  | deliver =>
    obtain ⟨owed, ⟨⟩⟩ := Option.ite_none_right_eq_some.mp moved
    rcases quiet with watched | exited | none_owed
    · exact .inl watched
    · exact .inr (.inl exited)
    · omega
  | beginRead =>
    obtain ⟨idle, ⟨⟩⟩ := Option.ite_none_right_eq_some.mp moved
    exact .inr (.inr (quiet.quiet (by rw [idle]; rfl) (by rw [idle]; exact fun same => nomatch same)))
  | finishRead text order =>
    simp only [Watcher.step, State.finishRead] at moved
    split at moved
    · next torn loading =>
      have none_owed := quiet.quiet (by rw [loading]; rfl)
        (by rw [loading]; exact fun same => nomatch same)
      obtain ⟨-, moved⟩ := Option.ite_none_right_eq_some.mp moved
      split at moved <;> cases moved <;> exact .inr (.inr none_owed)
    · cases moved
  | register =>
    simp only [Watcher.step, State.register] at moved
    split at moved <;> cases moved
    exact .inl rfl
  | receive =>
    simp only [Watcher.step, State.receive] at moved
    split at moved
    · obtain ⟨-, ⟨⟩⟩ := Option.ite_none_right_eq_some.mp moved
      exact .inl rfl
    · cases moved
  | rescan text read diff =>
    simp only [Watcher.step, State.rescan] at moved
    split at moved
    · obtain ⟨-, moved⟩ := Option.ite_none_right_eq_some.mp moved
      split at moved <;> cases moved <;> exact .inl rfl
    · cases moved
  | shutdown =>
    simp only [Watcher.step, State.shutdown] at moved
    split at moved <;> cases moved
    exact .inr (.inl rfl)

/-- Wherever the file shows something else when the watch is registered, the update is
missed at once. -/
theorem outdated_of_register (reached : (system tomlFromStr).Reachable s) {old config : Config}
    {order : HashOrder} (spawned : s.phase = .spawned old)
    (accepted : Config.fromStr tomlFromStr order s.file = .ok config) (differs : config ≠ old) :
    ∃ t, step tomlFromStr s .register = some t ∧ ¬ UpToDate tomlFromStr t := by
  have quiet : Unannounced s := by
    apply reached.invariant
    · rintro s ⟨file, rfl⟩
      exact .inr (.inr ⟨rfl, rfl⟩)
    · intro s a t _ moved quiet
      exact quiet.step moved
  obtain ⟨undelivered, queued⟩ := quiet.quiet (by rw [spawned]; rfl)
    (by rw [spawned]; exact fun same => nomatch same)
  have moved : step tomlFromStr s .register = some { s with phase := .waiting old } := by
    simp only [step, State.register, spawned]
  refine ⟨_, moved, fun current => ?_⟩
  exact differs (current old rfl undelivered queued order config accepted).1.symm

end Watcher

end Rathole
