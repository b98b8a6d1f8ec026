import Rathole.ClientShutdown
import Rathole.ConfigResolved
import Rathole.HotReload
import Rathole.RetryBackoff

set_option autoImplicit false

/- The fields of a service that the runtime unwraps, in runs of both roles whose sections and
events come from accepted configurations. -/
namespace Rathole

/-- An event that `calculate_events` gives for two accepted configurations. -/
def FromConfigs {Text : Type} (tomlFromStr : Text → Except String Config) (e : ConfigChange) :
    Prop :=
  ∃ order old new events, Config.Accepted tomlFromStr old ∧ Config.Accepted tomlFromStr new ∧
    calculateEvents order old new = some events ∧ e ∈ events

namespace Server

variable {D : Type} [DecidableEq D] {digest : List UInt8 → D} {s t : State D}
  {P : ServerServiceConfig → Prop}

/-- `P` of the services that a handshake finds, now or after the reload under way. -/
structure Holds (P : ServerServiceConfig → Prop) (s : State D) : Prop where
  services : ∀ d service, s.services.lookup d = some service → P service
  reload : ∀ service stamp, s.reload = .adding service stamp → P service

theorem Holds.same (holds : Holds P s) (services : t.services = s.services)
    (reload : t.reload = s.reload) : Holds P t := by
  constructor
  · rw [services]
    exact holds.services
  · rw [reload]
    exact holds.reload

theorem Holds.reloadServices (holds : Holds P s) (moved : s.reloadServices digest = some t) :
    Holds P t := by
  obtain ⟨-, moved⟩ := Option.ite_none_right_eq_some.mp moved
  split at moved
  · next cfg stamp adding =>
    cases moved
    refine ⟨fun d service found => ?_, fun service stamp other => by cases other⟩
    rw [lookup_insert_eq] at found
    split at found
    · cases found
      exact holds.reload cfg stamp adding
    · exact holds.services d service found
  · next name stamp deleting =>
    cases moved
    refine ⟨fun d service found => ?_, fun service stamp other => by cases other⟩
    rw [lookup_erase_eq] at found
    split at found
    · cases found
    · exact holds.services d service found
  · cases moved

theorem Holds.step {a : Action D} (holds : Holds P s)
    (adds : ∀ cfg, a = .reload (.serverChange (.add cfg)) → P cfg)
    (moved : step digest s a = some t) : Holds P t := by
  cases updates : a.updates with
  | false =>
    have quiet := quiet_of_step moved updates
    exact holds.same quiet.services quiet.reload
  | true =>
    cases a with
    | connect c now =>
      obtain ⟨source, d, key, service, -, rfl | ⟨entry, -, rfl⟩⟩ := connect_cases moved <;>
        exact holds.same rfl rfl
    | register c =>
      obtain ⟨source, d, key, service, stamp, -, rfl⟩ := register_cases moved
      exact holds.same rfl rfl
    | deadline c =>
      obtain ⟨source, phase, -, -, rfl⟩ := deadline_cases moved
      exact holds.same rfl rfl
    | endTask c stuck =>
      obtain ⟨x, y, -, -, rfl⟩ := onSession_cases moved
      exact holds.same rfl rfl
    | disconnect c now =>
      obtain ⟨x, stuck, runtime, -, -, -, rfl⟩ := disconnect_cases moved
      exact holds.same rfl rfl
    | reload e =>
      obtain ⟨-, same⟩ := Option.ite_none_right_eq_some.mp moved
      cases same
      unfold State.handleHotReload
      split
      · next cfg =>
        refine ⟨holds.services, fun service stamp adding => ?_⟩
        cases adding
        exact adds cfg rfl
      · exact ⟨holds.services, fun service stamp adding => by cases adding⟩
      · exact holds
    | reloadServices => exact holds.reloadServices moved
    | reloadChannels =>
      obtain ⟨-, moved⟩ := Option.ite_none_right_eq_some.mp moved
      split at moved
      · cases moved
        exact ⟨holds.services, fun service stamp adding => by cases adding⟩
      · cases moved
        exact ⟨holds.services, fun service stamp adding => by cases adding⟩
      · cases moved
    | _ => cases updates

/-- The unwrap of the token in `do_control_channel_handshake`: no lookup takes a task down. -/
def Unwraps (s : State D) : Prop :=
  ∀ c source d nonce service, s.conns.lookup c = some ⟨source, .lookup d nonce⟩ →
    s.reload.locksServices = false → s.services.lookup d = some service →
      ∃ token, token.isEmpty = false ∧ s.lookup c =
        some (s.enter c source (.authenticating d (asBytes token ++ nonce) service))

theorem Holds.unwraps (holds : Holds (fun service => ∃ name, service.Usable name) s) :
    Unwraps s := by
  intro c source d nonce service conn unlocked found
  obtain ⟨name, usable⟩ := holds.services d service found
  obtain ⟨token, set, filled⟩ := usable.token
  refine ⟨token, filled, ?_⟩
  rw [State.lookup, conn]
  simp only [unlocked, found, set, Bool.false_eq_true, if_false]

end Server

namespace Client

variable {s t : State} {P : ClientServiceConfig → Prop}

/-- `P` of the services of all tasks, and of those a task is still to be made for. -/
structure Holds (P : ClientServiceConfig → Prop) (s : State) : Prop where
  tasks : ∀ i x, s.tasks.lookup i = some x → P x.service
  starting : ∀ rest, s.loop = .starting rest → ∀ e ∈ rest, P e.2
  adding : ∀ cfg, s.loop = .adding cfg → P cfg

theorem Holds.newHandle {service : ClientServiceConfig} {loop : MainLoop} (holds : Holds P s)
    (made : s.newHandle service loop = some t) (usable : P service)
    (starting : ∀ rest, loop = .starting rest → ∀ e ∈ rest, P e.2)
    (adding : ∀ cfg, loop ≠ .adding cfg) : Holds P t := by
  cases newHandle_cases made
  refine ⟨fun i x found => ?_, starting, fun cfg other => absurd other (adding cfg)⟩
  rw [lookup_insert_eq] at found
  split at found
  · cases found
    exact usable
  · exact holds.tasks i x found

theorem Holds.release (holds : Holds P s) (name : String) (tx : ShutdownTx) :
    Holds P (s.release name tx) := by
  have loop : (s.release name tx).loop = s.loop := (release_fields s name tx).2.2.2
  refine ⟨fun i y found => ?_, ?_, ?_⟩
  · obtain ⟨x, before, rfl | ⟨-, rfl⟩⟩ := lookup_release_some found
    · exact holds.tasks i y before
    · rw [release_service]
      exact holds.tasks i x before
  · rw [loop]
    exact holds.starting
  · rw [loop]
    exact holds.adding

theorem Holds.loop (holds : Holds P s) (tasks : t.tasks = s.tasks)
    (starting : ∀ rest, t.loop = .starting rest → ∀ e ∈ rest, P e.2)
    (adding : ∀ cfg, t.loop = .adding cfg → P cfg) : Holds P t := by
  refine ⟨?_, starting, adding⟩
  rw [tasks]
  exact holds.tasks

theorem Holds.step {a : Action} (holds : Holds P s)
    (adds : ∀ cfg, a = .event (.clientChange (.add cfg)) → P cfg)
    (moved : step s a = some t) : Holds P t := by
  cases a with
  | createNext =>
    obtain ⟨name, service, rest, u, starting, made, rfl⟩ := createNext_cases moved
    have listed := holds.starting _ starting
    have later : ∀ rest', MainLoop.starting rest = .starting rest' → ∀ e ∈ rest', P e.2 := by
      intro rest' same e member
      cases same
      exact listed e (List.mem_cons_of_mem _ member)
    have created := holds.newHandle made (listed _ List.mem_cons_self) later
      fun cfg other => by cases other
    exact (created.release name .dropped).loop rfl later fun cfg other => by cases other
  | created =>
    obtain ⟨-, same⟩ := Option.ite_none_right_eq_some.mp moved
    cases same
    exact holds.loop rfl (fun rest other => by cases other) fun cfg other => by cases other
  | event e =>
    obtain ⟨-, rfl | ⟨cfg, rfl, rfl⟩ | ⟨name, -, rfl⟩⟩ := event_cases moved
    · exact holds
    · refine holds.loop rfl (fun rest other => by cases other) fun cfg' other => ?_
      cases other
      exact adds cfg rfl
    · exact holds.loop rfl (fun rest other => by cases other) fun cfg other => by cases other
  | spawn =>
    obtain ⟨cfg, adding, made⟩ := spawn_cases moved
    exact holds.newHandle made (holds.adding cfg adding) (fun rest other => by cases other)
      fun cfg other => by cases other
  | install =>
    obtain ⟨name, i, -, rfl⟩ := install_cases moved
    exact (holds.release name .dropped).loop rfl (fun rest other => by cases other)
      fun cfg other => by cases other
  | dropHandle =>
    obtain ⟨name, -, rfl⟩ := dropHandle_cases moved
    exact (holds.release name .dropped).loop rfl (fun rest other => by cases other)
      fun cfg other => by cases other
  | shutdown =>
    obtain ⟨-, same⟩ := Option.ite_none_right_eq_some.mp moved
    cases same
    exact holds.loop rfl (fun rest other => by cases other) fun cfg other => by cases other
  | drain name =>
    obtain ⟨-, same⟩ := Option.ite_none_right_eq_some.mp moved
    cases same
    have released := holds.release name .sent
    exact released.loop rfl released.starting released.adding
  | drained =>
    obtain ⟨-, same⟩ := Option.ite_none_right_eq_some.mp moved
    cases same
    exact holds.loop rfl (fun rest other => by cases other) fun cfg other => by cases other
  | task i a =>
    obtain ⟨x, y, found, stepped, ⟨-, rfl⟩ | ⟨call, runtime, -, -, rfl⟩⟩ := task_cases moved <;>
    · refine ⟨fun j z held => ?_, holds.starting, holds.adding⟩
      rw [lookup_insert_eq] at held
      split at held
      · cases held
        rw [(step_fixed stepped).1]
        exact holds.tasks i x found
      · exact holds.tasks j z held

/-- The unwraps of `ControlChannelHandle::new` and of `ControlChannel::run`, and the sleeps of
the retry loop between two runs. -/
structure Unwraps (s : State) : Prop where
  createNext : ∀ e rest, s.loop = .starting (e :: rest) → (s.createNext).isSome
  spawn : ∀ cfg, s.loop = .adding cfg → (s.spawn).isSome
  readHello : ∀ i x, s.tasks.lookup i = some x → x.phase = .awaitingHello →
    ∃ token, x.service.token = some token ∧ token.isEmpty = false ∧
      x.readHello = some { x with phase := .authenticating }
  retry : ∀ i x, s.tasks.lookup i = some x → ∃ interval, x.service.retryInterval = some interval ∧
    ∀ {R : Type} (crate : BackoffCrate R) (loop : RetryLoop), crate.Documented →
      (retryLoop crate interval).Reachable loop →
        loop.exhausted = false ∧ ∀ duration ∈ loop.slept, 0 < duration

theorem Holds.unwraps (holds : Holds (fun service => ∃ name, service.Usable name) s) :
    Unwraps s := by
  have made : ∀ service loop, (∃ name, ClientServiceConfig.Usable name service) →
      (s.newHandle service loop).isSome := by
    rintro service loop ⟨name, usable⟩
    obtain ⟨interval, set, -⟩ := usable.retryInterval
    simp [State.newHandle, set]
  constructor
  · intro e rest starting
    obtain ⟨name, service⟩ := e
    simp only [State.createNext, starting, Option.isSome_map]
    exact made service _ (holds.starting _ starting _ List.mem_cons_self)
  · intro cfg adding
    simp only [State.spawn, adding]
    exact made cfg _ (holds.adding cfg adding)
  · intro i x found awaiting
    obtain ⟨name, usable⟩ := holds.tasks i x found
    obtain ⟨token, set, filled⟩ := usable.token
    refine ⟨token, set, filled, ?_⟩
    rw [Task.readHello, Task.advance, if_pos awaiting, set]
    rfl
  · intro i x found
    obtain ⟨name, usable⟩ := holds.tasks i x found
    obtain ⟨interval, set, positive⟩ := usable.retryInterval
    refine ⟨interval, set, fun crate loop documented reached => ?_⟩
    have sound := RetryLoop.sound_of_reachable documented positive reached
    exact ⟨sound.exhausted, sound.slept⟩

end Client

namespace Config

variable {Text : Type} {tomlFromStr : Text → Except String Config} {config : Config}

/-- The Add events are about services of `config`, under their keys. -/
structure AddsUsable (config : Config) (events : List ConfigChange) : Prop where
  server : ∀ cfg, .serverChange (.add cfg) ∈ events → ∃ section_, config.server = some section_ ∧
    section_.services.lookup cfg.name = some cfg ∧ cfg.Usable cfg.name
  client : ∀ cfg, .clientChange (.add cfg) ∈ events → ∃ section_, config.client = some section_ ∧
    section_.services.lookup cfg.name = some cfg ∧ cfg.Usable cfg.name

theorem Accepted.adds {order : HashOrder} {old : Config} {events : List ConfigChange}
    (accepted : Accepted tomlFromStr config) (told : calculateEvents order old config = some events) :
    AddsUsable config events := by
  obtain ⟨server, client⟩ := added_of_calculateEvents told
  constructor
  · intro cfg member
    obtain ⟨section_, name, defined, found⟩ := server cfg member
    have usable := accepted.usableServer defined found
    have key := usable.name
    subst key
    exact ⟨section_, defined, found, usable⟩
  · intro cfg member
    obtain ⟨section_, name, defined, found⟩ := client cfg member
    have usable := accepted.usableClient defined found
    have key := usable.name
    subst key
    exact ⟨section_, defined, found, usable⟩

theorem server_unwraps (accepted : Accepted tomlFromStr config) {D : Type} [DecidableEq D]
    {digest : List UInt8 → D} {section_ : ServerConfig} (defined : config.server = some section_)
    {entries : List (String × ServerServiceConfig)} (listed : Enumerates entries section_.services)
    {processId now : Nat} {as : List (Server.Action D)} {s : Server.State D}
    (run : (Server.system digest).Run (fun _ a => ∀ e, a = .reload e → FromConfigs tomlFromStr e)
      (.start digest section_ entries processId now) as s) : Server.Unwraps s := by
  apply Server.Holds.unwraps
  apply run.invariant
  · intro s a t told moved holds
    refine holds.step (fun cfg same => ?_) moved
    obtain ⟨order, old, new, events, -, accepted, calculated, member⟩ := told _ same
    obtain ⟨after, -, -, usable⟩ := (accepted.adds calculated).server cfg member
    exact ⟨cfg.name, usable⟩
  · refine ⟨fun d service found => ?_, fun service stamp adding => by cases adding⟩
    obtain ⟨name, member, -⟩ := Server.lookup_generateServiceHashmap found
    exact ⟨name, accepted.usableServer defined ((listed.mem_iff name service).mp member)⟩

theorem client_unwraps (accepted : Accepted tomlFromStr config) {section_ : ClientConfig}
    (defined : config.client = some section_) {entries : List (String × ClientServiceConfig)}
    (listed : Enumerates entries section_.services) {processId now : Nat}
    {as : List Client.Action} {s : Client.State}
    (run : Client.system.Run (fun _ a => ∀ e, a = .event e → FromConfigs tomlFromStr e)
      (.start section_ entries processId now) as s) : Client.Unwraps s := by
  apply Client.Holds.unwraps
  apply run.invariant
  · intro s a t told moved holds
    refine holds.step (fun cfg same => ?_) moved
    obtain ⟨order, old, new, events, -, accepted, calculated, member⟩ := told _ same
    obtain ⟨after, -, -, usable⟩ := (accepted.adds calculated).client cfg member
    exact ⟨cfg.name, usable⟩
  · refine ⟨fun i x found => ?_, fun rest same e member => ?_, fun cfg adding => by cases adding⟩
    · simp [Client.State.start] at found
    · cases same
      exact ⟨e.1, accepted.usableClient defined ((listed.mem_iff e.1 e.2).mp member)⟩

/-- An accepted configuration has what the runtime unwraps, in every iteration order, in what
it tells a running instance, and in every run of either role. -/
theorem accepted_config_runs {order : HashOrder} {text : Text}
    (accepted : fromStr tomlFromStr order text = .ok config) :
    (∀ order', fromStr tomlFromStr order' text = .ok config ∧
      validateSections order' config = .ok config) ∧
    (∃ parsed, tomlFromStr text = .ok parsed ∧ Resolved parsed config) ∧
    (∀ order' old events, Accepted tomlFromStr old →
      calculateEvents order' old config = some events → AddsUsable config events) ∧
    (∀ {D : Type} [DecidableEq D] (digest : List UInt8 → D) section_ entries processId now as s,
      config.server = some section_ → Enumerates entries section_.services →
      (Server.system digest).Run (fun _ a => ∀ e, a = .reload e → FromConfigs tomlFromStr e)
        (.start digest section_ entries processId now) as s → Server.Unwraps s) ∧
    ∀ section_ entries processId now as s,
      config.client = some section_ → Enumerates entries section_.services →
      Client.system.Run (fun _ a => ∀ e, a = .event e → FromConfigs tomlFromStr e)
        (.start section_ entries processId now) as s → Client.Unwraps s := by
  have accepts : Accepted tomlFromStr config := ⟨order, text, accepted⟩
  obtain ⟨parsed, read, checked⟩ := fromStr_ok accepted
  refine ⟨fun order' => ⟨fromStr_order order order' accepted, validateSections_again checked⟩,
    ⟨parsed, read, resolved_of_validateSections checked⟩, ?_, ?_, ?_⟩
  · intro order' old events _ told
    exact accepts.adds told
  · intro D _ digest section_ entries processId now as s defined listed run
    exact server_unwraps accepts defined listed run
  · intro section_ entries processId now as s defined listed run
    exact client_unwraps accepts defined listed run

/-- A client with the one service `web`, whose token is `token` and whose retry interval is
`retryInterval`. -/
def webClient (token : Option String) (retryInterval : Option Nat) : Config where
  server := none
  client := some {
    remoteAddr := "example.com:2333"
    defaultToken := some "t"
    preferIpv6 := none
    services := (∅ : HashMap String ClientServiceConfig).insert "web"
      ⟨.tcp, "web", "127.0.0.1:80", false, token, none, retryInterval⟩
    transport := .default
    heartbeatTimeout := defaultHeartbeatTimeout
    retryInterval := defaultClientRetryInterval }

theorem webClient_accepted (order : HashOrder) :
    fromStr .ok order (webClient none none) = .ok (webClient (some "t") (some 1)) := by
  simp only [fromStr, validateSections, webClient, Option.mapM_some, validateClientConfig,
    order.entries_single]
  rfl

/-- Token and retry interval of the service are those of the section, and stay. -/
theorem accepted_web_client : validateSections HashOrder.some (webClient (some "t") (some 1)) =
    .ok (webClient (some "t") (some 1)) :=
  ((accepted_config_runs (webClient_accepted HashOrder.some)).1 HashOrder.some).2

end Config

end Rathole
