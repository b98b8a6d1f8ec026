import Rathole.ConfigDiff
import Rathole.ServerNames

set_option autoImplicit false

/- Hot reload of the server, one event after the other, against a fresh start with the
new section. -/
namespace Rathole.Server

variable {D : Type} [DecidableEq D]

/-- `handle_hot_reload` from its start to its end; it does not get there while a task
holds a guard of one of the tables. -/
def State.hotReload (digest : List UInt8 → D) (s : State D) (e : ConfigChange) :
    Option (State D) :=
  match e with
  | .serverChange _ => ((s.handleHotReload e).reloadServices digest).bind State.reloadChannels
  | _ => some (s.handleHotReload e)

variable {digest : List UInt8 → D} {s t : State D}

/-- The steps of the main loop that an event takes. -/
def reloadSteps : ConfigChange → List (Action D)
  | .serverChange change => [.reload (.serverChange change), .reloadServices, .reloadChannels]
  | e => [.reload e]

theorem run_of_hotReload {e : ConfigChange} (running : s.running) (idle : s.reload = .idle)
    (reloaded : s.hotReload digest e = some t) :
    (system digest).Run Transition.System.Free s (reloadSteps e) t := by
  have begun : (system digest).step s (.reload e) = some (s.handleHotReload e) :=
    if_pos ⟨running, idle⟩
  unfold State.hotReload at reloaded
  split at reloaded
  · obtain ⟨u, services, channels⟩ := Option.bind_eq_some_iff.mp reloaded
    exact .cons trivial begun (.cons trivial services (.single trivial channels))
  · next other =>
    cases reloaded
    have steps : reloadSteps e = [Action.reload (D := D) e] := by
      unfold reloadSteps
      split
      · next change => exact absurd rfl (other change)
      · rfl
    rw [steps]
    exact .single trivial begun

/-- No hot reload is under way and no task holds a guard. -/
structure Steady (digest : List UInt8 → D) (s : State D) : Prop where
  idle : s.reload = .idle
  serviceReaders : s.serviceReaders = []
  channelReaders : s.channelReaders = []
  named : ∀ d service, s.services.lookup d = some service → digest (asBytes service.name) = d

/-- The server holds the tables that one started from the section would hold. -/
structure Serves (digest : List UInt8 → D) (config : ServerConfig) (s : State D) : Prop where
  section_ : s.config.withoutServices = config.withoutServices
  fresh : ∀ entries, Enumerates entries config.services → ∀ processId now,
    s.services = (State.start digest config entries processId now).services ∧
    s.runtime.services.keys = (State.start digest config entries processId now).runtime.services.keys

section Start

variable {config : ServerConfig} {entries : List (String × ServerServiceConfig)}
  (injective : Function.Injective digest)

include injective in
theorem lookup_generate (enumerates : Enumerates entries config.services) (name : String) :
    (generateServiceHashmap digest entries).lookup (digest (asBytes name)) =
      config.services.lookup name := by
  have written : digest (asBytes name) ∈ generateServiceHashmap digest entries ↔
      digest (asBytes name) ∈ entries.map fun u => digest (asBytes u.1) := by
    rw [generateServiceHashmap, mem_foldl_insert, or_iff_right Finmap.notMem_empty]
  cases found : (generateServiceHashmap digest entries).lookup (digest (asBytes name)) with
  | some service =>
    obtain ⟨other, member, same⟩ := lookup_generateServiceHashmap found
    cases asBytes_injective (injective same)
    exact ((enumerates.mem_iff name service).mp member).symm
  | none =>
    cases held : config.services.lookup name with
    | none => rfl
    | some service =>
      have member : (name, service) ∈ entries := (enumerates.mem_iff name service).mpr held
      have stored := written.mpr (List.mem_map.mpr ⟨(name, service), member, rfl⟩)
      exact absurd stored (Finmap.lookup_eq_none.mp found)

theorem mem_registry_start (enumerates : Enumerates entries config.services) (processId now : Nat)
    (name : String) :
    name ∈ (State.start digest config entries processId now).runtime.services ↔
      name ∈ config.services := by
  have collected : name ∈ (State.start digest config entries processId now).runtime.services ↔
      name ∈ entries.map Prod.fst := RuntimeStatus.mem_collect _ _ _
  rw [collected, List.mem_map, ← Finmap.lookup_isSome, Option.isSome_iff_exists]
  constructor
  · rintro ⟨⟨other, service⟩, member, rfl⟩
    exact ⟨service, (enumerates.mem_iff other service).mp member⟩
  · rintro ⟨service, found⟩
    exact ⟨(name, service), (enumerates.mem_iff name service).mpr found, rfl⟩

theorem Serves.mem_registry (serves : Serves digest config s) (name : String) :
    name ∈ s.runtime.services ↔ name ∈ config.services := by
  have enumerates := HashOrder.some.enumerates config.services
  have keys := (serves.fresh _ enumerates 0 0).2
  rw [← Finmap.mem_keys, keys, Finmap.mem_keys]
  exact mem_registry_start enumerates 0 0 name

include injective in
theorem Serves.lookup (serves : Serves digest config s) (name : String) :
    s.services.lookup (digest (asBytes name)) = config.services.lookup name := by
  have enumerates := HashOrder.some.enumerates config.services
  rw [(serves.fresh _ enumerates 0 0).1]
  exact lookup_generate injective enumerates name

include injective in
/-- The tables are read name by name. -/
theorem Serves.of_names (section_ : s.config.withoutServices = config.withoutServices)
    (named : ∀ d service, s.services.lookup d = some service → digest (asBytes service.name) = d)
    (services : ∀ name, s.services.lookup (digest (asBytes name)) = config.services.lookup name)
    (registry : ∀ name, name ∈ s.runtime.services ↔ name ∈ config.services) :
    Serves digest config s := by
  refine ⟨section_, fun entries enumerates processId now => ⟨?_, ?_⟩⟩
  · apply Finmap.ext_lookup
    intro d
    change _ = (generateServiceHashmap digest entries).lookup d
    by_cases hashed : ∃ name, digest (asBytes name) = d
    · obtain ⟨name, rfl⟩ := hashed
      rw [services name, lookup_generate injective enumerates name]
    · have absent : s.services.lookup d = none := by
        rw [Option.eq_none_iff_forall_ne_some]
        intro service found
        exact hashed ⟨service.name, named d service found⟩
      have never : (generateServiceHashmap digest entries).lookup d = none := by
        rw [Option.eq_none_iff_forall_ne_some]
        intro service found
        obtain ⟨name, -, same⟩ := lookup_generateServiceHashmap found
        exact hashed ⟨name, same⟩
      rw [absent, never]
  · apply Finset.ext
    intro name
    rw [Finmap.mem_keys, Finmap.mem_keys, registry name]
    exact (mem_registry_start enumerates processId now name).symm

include injective in
theorem Serves.start (enumerates : Enumerates entries config.services) (processId now : Nat)
    (filled : ∀ name service, config.services.lookup name = some service → service.name = name) :
    Serves digest config (.start digest config entries processId now) := by
  apply Serves.of_names injective (s := .start digest config entries processId now) rfl
  · intro d service found
    obtain ⟨name, member, same⟩ := lookup_generateServiceHashmap found
    rw [filled name service ((enumerates.mem_iff name service).mp member)]
    exact same
  · exact lookup_generate injective enumerates
  · exact mem_registry_start enumerates processId now

end Start

section Undisturbed

/-- No hot reload begins. -/
def NoReload (_ : State D) (a : Action D) : Prop := ∀ e, a ≠ .reload e

/-- Two states that agree on the section, the service table and the registry keys. -/
structure Undisturbed (s t : State D) : Prop where
  config : t.config = s.config
  services : t.services = s.services
  registry : t.runtime.services.keys = s.runtime.services.keys
  reload : t.reload = s.reload

theorem undisturbed_disconnect {c now : Nat} (moved : s.disconnect c now = some t) :
    Undisturbed s t := by
  obtain ⟨x, stuck, runtime, -, -, written, rfl⟩ := disconnect_cases moved
  refine ⟨rfl, rfl, ?_, rfl⟩
  unfold RuntimeStatus.serverDisconnected at written
  split at written
  · next entry found =>
    have held : x.service.name ∈ s.runtime.services := Finmap.mem_of_lookup_eq_some found
    split at written
    · cases written
      rfl
    · obtain ⟨event, -, rfl⟩ := Option.map_eq_some_iff.mp written
      exact keys_insert_of_mem held _
  · cases written
    rfl

/-- No connection and no session touches the service table or the registry keys. -/
theorem undisturbed_of_step {a : Action D} (idle : s.reload = .idle) (calm : NoReload s a)
    (moved : step digest s a = some t) : Undisturbed s t := by
  by_cases updates : a.updates = true
  · cases a with
    | connect c now =>
      obtain ⟨source, d, key, service, -, rfl | ⟨entry, found, rfl⟩⟩ := connect_cases moved
      · exact ⟨rfl, rfl, rfl, rfl⟩
      · have held : service.name ∈ s.runtime.services := Finmap.mem_of_lookup_eq_some found
        exact ⟨rfl, rfl, keys_insert_of_mem held _, rfl⟩
    | register c =>
      obtain ⟨source, d, key, service, stamp, -, rfl⟩ := register_cases moved
      exact ⟨rfl, rfl, rfl, rfl⟩
    | deadline c =>
      obtain ⟨source, phase, -, -, rfl⟩ := deadline_cases moved
      exact ⟨rfl, rfl, rfl, rfl⟩
    | endTask c stuck =>
      obtain ⟨x, y, -, -, rfl⟩ := onSession_cases moved
      exact ⟨rfl, rfl, rfl, rfl⟩
    | disconnect c now => exact undisturbed_disconnect moved
    | reload e => exact absurd rfl (calm e)
    | reloadServices =>
      obtain ⟨-, moved⟩ := Option.ite_none_right_eq_some.mp moved
      rw [idle] at moved
      cases moved
    | reloadChannels =>
      obtain ⟨-, moved⟩ := Option.ite_none_right_eq_some.mp moved
      rw [idle] at moved
      cases moved
    | _ => cases updates
  · have quiet := quiet_of_step moved (Bool.eq_false_iff.mpr updates)
    exact ⟨quiet.config, quiet.services, congrArg Finmap.keys quiet.entries, quiet.reload⟩

/-- Until its first hot reload a server holds the tables it was started with. -/
theorem serves_of_run (injective : Function.Injective digest) {config : ServerConfig}
    {entries : List (String × ServerServiceConfig)} {processId now : Nat}
    (enumerates : Enumerates entries config.services)
    (names : ∀ name service, config.services.lookup name = some service → service.name = name)
    {as : List (Action D)}
    (run : (system digest).Run NoReload (.start digest config entries processId now) as s) :
    s.reload = .idle ∧ Serves digest config s := by
  have started : Serves digest config (.start digest config entries processId now) :=
    .start injective enumerates processId now names
  apply run.invariant (I := fun s => s.reload = .idle ∧ Serves digest config s) _ ⟨rfl, started⟩
  rintro s a t calm moved ⟨idle, serves⟩
  have same := undisturbed_of_step idle calm moved
  refine ⟨same.reload.trans idle, by rw [same.config]; exact serves.section_, ?_⟩
  intro entries enumerates processId now
  rw [same.services, same.registry]
  exact serves.fresh entries enumerates processId now

/-- A server of the section before its first hot reload, at a moment when no task holds
a guard of its tables. -/
def Built (digest : List UInt8 → D) (config : ServerConfig) (s : State D) : Prop :=
  ∃ entries processId now as, Enumerates entries config.services ∧
    (system digest).Run NoReload (.start digest config entries processId now) as s ∧
    s.serviceReaders = [] ∧ s.channelReaders = []

theorem Built.current (injective : Function.Injective digest) {config : ServerConfig}
    (names : ∀ name service, config.services.lookup name = some service → service.name = name)
    (built : Built digest config s) : Steady digest s ∧ Serves digest config s := by
  obtain ⟨entries, processId, now, as, enumerates, run, serviceReaders, channelReaders⟩ := built
  obtain ⟨idle, serves⟩ := serves_of_run injective enumerates names run
  have reached : (system digest).Reachable s :=
    ⟨_, as, ⟨config, entries, processId, now, enumerates, names, rfl⟩, run.free⟩
  exact ⟨⟨idle, serviceReaders, channelReaders, (named_of_reach reached).services⟩, serves⟩

end Undisturbed

/-- The service, the registry entry and the control channel under a name. -/
def State.under (digest : List UInt8 → D) (s : State D) (name : String) :
    Option ServerServiceConfig × Option RuntimeStatus.RuntimeServiceSnapshot × Option Handle :=
  (s.services.lookup (digest (asBytes name)), s.runtime.services.lookup name,
    s.controlChannels.get1 (digest (asBytes name)))

theorem hotReload_add {cfg : ServerServiceConfig} (steady : Steady digest s) :
    s.hotReload digest (.serverChange (.add cfg)) = some { s with
      runtime := RuntimeStatus.serverAdd s.runtime cfg.name
      services := s.services.insert (digest (asBytes cfg.name)) cfg
      controlChannels := (s.controlChannels.remove1 (digest (asBytes cfg.name))).2
      stamp := s.stamp + 1 } := by
  simp [State.hotReload, State.handleHotReload, State.reloadServices, State.reloadChannels,
    steady.serviceReaders, steady.channelReaders, steady.idle]

theorem hotReload_delete {name : String} (steady : Steady digest s) :
    s.hotReload digest (.serverChange (.delete name)) = some { s with
      runtime := RuntimeStatus.remove s.runtime name
      services := s.services.erase (digest (asBytes name))
      controlChannels := (s.controlChannels.remove1 (digest (asBytes name))).2
      stamp := s.stamp + 1 } := by
  simp [State.hotReload, State.handleHotReload, State.reloadServices, State.reloadChannels,
    steady.serviceReaders, steady.channelReaders, steady.idle]

theorem hotReload_ignored {e : ConfigChange} (other : serverKey e = none) :
    s.hotReload digest e = some s := by
  unfold State.hotReload
  split
  · next change => cases change <;> cases other
  · next special =>
    unfold State.handleHotReload
    split
    · cases other
    · cases other
    · rfl

/-- An event settles the three entries under its own name and no others. -/
theorem under_hotReload (injective : Function.Injective digest) {e : ConfigChange} {name : String}
    (steady : Steady digest s) (own : serverKey e = some name)
    (moved : s.hotReload digest e = some t) (other : String) :
    State.under digest t other =
      if other = name then (serverOutcome e, (serverOutcome e).map fun _ => .server .waiting, none)
      else State.under digest s other := by
  have hashed : digest (asBytes other) = digest (asBytes name) ↔ other = name :=
    ⟨fun same => asBytes_injective (injective same), fun same => same ▸ rfl⟩
  unfold serverKey at own
  split at own
  · next cfg =>
    cases own
    rw [hotReload_add steady] at moved
    cases moved
    simp only [State.under, RuntimeStatus.serverAdd, RuntimeStatus.RuntimeSnapshot.setServer,
      lookup_insert_eq, MultiMap.get1_remove1, hashed]
    by_cases same : other = cfg.name
    · simp only [if_pos same, serverOutcome, Option.map_some]
    · simp only [if_neg same]
  · next deleted =>
    cases own
    rw [hotReload_delete steady] at moved
    cases moved
    simp only [State.under, RuntimeStatus.remove, lookup_erase_eq, MultiMap.get1_remove1, hashed]
    by_cases same : other = name
    · simp only [if_pos same, serverOutcome, Option.map_none]
    · simp only [if_neg same]
  · cases own

theorem Steady.hotReload {e : ConfigChange} (steady : Steady digest s)
    (moved : s.hotReload digest e = some t) : Steady digest t := by
  cases own : serverKey e with
  | none =>
    rw [hotReload_ignored own] at moved
    cases moved
    exact steady
  | some name =>
    unfold serverKey at own
    split at own
    · next cfg =>
      rw [hotReload_add steady] at moved
      cases moved
      refine ⟨steady.idle, steady.serviceReaders, steady.channelReaders, fun d service found => ?_⟩
      rw [lookup_insert_eq] at found
      by_cases same : d = digest (asBytes cfg.name)
      · rw [if_pos same] at found
        cases found
        exact same.symm
      · rw [if_neg same] at found
        exact steady.named d service found
    · next deleted =>
      rw [hotReload_delete steady] at moved
      cases moved
      refine ⟨steady.idle, steady.serviceReaders, steady.channelReaders, fun d service found => ?_⟩
      rw [lookup_erase_eq] at found
      by_cases same : d = digest (asBytes deleted)
      · rw [if_pos same] at found
        cases found
      · rw [if_neg same] at found
        exact steady.named d service found
    · cases own

/-- Hot reload changes neither the section it keeps nor any task. -/
theorem frame_hotReload {e : ConfigChange} (steady : Steady digest s)
    (moved : s.hotReload digest e = some t) :
    t.config = s.config ∧ t.sessions = s.sessions ∧ t.conns = s.conns := by
  cases own : serverKey e with
  | none =>
    rw [hotReload_ignored own] at moved
    cases moved
    exact ⟨rfl, rfl, rfl⟩
  | some name =>
    unfold serverKey at own
    split at own
    · rw [hotReload_add steady] at moved
      cases moved
      exact ⟨rfl, rfl, rfl⟩
    · rw [hotReload_delete steady] at moved
      cases moved
      exact ⟨rfl, rfl, rfl⟩
    · cases own

theorem hotReload_enabled (steady : Steady digest s) (e : ConfigChange) :
    ∃ t, s.hotReload digest e = some t ∧ Steady digest t := by
  have enabled : ∃ t, s.hotReload digest e = some t := by
    cases own : serverKey e with
    | none => exact ⟨_, hotReload_ignored own⟩
    | some name =>
      unfold serverKey at own
      split at own
      · exact ⟨_, hotReload_add steady⟩
      · exact ⟨_, hotReload_delete steady⟩
      · cases own
  obtain ⟨t, moved⟩ := enabled
  exact ⟨t, moved, steady.hotReload moved⟩

theorem hotReload_local (injective : Function.Injective digest) :
    Reconcile.Local (Steady digest) (State.hotReload digest) serverKey (State.under digest)
      fun e _ after =>
        after = (serverOutcome e, (serverOutcome e).map fun _ => .server .waiting, none) := by
  constructor
  · intro s e t steady moved
    exact steady.hotReload moved
  · intro s e t name steady moved other
    cases own : serverKey e with
    | none =>
      rw [hotReload_ignored own] at moved
      cases moved
      rfl
    | some named =>
      have apart : name ≠ named := fun same => other (by rw [own, same])
      rw [under_hotReload injective steady own moved, if_neg apart]
  · intro s e t name steady moved own
    rw [under_hotReload injective steady own moved, if_pos rfl]

/-- What a list of service events does to the control channels: those of the services
that stay as they are are left alone, the others are dropped, and no task is touched. -/
structure Reloaded (digest : List UInt8 → D) (old new : ServerConfig) (s t : State D) : Prop where
  kept : ∀ name, old.services.lookup name = new.services.lookup name →
    t.controlChannels.get1 (digest (asBytes name)) =
      s.controlChannels.get1 (digest (asBytes name)) ∧
    t.runtime.services.lookup name = s.runtime.services.lookup name
  dropped : ∀ name, old.services.lookup name ≠ new.services.lookup name →
    t.controlChannels.get1 (digest (asBytes name)) = none
  sessions : t.sessions = s.sessions

/-- Folding the events of two sections through `handle_hot_reload` brings a server of the
old section to the tables of the new one. -/
theorem hot_reload_reconciles (injective : Function.Injective digest) {old new : Config}
    {events : List ConfigChange} (told : ServiceEvents old new events) {o n : ServerConfig}
    (before : old.server = some o) (after : new.server = some n) (steady : Steady digest s)
    (serves : Serves digest o s) : ∃ t, events.foldlM (State.hotReload digest) s = some t ∧
      Steady digest t ∧ Serves digest n t ∧ Reloaded digest o n s t := by
  have acts := hotReload_local injective
  have tells := told.server o n before after
  have total : ∃ t, events.foldlM (State.hotReload digest) s = some t :=
    Reconcile.foldlM_total (fun e _ s steady => hotReload_enabled steady e) steady
  obtain ⟨t, ran⟩ := total
  have settled : Steady digest t := acts.keepAll steady ran
  have framed : t.config = s.config ∧ t.sessions = s.sessions := by
    have both : Steady digest t ∧ t.config = s.config ∧ t.sessions = s.sessions := by
      apply Reconcile.foldlM_invariant
        (I := fun u => Steady digest u ∧ u.config = s.config ∧ u.sessions = s.sessions) _ ran
        ⟨steady, rfl, rfl⟩
      rintro e - u v ⟨here, config, sessions⟩ moved
      obtain ⟨config', sessions', -⟩ := frame_hotReload here moved
      exact ⟨here.hotReload moved, config'.trans config, sessions'.trans sessions⟩
    exact both.2
  have same : ∀ name, o.services.lookup name = n.services.lookup name →
      State.under digest t name = State.under digest s name :=
    fun name => acts.untouched tells steady ran
  have changed : ∀ name, o.services.lookup name ≠ n.services.lookup name →
      State.under digest t name =
        (n.services.lookup name, (n.services.lookup name).map fun _ => .server .waiting, none) := by
    intro name differs
    have told := acts.changed tells steady ran differs
    cases here : n.services.lookup name with
    | none => rwa [here] at told
    | some service => rwa [here] at told
  refine ⟨t, ran, settled, Serves.of_names injective ?_ settled.named (fun name => ?_)
    (fun name => ?_), fun name alike => ?_, fun name differs => ?_, framed.2⟩
  · rw [framed.1, serves.section_]
    exact told.server_alike before after
  · by_cases alike : o.services.lookup name = n.services.lookup name
    · have first := congrArg Prod.fst (same name alike)
      exact first.trans ((serves.lookup injective name).trans alike)
    · exact congrArg Prod.fst (changed name alike)
  · rw [← Finmap.lookup_isSome, ← Finmap.lookup_isSome]
    by_cases alike : o.services.lookup name = n.services.lookup name
    · have second : t.runtime.services.lookup name = s.runtime.services.lookup name :=
        congrArg (fun entry => entry.2.1) (same name alike)
      rw [second, ← alike, Finmap.lookup_isSome, Finmap.lookup_isSome, serves.mem_registry]
    · have second : t.runtime.services.lookup name =
          (n.services.lookup name).map fun _ => .server .waiting :=
        congrArg (fun entry => entry.2.1) (changed name alike)
      rw [second, Option.isSome_map]
  · have entry := same name alike
    exact ⟨congrArg (fun entry => entry.2.2) entry, congrArg (fun entry => entry.2.1) entry⟩
  · exact congrArg (fun entry => entry.2.2) (changed name differs)

end Rathole.Server
