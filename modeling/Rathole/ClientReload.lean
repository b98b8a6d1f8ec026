import Rathole.ClientStatus
import Rathole.ConfigDiff

set_option autoImplicit false

/- Hot reload of the client, one event after the other, against a fresh start with the
new section. -/
namespace Rathole.Client

/-- `handle_hot_reload` from its start to its end; `none` stands for the panic of
`ControlChannelHandle::new`. -/
def State.hotReload (s : State) (e : ConfigChange) : Option State :=
  match e with
  | .clientChange (.add _) => ((s.event e).bind State.spawn).bind State.install
  | .clientChange (.delete _) => (s.event e).bind State.dropHandle
  | _ => s.event e

variable {s t : State}

/-- The steps of the main loop that an event takes. -/
def reloadSteps : ConfigChange → List Action
  | .clientChange (.add cfg) => [.event (.clientChange (.add cfg)), .spawn, .install]
  | .clientChange (.delete name) => [.event (.clientChange (.delete name)), .dropHandle]
  | e => [.event e]

theorem run_of_hotReload {e : ConfigChange} (reloaded : s.hotReload e = some t) :
    system.Run Transition.System.Free s (reloadSteps e) t := by
  unfold State.hotReload at reloaded
  unfold reloadSteps
  split at reloaded
  · next cfg =>
    obtain ⟨v, made, installed⟩ := Option.bind_eq_some_iff.mp reloaded
    obtain ⟨u, begun, spawned⟩ := Option.bind_eq_some_iff.mp made
    exact .cons trivial begun (.cons trivial spawned (.single trivial installed))
  · next name =>
    obtain ⟨u, begun, dropped⟩ := Option.bind_eq_some_iff.mp reloaded
    exact .cons trivial begun (.single trivial dropped)
  · exact .single trivial reloaded

/-- The main loop is at its `select!`, and every handle belongs to a task of its own. -/
structure Steady (s : State) : Prop where
  selecting : s.loop = .selecting
  bounded : Bounded s
  distinct : ∀ name other i, s.serviceHandles.lookup name = some i →
    s.serviceHandles.lookup other = some i → name = other

/-- The client runs the services of the section: one handle, with a task that was not
told to stop, and one registry entry for each. -/
structure Serves (config : ClientConfig) (s : State) : Prop where
  section_ : s.config.withoutServices = config.withoutServices
  handles : ∀ name, name ∈ s.serviceHandles ↔ name ∈ config.services
  runs : ∀ name i, s.serviceHandles.lookup name = some i → ∃ x, s.tasks.lookup i = some x ∧
    x.shutdown = .held ∧ config.services.lookup name = some x.service
  registry : ∀ name, name ∈ s.runtime.services ↔ name ∈ config.services

section Start

variable {config : ClientConfig}

/-- Neither an event nor a shutdown reaches the main loop. -/
def Undisturbed (_ : State) (a : Action) : Prop := a ≠ .shutdown ∧ ∀ e, a ≠ .event e

/-- The loop over `config.services` has `rest` before it. -/
structure Creating (config : ClientConfig) (rest : List (String × ClientServiceConfig))
    (s : State) : Prop where
  same : s.config = config
  nodup : (rest.map Prod.fst).Nodup
  waiting : ∀ e ∈ rest, config.services.lookup e.1 = some e.2 ∧ s.serviceHandles.lookup e.1 = none
  handles : ∀ name, name ∈ config.services ↔ name ∈ s.serviceHandles ∨ name ∈ rest.map Prod.fst
  runs : ∀ name i, s.serviceHandles.lookup name = some i → ∃ x, s.tasks.lookup i = some x ∧
    x.shutdown = .held ∧ config.services.lookup name = some x.service
  distinct : ∀ name other i, s.serviceHandles.lookup name = some i →
    s.serviceHandles.lookup other = some i → name = other
  registry : ∀ name, name ∈ s.runtime.services ↔ name ∈ config.services

def Started (config : ClientConfig) (s : State) : Prop :=
  ∃ rest, Creating config rest s ∧ (s.loop = .starting rest ∨ s.loop = .selecting ∧ rest = [])

theorem Creating.start {entries : List (String × ClientServiceConfig)}
    (enumerates : Enumerates entries config.services) (processId now : Nat) :
    Creating config entries (.start config entries processId now) := by
  have mem_entries : ∀ name, name ∈ config.services ↔ name ∈ entries.map Prod.fst := by
    intro name
    rw [← Finmap.lookup_isSome, Option.isSome_iff_exists, List.mem_map]
    constructor
    · rintro ⟨service, found⟩
      exact ⟨(name, service), (enumerates.mem_iff name service).mpr found, rfl⟩
    · rintro ⟨⟨other, service⟩, member, rfl⟩
      exact ⟨service, (enumerates.mem_iff other service).mp member⟩
  have empty : ∀ name, (State.start config entries processId now).serviceHandles.lookup name = none :=
    fun name => Finmap.lookup_empty name
  refine ⟨rfl, enumerates.nodup, fun e member => ⟨(enumerates.mem_iff e.1 e.2).mp member, empty e.1⟩,
    fun name => ?_, fun name i held => ?_, fun name other i held => ?_, fun name => ?_⟩
  · rw [mem_entries, ← Finmap.lookup_isSome, empty]
    simp
  · rw [empty] at held
    cases held
  · rw [empty] at held
    cases held
  · rw [mem_entries]
    exact RuntimeStatus.mem_collect _ _ _

theorem Creating.next {name : String} {service : ClientServiceConfig}
    {rest : List (String × ClientServiceConfig)} (creating : Creating config ((name, service) :: rest) s)
    (bounded : Bounded s) : Creating config rest { s with
      loop := .starting rest
      tasks := s.tasks.insert s.count (.new service)
      count := s.count + 1
      serviceHandles := s.serviceHandles.insert name s.count } := by
  obtain ⟨fresh, nodup⟩ := List.nodup_cons.mp creating.nodup
  obtain ⟨configured, vacant⟩ := creating.waiting _ List.mem_cons_self
  have unused : ∀ other, s.serviceHandles.lookup other ≠ some s.count := fun other held =>
    Nat.lt_irrefl _ (bounded.handles other s.count held)
  refine ⟨creating.same, nodup, fun e member => ?_, fun other => ?_, fun other i held => ?_,
    fun first second i held held' => ?_, creating.registry⟩
  · obtain ⟨found, free⟩ := creating.waiting e (List.mem_cons_of_mem _ member)
    refine ⟨found, ?_⟩
    rw [lookup_insert_eq, if_neg, free]
    intro same
    exact fresh (List.mem_map.mpr ⟨e, member, same⟩)
  · rw [creating.handles, Finmap.mem_insert, List.map_cons, List.mem_cons]
    tauto
  · rw [lookup_insert_eq] at held
    rw [lookup_insert_eq]
    by_cases same : other = name
    · rw [if_pos same] at held
      cases held
      exact ⟨.new service, if_pos rfl, rfl, same ▸ configured⟩
    · rw [if_neg same] at held
      have older : i ≠ s.count := fun here => unused other (here ▸ held)
      rw [if_neg older]
      exact creating.runs other i held
  · rw [lookup_insert_eq] at held held'
    by_cases same : first = name
    · by_cases same' : second = name
      · rw [same, same']
      · rw [if_pos same] at held
        rw [if_neg same', ← held] at held'
        exact absurd held' (unused second)
    · by_cases same' : second = name
      · rw [if_pos same'] at held'
        rw [if_neg same, ← held'] at held
        exact absurd held (unused first)
      · rw [if_neg same] at held
        rw [if_neg same'] at held'
        exact creating.distinct first second i held held'

/-- The tasks change neither the handles nor the registry keys. -/
theorem Creating.task {rest : List (String × ClientServiceConfig)} {i : Nat} {a : TaskAction}
    (creating : Creating config rest s) (moved : s.task i a = some t) :
    Creating config rest t ∧ t.loop = s.loop := by
  obtain ⟨x, y, found, stepped, called⟩ := task_cases moved
  have fixed := step_fixed stepped
  have runs : ∀ name j, s.serviceHandles.lookup name = some j →
      ∃ z, (s.tasks.insert i y).lookup j = some z ∧ z.shutdown = .held ∧
        config.services.lookup name = some z.service := by
    intro name j held
    obtain ⟨z, before, open_, configured⟩ := creating.runs name j held
    rw [lookup_insert_eq]
    by_cases same : j = i
    · subst same
      cases found.symm.trans before
      exact ⟨y, if_pos rfl, fixed.2.trans open_, fixed.1.symm ▸ configured⟩
    · exact ⟨z, by rw [if_neg same, before], open_, configured⟩
  obtain ⟨-, rfl⟩ | ⟨call, runtime, -, applied, rfl⟩ := called
  · exact ⟨⟨creating.same, creating.nodup, creating.waiting, creating.handles, runs,
      creating.distinct, creating.registry⟩, rfl⟩
  · obtain ⟨f, rfl, -⟩ := call.apply_modifies applied
    refine ⟨⟨creating.same, creating.nodup, creating.waiting, creating.handles, runs,
      creating.distinct, fun name => ?_⟩, rfl⟩
    rw [← creating.registry, ← Finmap.lookup_isSome, ← Finmap.lookup_isSome,
      RuntimeStatus.lookup_modifyClient]
    by_cases same : name = x.service.name
    · rw [if_pos same, Option.isSome_map, same]
    · rw [if_neg same]

theorem Started.step {a : Action} (started : Started config s) (bounded : Bounded s)
    (calm : Undisturbed s a) (moved : step s a = some t) : Started config t := by
  obtain ⟨rest, creating, loop⟩ := started
  cases a with
  | createNext =>
    obtain ⟨name, service, later, u, starting, made, rfl⟩ := createNext_cases moved
    have here : rest = (name, service) :: later := by
      rcases loop with loop | ⟨loop, -⟩
      · exact MainLoop.starting.inj (loop.symm.trans starting)
      · cases loop.symm.trans starting
    subst here
    have created := newHandle_cases made
    have vacant : u.serviceHandles.lookup name = none := by
      rw [created]
      exact (creating.waiting _ List.mem_cons_self).2
    rw [insertHandle_vacant _ _ vacant, created]
    exact ⟨later, creating.next bounded, .inl rfl⟩
  | created =>
    obtain ⟨starting, ⟨⟩⟩ := Option.ite_none_right_eq_some.mp moved
    have done : rest = [] := by
      rcases loop with loop | ⟨-, done⟩
      · exact MainLoop.starting.inj (loop.symm.trans starting)
      · exact done
    exact ⟨rest, ⟨creating.same, creating.nodup, creating.waiting, creating.handles, creating.runs,
      creating.distinct, creating.registry⟩, .inr ⟨rfl, done⟩⟩
  | event e => exact absurd rfl (calm.2 e)
  | shutdown => exact absurd rfl calm.1
  | spawn =>
    obtain ⟨cfg, adding, -⟩ := spawn_cases moved
    rcases loop with loop | ⟨loop, -⟩ <;> cases loop.symm.trans adding
  | install =>
    obtain ⟨name, i, spawned, -⟩ := install_cases moved
    rcases loop with loop | ⟨loop, -⟩ <;> cases loop.symm.trans spawned
  | dropHandle =>
    obtain ⟨name, deleting, -⟩ := dropHandle_cases moved
    rcases loop with loop | ⟨loop, -⟩ <;> cases loop.symm.trans deleting
  | drain name =>
    obtain ⟨⟨draining, -⟩, -⟩ := Option.ite_none_right_eq_some.mp moved
    rcases loop with loop | ⟨loop, -⟩ <;> cases loop.symm.trans draining
  | drained =>
    obtain ⟨⟨draining, -⟩, -⟩ := Option.ite_none_right_eq_some.mp moved
    rcases loop with loop | ⟨loop, -⟩ <;> cases loop.symm.trans draining
  | task i a =>
    obtain ⟨after, same⟩ := creating.task moved
    rw [← same] at loop
    exact ⟨rest, after, loop⟩

/-- A client that reached its `select!` runs the services of the section it was started
from, until the first hot reload. -/
theorem serves_of_run {entries : List (String × ClientServiceConfig)} {processId now : Nat}
    (enumerates : Enumerates entries config.services) {as : List Action}
    (run : system.Run Undisturbed (.start config entries processId now) as s)
    (selecting : s.loop = .selecting) : Steady s ∧ Serves config s := by
  have both : Bounded s ∧ Started config s := by
    apply run.invariant (I := fun s => Bounded s ∧ Started config s) _
    · exact ⟨bounded_start config entries processId now,
        entries, .start enumerates processId now, .inl rfl⟩
    · rintro s a t calm moved ⟨bounded, started⟩
      exact ⟨bounded.step moved, started.step bounded calm moved⟩
  obtain ⟨bounded, rest, creating, loop⟩ := both
  have done : rest = [] := by
    rcases loop with loop | ⟨-, done⟩
    · cases selecting.symm.trans loop
    · exact done
  subst done
  refine ⟨⟨selecting, bounded, creating.distinct⟩, by rw [creating.same], fun name => ?_,
    creating.runs, creating.registry⟩
  rw [creating.handles, List.map_nil, or_iff_left List.not_mem_nil]

/-- A client of the section at its `select!`, before its first hot reload. -/
def Built (config : ClientConfig) (s : State) : Prop :=
  ∃ entries processId now as, Enumerates entries config.services ∧
    system.Run Undisturbed (.start config entries processId now) as s ∧ s.loop = .selecting

theorem Built.current (built : Built config s) : Steady s ∧ Serves config s := by
  obtain ⟨entries, processId, now, as, enumerates, run, selecting⟩ := built
  exact serves_of_run enumerates run selecting

/-- The loop over `config.services` gets to its end. -/
theorem exists_created {rest : List (String × ClientServiceConfig)}
    (filled : ∀ e ∈ rest, e.2.retryInterval.isSome) (starting : s.loop = .starting rest) :
    ∃ as t, system.Run Undisturbed s as t ∧ t.loop = .selecting := by
  induction rest generalizing s with
  | nil =>
    have moved : system.step s .created = some { s with loop := .selecting } := if_pos starting
    refine ⟨[.created], _, .single ⟨(fun same => nomatch same), fun _ same => nomatch same⟩ moved, rfl⟩
  | cons e rest ih =>
    obtain ⟨name, service⟩ := e
    have retry : service.retryInterval.isSome := filled _ List.mem_cons_self
    have moved : ∃ t, system.step s .createNext = some t ∧ t.loop = .starting rest := by
      have made : s.newHandle service (.starting rest) = some { s with
          loop := .starting rest
          tasks := s.tasks.insert s.count (.new service)
          count := s.count + 1 } := if_pos retry
      have created : s.createNext = (s.newHandle service (.starting rest)).map fun t =>
          t.insertHandle name s.count (.starting rest) := by
        unfold State.createNext
        rw [starting]
      refine ⟨_, created.trans (congrArg _ made), rfl⟩
    obtain ⟨t, moved, next⟩ := moved
    obtain ⟨as, u, run, selecting⟩ :=
      ih (fun e member => filled e (List.mem_cons_of_mem _ member)) next
    exact ⟨.createNext :: as, u,
      .cons ⟨(fun same => nomatch same), fun _ same => nomatch same⟩ moved run, selecting⟩

theorem exists_built (filled : ∀ name service, config.services.lookup name = some service →
    service.retryInterval.isSome) : ∃ s, Built config s := by
  have enumerates := HashOrder.some.enumerates config.services
  have retry : ∀ e ∈ HashOrder.some.entries config.services, e.2.retryInterval.isSome :=
    fun e member => filled e.1 e.2 ((enumerates.mem_iff e.1 e.2).mp member)
  obtain ⟨as, s, run, selecting⟩ :=
    exists_created (s := .start config (HashOrder.some.entries config.services) 0 0) retry rfl
  exact ⟨s, _, 0, 0, as, enumerates, run, selecting⟩

/-- Two clients of one section have the same handle keys and registry keys. -/
theorem Serves.keys (left : Serves config s) (right : Serves config t) :
    s.serviceHandles.keys = t.serviceHandles.keys ∧
      s.runtime.services.keys = t.runtime.services.keys := by
  constructor
  · apply Finset.ext
    intro name
    rw [Finmap.mem_keys, Finmap.mem_keys, left.handles, right.handles]
  · apply Finset.ext
    intro name
    rw [Finmap.mem_keys, Finmap.mem_keys, left.registry, right.registry]

end Start

/-- What an event does to the handles, the tasks and the registry. -/
structure Handled (s : State) (e : ConfigChange) (t : State) : Prop where
  config : t.config = s.config
  loop : t.loop = .selecting
  count : s.count ≤ t.count
  handles : ∀ name, t.serviceHandles.lookup name =
    if clientKey e = some name then (clientOutcome e).map fun _ => s.count
    else s.serviceHandles.lookup name
  tasks : ∀ i, i < s.count → t.tasks.lookup i =
    if (clientKey e).bind s.serviceHandles.lookup = some i then
      (s.tasks.lookup i).map (·.release .dropped)
    else s.tasks.lookup i
  spawned : ∀ cfg, clientOutcome e = some cfg → t.tasks.lookup s.count = some (.new cfg)
  registry : ∀ name, t.runtime.services.lookup name =
    if clientKey e = some name then
      (clientOutcome e).map fun _ => .client (.stopped s.config.remoteAddr)
    else s.runtime.services.lookup name

theorem release_config (s : State) (name : String) (tx : ShutdownTx) :
    (s.release name tx).config = s.config := by
  unfold State.release
  split <;> rfl

theorem handled_add {cfg : ClientServiceConfig} (steady : Steady s)
    (retry : cfg.retryInterval.isSome) :
    ∃ t, s.hotReload (.clientChange (.add cfg)) = some t ∧
      Handled s (.clientChange (.add cfg)) t := by
  let e : ConfigChange := .clientChange (.add cfg)
  let u : State := { s with
    loop := .spawned cfg.name s.count
    runtime := RuntimeStatus.clientAdd s.runtime cfg.name s.config.remoteAddr
    tasks := s.tasks.insert s.count (.new cfg)
    count := s.count + 1 }
  have begun : s.event e = some { s with
      loop := .adding cfg
      runtime := RuntimeStatus.clientAdd s.runtime cfg.name s.config.remoteAddr } :=
    if_pos steady.selecting
  have made : (s.event e).bind State.spawn = some u := by
    rw [begun, Option.bind_some]
    exact if_pos retry
  have moved : s.hotReload e = some (u.insertHandle cfg.name s.count .selecting) := by
    change ((s.event e).bind State.spawn).bind State.install = _
    rw [made]
    rfl
  have fields := release_fields u cfg.name .dropped
  have own : ∀ name, clientKey (.clientChange (.add cfg)) = some name ↔ name = cfg.name :=
    fun name => ⟨fun same => (Option.some.inj same).symm, fun same => congrArg some same.symm⟩
  have unheld : ∀ name, s.serviceHandles.lookup name ≠ some s.count := fun name held =>
    Nat.lt_irrefl _ (steady.bounded.handles name s.count held)
  refine ⟨_, moved, release_config u cfg.name .dropped, rfl, ?_, fun name => ?_, fun i below => ?_,
    fun other same => ?_, fun name => ?_⟩
  · exact Nat.le_of_lt (Nat.lt_of_lt_of_eq (Nat.lt_succ_self _) fields.2.1.symm)
  · change (s.serviceHandles.insert cfg.name s.count).lookup name = _
    rw [lookup_insert_eq]
    exact (if_congr (own name) rfl rfl).symm
  · have old : u.tasks.lookup i = s.tasks.lookup i := by
      change (s.tasks.insert s.count (.new cfg)).lookup i = _
      rw [lookup_insert_eq, if_neg (Nat.ne_of_lt below)]
    change (u.release cfg.name .dropped).tasks.lookup i = _
    rw [lookup_release, old]
    rfl
  · cases same
    change (u.release cfg.name .dropped).tasks.lookup s.count = _
    rw [lookup_release, if_neg (unheld cfg.name)]
    exact Finmap.lookup_insert _
  · change (u.release cfg.name .dropped).runtime.services.lookup name = _
    rw [fields.2.2.1]
    change (s.runtime.services.insert cfg.name _).lookup name = _
    rw [lookup_insert_eq]
    exact (if_congr (own name) rfl rfl).symm

theorem handled_delete {name : String} (steady : Steady s) :
    ∃ t, s.hotReload (.clientChange (.delete name)) = some t ∧
      Handled s (.clientChange (.delete name)) t := by
  let e : ConfigChange := .clientChange (.delete name)
  let u : State := { s with
    loop := .deleting name
    runtime := RuntimeStatus.remove s.runtime name }
  have begun : s.event e = some u := if_pos steady.selecting
  have moved : s.hotReload e = some { u.release name .dropped with
      loop := .selecting
      serviceHandles := s.serviceHandles.erase name } := by
    change (s.event e).bind State.dropHandle = _
    rw [begun]
    rfl
  have fields := release_fields u name .dropped
  have own : ∀ other, clientKey (.clientChange (.delete name)) = some other ↔ other = name :=
    fun other => ⟨fun same => (Option.some.inj same).symm, fun same => congrArg some same.symm⟩
  refine ⟨_, moved, release_config u name .dropped, rfl, Nat.le_of_eq fields.2.1.symm,
    fun other => ?_, fun i below => ?_, (fun _ same => nomatch same), fun other => ?_⟩
  · change (s.serviceHandles.erase name).lookup other = _
    rw [lookup_erase_eq]
    exact (if_congr (own other) rfl rfl).symm
  · change (u.release name .dropped).tasks.lookup i = _
    rw [lookup_release]
    rfl
  · change (u.release name .dropped).runtime.services.lookup other = _
    rw [fields.2.2.1]
    change (s.runtime.services.erase name).lookup other = _
    rw [lookup_erase_eq]
    exact (if_congr (own other) rfl rfl).symm

theorem hotReload_ignored {e : ConfigChange} (steady : Steady s) (other : clientKey e = none) :
    s.hotReload e = some s := by
  have ignored : s.event e = some s := by
    unfold State.event
    rw [if_pos steady.selecting]
    split
    · cases other
    · cases other
    · rfl
  unfold State.hotReload
  split
  · cases other
  · cases other
  · exact ignored

theorem handled_ignored {e : ConfigChange} (steady : Steady s) (other : clientKey e = none) :
    Handled s e s := by
  have silent : clientOutcome e = none := by
    unfold clientOutcome
    split
    · cases other
    · rfl
  refine ⟨rfl, steady.selecting, Nat.le_refl _, fun name => ?_, fun i _ => ?_, fun cfg same => ?_,
    fun name => ?_⟩
  · rw [if_neg (by rw [other]; exact nofun)]
  · rw [other, Option.bind_none, if_neg nofun]
  · rw [silent] at same
    cases same
  · rw [if_neg (by rw [other]; exact nofun)]

/-- An event is handled unless the service it adds has no retry interval. -/
theorem hotReload_handled {e : ConfigChange} (steady : Steady s)
    (retry : ∀ cfg, clientOutcome e = some cfg → cfg.retryInterval.isSome) :
    ∃ t, s.hotReload e = some t ∧ Handled s e t := by
  cases own : clientKey e with
  | none => exact ⟨s, hotReload_ignored steady own, handled_ignored steady own⟩
  | some name =>
    unfold clientKey at own
    split at own
    · next cfg => exact handled_add steady (retry cfg rfl)
    · exact handled_delete steady
    · cases own

theorem handled_of_hotReload {e : ConfigChange} (steady : Steady s) (moved : s.hotReload e = some t) :
    Handled s e t := by
  have retry : ∀ cfg, clientOutcome e = some cfg → cfg.retryInterval.isSome := by
    intro cfg adds
    unfold clientOutcome at adds
    split at adds
    · next same =>
      cases adds
      change ((s.event _).bind State.spawn).bind State.install = some t at moved
      obtain ⟨u, made, -⟩ := Option.bind_eq_some_iff.mp moved
      obtain ⟨v, begun, spawned⟩ := Option.bind_eq_some_iff.mp made
      obtain ⟨-, begun⟩ := Option.ite_none_right_eq_some.mp begun
      cases begun
      exact (Option.ite_none_right_eq_some.mp spawned).1
    · cases adds
  obtain ⟨t', moved', handled⟩ := hotReload_handled steady retry
  cases moved.symm.trans moved'
  exact handled

section Handled

variable {e : ConfigChange}

theorem Handled.handle_old (handled : Handled s e t) {name : String} {i : Nat}
    (held : t.serviceHandles.lookup name = some i) :
    clientKey e = some name ∧ i = s.count ∧ (∃ cfg, clientOutcome e = some cfg) ∨
      clientKey e ≠ some name ∧ s.serviceHandles.lookup name = some i := by
  rw [handled.handles] at held
  by_cases own : clientKey e = some name
  · rw [if_pos own] at held
    obtain ⟨cfg, adds, rfl⟩ := Option.map_eq_some_iff.mp held
    exact .inl ⟨own, rfl, cfg, adds⟩
  · rw [if_neg own] at held
    exact .inr ⟨own, held⟩

theorem Steady.hotReload (steady : Steady s) (moved : s.hotReload e = some t) : Steady t := by
  have handled := handled_of_hotReload steady moved
  have bounded : Bounded t :=
    (run_of_hotReload moved).invariant (fun _ _ _ _ moved bounded => bounded.step moved)
      steady.bounded
  have unused : ∀ name, s.serviceHandles.lookup name ≠ some s.count := fun name held =>
    Nat.lt_irrefl _ (steady.bounded.handles name s.count held)
  refine ⟨handled.loop, bounded, fun name other i first second => ?_⟩
  rcases handled.handle_old first with ⟨own, rfl, -⟩ | ⟨-, old⟩
  · rcases handled.handle_old second with ⟨own', -, -⟩ | ⟨-, old'⟩
    · exact Option.some.inj (own.symm.trans own')
    · exact absurd old' (unused other)
  · rcases handled.handle_old second with ⟨own', rfl, -⟩ | ⟨-, old'⟩
    · exact absurd old (unused name)
    · exact steady.distinct name other i old old'

/-- The handle under a name with its task, and the registry entry. -/
def State.under (s : State) (name : String) :
    Option (Nat × Option Task) × Option RuntimeStatus.RuntimeServiceSnapshot :=
  ((s.serviceHandles.lookup name).map fun i => (i, s.tasks.lookup i),
    s.runtime.services.lookup name)

/-- An event leaves a task of its own, or nothing, at its name. -/
def Settles (e : ConfigChange) (after : Option (Nat × Option Task) ×
    Option RuntimeStatus.RuntimeServiceSnapshot) : Prop :=
  match clientOutcome e with
  | some cfg => ∃ i remoteAddr,
    after = (some (i, some (.new cfg)), some (.client (.stopped remoteAddr)))
  | none => after = (none, none)

theorem mem_handles (s : State) (name : String) :
    name ∈ s.serviceHandles ↔ (s.under name).1.isSome := by
  rw [State.under, Option.isSome_map, Finmap.lookup_isSome]

theorem mem_registry (s : State) (name : String) :
    name ∈ s.runtime.services ↔ (s.under name).2.isSome := by
  rw [State.under, Finmap.lookup_isSome]

/-- After its event a name has a handle and an entry just when it has a service. -/
theorem Settles.presence {name : String} {service : Option ClientServiceConfig}
    {after : Option (Nat × Option Task) × Option RuntimeStatus.RuntimeServiceSnapshot}
    (settles : Settles (tell ClientConfig name service) after) :
    (after.1.isSome ↔ service.isSome) ∧ (after.2.isSome ↔ service.isSome) := by
  cases service with
  | none =>
    obtain rfl : after = (none, none) := settles
    exact ⟨Iff.rfl, Iff.rfl⟩
  | some cfg =>
    obtain ⟨i, remoteAddr, rfl⟩ := settles
    exact ⟨Iff.rfl, Iff.rfl⟩

theorem Settles.task {name : String} {service : Option ClientServiceConfig} {i : Nat}
    {task : Option Task}
    {after : Option (Nat × Option Task) × Option RuntimeStatus.RuntimeServiceSnapshot}
    (settles : Settles (tell ClientConfig name service) after) (held : after.1 = some (i, task)) :
    ∃ cfg, task = some (.new cfg) ∧ service = some cfg := by
  cases service with
  | none =>
    obtain rfl : after = (none, none) := settles
    cases held
  | some cfg =>
    obtain ⟨j, remoteAddr, rfl⟩ := settles
    cases held
    exact ⟨cfg, rfl, rfl⟩

theorem hotReload_local :
    Reconcile.Local Steady State.hotReload clientKey State.under fun e _ after => Settles e after := by
  constructor
  · intro s e t steady moved
    exact steady.hotReload moved
  · intro s e t name steady moved other
    have handled := handled_of_hotReload steady moved
    have handle : t.serviceHandles.lookup name = s.serviceHandles.lookup name := by
      rw [handled.handles, if_neg other]
    have entry : t.runtime.services.lookup name = s.runtime.services.lookup name := by
      rw [handled.registry, if_neg other]
    rw [State.under, State.under, handle, entry]
    cases held : s.serviceHandles.lookup name with
    | none => rfl
    | some i =>
      have task : t.tasks.lookup i = s.tasks.lookup i := by
        rw [handled.tasks i (steady.bounded.handles name i held), if_neg]
        intro released
        obtain ⟨named, own, held'⟩ := Option.bind_eq_some_iff.mp released
        exact other (steady.distinct named name i held' held ▸ own)
      rw [Option.map_some, Option.map_some, task]
  · intro s e t name steady moved own
    have handled := handled_of_hotReload steady moved
    rw [Settles, State.under, handled.handles, if_pos own, handled.registry, if_pos own]
    cases adds : clientOutcome e with
    | none => rfl
    | some cfg =>
      refine ⟨s.count, s.config.remoteAddr, ?_⟩
      rw [Option.map_some, Option.map_some, Option.map_some, handled.spawned cfg adds]

/-- A task without a handle is left alone. -/
theorem unheld_kept {events : List ConfigChange} {i : Nat} {x : Option Task} (steady : Steady s)
    (below : i < s.count) (unheld : ∀ name, s.serviceHandles.lookup name ≠ some i)
    (found : s.tasks.lookup i = x) (ran : events.foldlM State.hotReload s = some t) :
    t.tasks.lookup i = x ∧ ∀ name, t.serviceHandles.lookup name ≠ some i := by
  have kept : Steady t ∧ i < t.count ∧ (∀ name, t.serviceHandles.lookup name ≠ some i) ∧
      t.tasks.lookup i = x := by
    apply Reconcile.foldlM_invariant (I := fun u => Steady u ∧ i < u.count ∧
      (∀ name, u.serviceHandles.lookup name ≠ some i) ∧ u.tasks.lookup i = x) _ ran
      ⟨steady, below, unheld, found⟩
    rintro e - u v ⟨here, below, unheld, found⟩ moved
    have handled := handled_of_hotReload here moved
    refine ⟨here.hotReload moved, Nat.lt_of_lt_of_le below handled.count, fun name held => ?_, ?_⟩
    · rcases handled.handle_old held with ⟨-, rfl, -⟩ | ⟨-, old⟩
      · exact Nat.lt_irrefl _ below
      · exact unheld name old
    · rw [handled.tasks i below, if_neg, found]
      intro released
      obtain ⟨name, -, held⟩ := Option.bind_eq_some_iff.mp released
      exact unheld name held
  exact ⟨kept.2.2.2, kept.2.2.1⟩

end Handled

/-- What a list of service events does to the handles: those of the services that stay as
they are are left alone with their tasks, the others are dropped. -/
structure Reloaded (old new : ClientConfig) (s t : State) : Prop where
  kept : ∀ name, old.services.lookup name = new.services.lookup name →
    t.serviceHandles.lookup name = s.serviceHandles.lookup name ∧
    (∀ i, s.serviceHandles.lookup name = some i → t.tasks.lookup i = s.tasks.lookup i) ∧
    t.runtime.services.lookup name = s.runtime.services.lookup name
  dropped : ∀ name i, old.services.lookup name ≠ new.services.lookup name →
    s.serviceHandles.lookup name = some i →
    t.tasks.lookup i = (s.tasks.lookup i).map (·.release .dropped) ∧
    ∀ name, t.serviceHandles.lookup name ≠ some i

section Fold

variable {old new : ClientConfig} {events : List ConfigChange}

/-- The task whose service changed or went sees its handle dropped, and no later event
brings it back. -/
theorem dropped_of_differs
    (tells : Reconcile.Tells clientKey (tell ClientConfig) old.services.lookup new.services.lookup
      events) (steady : Steady s) (ran : events.foldlM State.hotReload s = some t) {name : String}
    {i : Nat} (differs : old.services.lookup name ≠ new.services.lookup name)
    (held : s.serviceHandles.lookup name = some i) :
    t.tasks.lookup i = (s.tasks.lookup i).map (·.release .dropped) ∧
      ∀ name, t.serviceHandles.lookup name ≠ some i := by
  obtain ⟨u, v, later, here, same, moved, rest, -⟩ :=
    hotReload_local.reached tells steady ran differs
  have own := (tells.complete name differs).2
  have handled := handled_of_hotReload here moved
  have before : (u.serviceHandles.lookup name).map (fun i => (i, u.tasks.lookup i)) =
      some (i, s.tasks.lookup i) := by
    have first := congrArg Prod.fst same
    rwa [State.under, State.under, held] at first
  obtain ⟨j, held', pair⟩ := Option.map_eq_some_iff.mp before
  obtain ⟨rfl, task⟩ := Prod.mk.inj pair
  have below : j < u.count := here.bounded.handles name j held'
  have released : v.tasks.lookup j = (s.tasks.lookup j).map (·.release .dropped) := by
    rw [handled.tasks j below, if_pos, task]
    rw [own]
    exact held'
  have unheld : ∀ other, v.serviceHandles.lookup other ≠ some j := by
    intro other holds
    rcases handled.handle_old holds with ⟨-, rfl, -⟩ | ⟨away, old⟩
    · exact Nat.lt_irrefl _ below
    · exact away (here.distinct name other j held' old ▸ own)
  exact unheld_kept (here.hotReload moved) (Nat.lt_of_lt_of_le below handled.count) unheld released
    rest

theorem adds_of_tells
    (tells : Reconcile.Tells clientKey (tell ClientConfig) old.services.lookup new.services.lookup
      events) {e : ConfigChange} (member : e ∈ events) {cfg : ClientServiceConfig}
    (adds : clientOutcome e = some cfg) : new.services.lookup cfg.name = some cfg := by
  unfold clientOutcome at adds
  split at adds
  · next added =>
    cases adds
    obtain ⟨-, same⟩ := tells.sound _ member cfg.name rfl
    cases here : new.services.lookup cfg.name with
    | none =>
      rw [here] at same
      cases same
    | some service =>
      rw [here] at same
      cases same
      rfl
  · cases adds

/-- Folding the events of two sections through `handle_hot_reload` brings a client of the
old section to the handles and the registry of the new one. -/
theorem hot_reload_reconciles {before after : Config} (told : ServiceEvents before after events)
    (filled : after.Filled) (had : before.client = some old) (has : after.client = some new)
    (steady : Steady s) (serves : Serves old s) :
    ∃ t, events.foldlM State.hotReload s = some t ∧ Steady t ∧ Serves new t ∧
      Reloaded old new s t := by
  have tells := told.client old new had has
  have total : ∃ t, events.foldlM State.hotReload s = some t := by
    apply Reconcile.foldlM_total _ steady
    intro e member u here
    have retry : ∀ cfg, clientOutcome e = some cfg → cfg.retryInterval.isSome := fun cfg adds =>
      (filled.client new has cfg.name cfg (adds_of_tells tells member adds)).retryInterval
    obtain ⟨v, moved, -⟩ := hotReload_handled here retry
    exact ⟨v, moved, here.hotReload moved⟩
  obtain ⟨t, ran⟩ := total
  have settled : Steady t := hotReload_local.keepAll steady ran
  have config : t.config = s.config := by
    have both : Steady t ∧ t.config = s.config := by
      apply Reconcile.foldlM_invariant (I := fun u => Steady u ∧ u.config = s.config) _ ran
        ⟨steady, rfl⟩
      rintro e - u v ⟨here, same⟩ moved
      exact ⟨here.hotReload moved, (handled_of_hotReload here moved).config.trans same⟩
    exact both.2
  have kept : ∀ name, old.services.lookup name = new.services.lookup name →
      t.under name = s.under name :=
    fun name => hotReload_local.untouched tells steady ran
  have changed : ∀ name, old.services.lookup name ≠ new.services.lookup name →
      Settles (tell ClientConfig name (new.services.lookup name)) (t.under name) :=
    fun name => hotReload_local.changed tells steady ran
  refine ⟨t, ran, settled, ⟨?_, fun name => ?_, fun name i held => ?_, fun name => ?_⟩,
    fun name alike => ?_, fun name i differs held => dropped_of_differs tells steady ran differs held⟩
  · rw [config, serves.section_]
    exact told.client_alike had has
  · by_cases alike : old.services.lookup name = new.services.lookup name
    · rw [mem_handles, kept name alike, ← mem_handles, serves.handles, ← Finmap.lookup_isSome, alike,
        Finmap.lookup_isSome]
    · have settles := changed name alike
      rw [mem_handles, ← Finmap.lookup_isSome]
      exact settles.presence.1
  · by_cases alike : old.services.lookup name = new.services.lookup name
    · have same : (s.serviceHandles.lookup name).map (fun i => (i, s.tasks.lookup i)) =
          some (i, t.tasks.lookup i) := by
        have first := congrArg Prod.fst (kept name alike)
        rw [State.under, State.under, held] at first
        exact first.symm
      obtain ⟨j, held', pair⟩ := Option.map_eq_some_iff.mp same
      obtain ⟨rfl, task⟩ := Prod.mk.inj pair
      rw [← task, ← alike]
      exact serves.runs name j held'
    · have first : (t.under name).1 = some (i, t.tasks.lookup i) := by
        rw [State.under, held]
        rfl
      obtain ⟨cfg, task, here⟩ := (changed name alike).task first
      exact ⟨.new cfg, task, rfl, here⟩
  · by_cases alike : old.services.lookup name = new.services.lookup name
    · rw [mem_registry, kept name alike, ← mem_registry, serves.registry, ← Finmap.lookup_isSome,
        alike, Finmap.lookup_isSome]
    · have settles := changed name alike
      rw [mem_registry, ← Finmap.lookup_isSome]
      exact settles.presence.2
  · have same := kept name alike
    have first : (t.serviceHandles.lookup name).map (fun i => (i, t.tasks.lookup i)) =
        (s.serviceHandles.lookup name).map fun i => (i, s.tasks.lookup i) := congrArg Prod.fst same
    have handle : t.serviceHandles.lookup name = s.serviceHandles.lookup name := by
      have ids := congrArg (Option.map Prod.fst) first
      simpa only [Option.map_map, Function.comp_def, Option.map_id'] using ids
    refine ⟨handle, fun i held => ?_, congrArg Prod.snd same⟩
    rw [handle, held] at first
    exact (Prod.mk.inj (Option.some.inj first)).2

end Fold

end Rathole.Client
