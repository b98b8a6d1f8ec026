import Rathole.ClientChannel
import Rathole.ConfigChange

set_option autoImplicit false

/- The client: its main loop with the handles of its control channels, the tasks of
these channels, and the runtime registry they all write to. -/
namespace Rathole.Client

/-- Where `Client::run` stands: still creating the first control channels, at its
`select!`, inside `handle_hot_reload`, or draining the handles. The steps of
`handle_hot_reload` are separate because the tasks run on other threads. -/
inductive MainLoop
  | starting (rest : List (String × ClientServiceConfig))
  | selecting
  | adding (cfg : ClientServiceConfig)
  | spawned (name : String) (i : Nat)
  | deleting (name : String)
  | draining
  | returned
  deriving DecidableEq

/-- `service_handles` maps a name to the task its handle belongs to. -/
structure State where
  config : ClientConfig
  loop : MainLoop
  serviceHandles : HashMap String Nat
  tasks : HashMap Nat Task
  count : Nat
  runtime : RuntimeStatus.RuntimeSnapshot
  deriving DecidableEq

inductive Action
  | createNext
  | created
  | event (e : ConfigChange)
  | spawn
  | install
  | dropHandle
  | shutdown
  | drain (name : String)
  | drained
  | task (i : Nat) (a : TaskAction)
  deriving DecidableEq

namespace State

def start (config : ClientConfig) (entries : List (String × ClientServiceConfig))
    (processId now : Nat) : State where
  config := config
  loop := .starting entries
  serviceHandles := ∅
  tasks := ∅
  count := 0
  runtime := RuntimeStatus.clientRegistry processId now config.remoteAddr (entries.map Prod.fst)

/-- `ControlChannelHandle::new`: `retry_interval` is set in every accepted config, so
its `unwrap` does not fail. -/
def newHandle (s : State) (service : ClientServiceConfig) (loop : MainLoop) : Option State :=
  if service.retryInterval.isSome then
    some { s with
      loop := loop
      tasks := s.tasks.insert s.count (.new service)
      count := s.count + 1 }
  else none

/-- The handle stored under the name, if any, is given up. -/
def release (s : State) (name : String) (tx : ShutdownTx) : State :=
  match s.serviceHandles.lookup name with
  | some i => { s with tasks := HashMap.modify s.tasks i (·.release tx) }
  | none => s

/-- `service_handles.insert`: the handle it replaces is dropped. -/
def insertHandle (s : State) (name : String) (i : Nat) (loop : MainLoop) : State :=
  { s.release name .dropped with
    loop := loop
    serviceHandles := s.serviceHandles.insert name i }

/-- One turn of the loop over `config.services`. -/
def createNext (s : State) : Option State :=
  match s.loop with
  | .starting ((name, service) :: rest) =>
    (s.newHandle service (.starting rest)).map fun t => t.insertHandle name s.count (.starting rest)
  | _ => none

/-- `handle_hot_reload`, up to the registry update. -/
def event (s : State) (e : ConfigChange) : Option State :=
  if s.loop = .selecting then
    match e with
    | .clientChange (.add cfg) =>
      some { s with
        loop := .adding cfg
        runtime := RuntimeStatus.clientAdd s.runtime cfg.name s.config.remoteAddr }
    | .clientChange (.delete name) =>
      some { s with
        loop := .deleting name
        runtime := RuntimeStatus.remove s.runtime name }
    | _ => some s
  else none

def spawn (s : State) : Option State :=
  match s.loop with
  | .adding cfg => s.newHandle cfg (.spawned cfg.name s.count)
  | _ => none

def install (s : State) : Option State :=
  match s.loop with
  | .spawned name i => some (s.insertHandle name i .selecting)
  | _ => none

def dropHandle (s : State) : Option State :=
  match s.loop with
  | .deleting name =>
    some { s.release name .dropped with
      loop := .selecting
      serviceHandles := s.serviceHandles.erase name }
  | _ => none

/-- One turn of `for (name, handle) in self.service_handles.drain()`. -/
def drain (s : State) (name : String) : Option State :=
  if s.loop = .draining ∧ (s.serviceHandles.lookup name).isSome then
    some { s.release name .sent with
      serviceHandles := s.serviceHandles.erase name
      runtime := RuntimeStatus.clientStopped s.runtime name }
  else none

/-- A step of a control channel task or of one of its data channels, with the
registry call it makes. -/
def task (s : State) (i : Nat) (a : TaskAction) : Option State :=
  match s.tasks.lookup i with
  | none => none
  | some x =>
    match x.step a, x.call a with
    | none, _ => none
    | some y, none => some { s with tasks := s.tasks.insert i y }
    | some y, some call =>
      (call.apply s.runtime x.service.name).map fun runtime =>
        { s with tasks := s.tasks.insert i y, runtime := runtime }

end State

def step (s : State) : Action → Option State
  | .createNext => s.createNext
  | .created => if s.loop = .starting [] then some { s with loop := .selecting } else none
  | .event e => s.event e
  | .spawn => s.spawn
  | .install => s.install
  | .dropHandle => s.dropHandle
  | .shutdown => if s.loop = .selecting then some { s with loop := .draining } else none
  | .drain name => s.drain name
  | .drained =>
    if s.loop = .draining ∧ s.serviceHandles = ∅ then some { s with loop := .returned } else none
  | .task i a => s.task i a

/-- A client starts from a validated section, whose services carry the names they
are stored under. -/
def system : Transition.System State Action where
  init s := ∃ config entries processId now, Enumerates entries config.services ∧
    (∀ name service, config.services.lookup name = some service → service.name = name) ∧
    s = .start config entries processId now
  step := step

variable {s t : State}

/-- The task whose handle the step gives up, and how. -/
def State.releases (s : State) (a : Action) : Option (Nat × ShutdownTx) :=
  match a, s.loop with
  | .createNext, .starting ((name, _) :: _) => (s.serviceHandles.lookup name).map (·, .dropped)
  | .install, .spawned name _ => (s.serviceHandles.lookup name).map (·, .dropped)
  | .dropHandle, .deleting name => (s.serviceHandles.lookup name).map (·, .dropped)
  | .drain name, _ => (s.serviceHandles.lookup name).map (·, .sent)
  | _, _ => none

theorem task_cases {i : Nat} {a : TaskAction} (moved : s.task i a = some t) :
    ∃ x y, s.tasks.lookup i = some x ∧ x.step a = some y ∧
      (x.call a = none ∧ t = { s with tasks := s.tasks.insert i y } ∨
        ∃ call runtime, x.call a = some call ∧
          call.apply s.runtime x.service.name = some runtime ∧
          t = { s with tasks := s.tasks.insert i y, runtime := runtime }) := by
  unfold State.task at moved
  split at moved
  · cases moved
  · next x found =>
    split at moved
    · cases moved
    · next y stepped silent =>
      cases moved
      exact ⟨x, y, found, stepped, .inl ⟨silent, rfl⟩⟩
    · next y call stepped calls =>
      obtain ⟨runtime, applied, rfl⟩ := Option.map_eq_some_iff.mp moved
      exact ⟨x, y, found, stepped, .inr ⟨call, runtime, calls, applied, rfl⟩⟩

theorem lookup_release (name : String) (tx : ShutdownTx) (i : Nat) :
    (s.release name tx).tasks.lookup i =
      if s.serviceHandles.lookup name = some i then (s.tasks.lookup i).map (·.release tx)
      else s.tasks.lookup i := by
  unfold State.release
  split
  · next j held =>
    rw [lookup_modify_eq, held]
    by_cases same : i = j
    · rw [if_pos same, if_pos (congrArg some same.symm), same]
    · rw [if_neg same, if_neg fun h => same (Option.some.inj h).symm]
  · next absent => rw [absent, if_neg nofun]

theorem newHandle_cases {service : ClientServiceConfig} {loop : MainLoop}
    (made : s.newHandle service loop = some t) :
    t = { s with
      loop := loop
      tasks := s.tasks.insert s.count (.new service)
      count := s.count + 1 } := by
  obtain ⟨-, ⟨⟩⟩ := Option.ite_none_right_eq_some.mp made
  rfl

/-- The step gives up the handle stored under `name` and stores another one or none. -/
theorem release_fields (s : State) (name : String) (tx : ShutdownTx) :
    (s.release name tx).serviceHandles = s.serviceHandles ∧ (s.release name tx).count = s.count ∧
      (s.release name tx).runtime = s.runtime ∧ (s.release name tx).loop = s.loop := by
  unfold State.release
  split <;> exact ⟨rfl, rfl, rfl, rfl⟩

/-- Ids of tasks are handed out in order. -/
structure Bounded (s : State) : Prop where
  tasks : ∀ i x, s.tasks.lookup i = some x → i < s.count
  handles : ∀ name i, s.serviceHandles.lookup name = some i → i < s.count
  spawned : ∀ name i, s.loop = .spawned name i → i < s.count

theorem lookup_release_some {name : String} {tx : ShutdownTx} {i : Nat} {y : Task}
    (found : (s.release name tx).tasks.lookup i = some y) :
    ∃ x, s.tasks.lookup i = some x ∧
      (y = x ∨ s.serviceHandles.lookup name = some i ∧ y = x.release tx) := by
  rw [lookup_release] at found
  split at found
  · next held =>
    obtain ⟨x, before, rfl⟩ := Option.map_eq_some_iff.mp found
    exact ⟨x, before, .inr ⟨held, rfl⟩⟩
  · exact ⟨y, found, .inl rfl⟩

theorem Bounded.insertHandle {name : String} {i : Nat} {loop : MainLoop} (bounded : Bounded s)
    (below : i < s.count) (next : ∀ name j, loop = .spawned name j → j < s.count) :
    Bounded (s.insertHandle name i loop) := by
  have count : (s.insertHandle name i loop).count = s.count := (release_fields s name _).2.1
  refine ⟨fun j y found => ?_, fun other j found => ?_, fun other j same => ?_⟩
  · rw [count]
    obtain ⟨x, before, -⟩ := lookup_release_some found
    exact bounded.tasks j x before
  · rw [count]
    rw [State.insertHandle, lookup_insert_eq] at found
    split at found
    · cases found
      exact below
    · exact bounded.handles other j found
  · rw [count]
    exact next other j same

theorem Bounded.newHandle {service : ClientServiceConfig} {loop : MainLoop} (bounded : Bounded s)
    (made : s.newHandle service loop = some t)
    (next : ∀ name j, loop = .spawned name j → j ≤ s.count) : Bounded t := by
  cases newHandle_cases made
  refine ⟨fun j y found => ?_, fun other j found => Nat.lt_succ_of_lt (bounded.handles other j found),
    fun other j same => Nat.lt_succ_of_le (next other j same)⟩
  rw [lookup_insert_eq] at found
  split at found
  · next same => exact same ▸ Nat.lt_succ_self _
  · exact Nat.lt_succ_of_lt (bounded.tasks j y found)

theorem Bounded.eraseHandle (bounded : Bounded s) (name : String) (tx : ShutdownTx)
    (loop : MainLoop) (runtime : RuntimeStatus.RuntimeSnapshot)
    (next : ∀ name j, loop ≠ .spawned name j) :
    Bounded { s.release name tx with
      loop := loop, serviceHandles := s.serviceHandles.erase name, runtime := runtime } := by
  have count := (release_fields s name tx).2.1
  refine ⟨fun j y found => ?_, fun other j found => ?_, fun other j same => absurd same (next other j)⟩
  · obtain ⟨x, before, -⟩ := lookup_release_some found
    exact count.symm ▸ bounded.tasks j x before
  · rw [lookup_erase_eq] at found
    split at found
    · cases found
    · exact count.symm ▸ bounded.handles other j found

theorem Bounded.loop {loop : MainLoop} {runtime : RuntimeStatus.RuntimeSnapshot}
    (bounded : Bounded s) (next : ∀ name j, loop ≠ .spawned name j) :
    Bounded { s with loop := loop, runtime := runtime } :=
  ⟨bounded.tasks, bounded.handles, fun other j same => absurd same (next other j)⟩

theorem createNext_cases (moved : s.createNext = some t) :
    ∃ name service rest u, s.loop = .starting ((name, service) :: rest) ∧
      s.newHandle service (.starting rest) = some u ∧
      t = u.insertHandle name s.count (.starting rest) := by
  unfold State.createNext at moved
  split at moved
  · next name service rest starting =>
    obtain ⟨u, made, rfl⟩ := Option.map_eq_some_iff.mp moved
    exact ⟨name, service, rest, u, starting, made, rfl⟩
  · cases moved

theorem spawn_cases (moved : s.spawn = some t) :
    ∃ cfg, s.loop = .adding cfg ∧ s.newHandle cfg (.spawned cfg.name s.count) = some t := by
  unfold State.spawn at moved
  split at moved
  · next cfg adding => exact ⟨cfg, adding, moved⟩
  · cases moved

theorem install_cases (moved : s.install = some t) :
    ∃ name i, s.loop = .spawned name i ∧ t = s.insertHandle name i .selecting := by
  unfold State.install at moved
  split at moved
  · next name i spawned =>
    cases moved
    exact ⟨name, i, spawned, rfl⟩
  · cases moved

theorem dropHandle_cases (moved : s.dropHandle = some t) :
    ∃ name, s.loop = .deleting name ∧ t = { s.release name .dropped with
      loop := .selecting
      serviceHandles := s.serviceHandles.erase name } := by
  unfold State.dropHandle at moved
  split at moved
  · next name deleting =>
    cases moved
    exact ⟨name, deleting, rfl⟩
  · cases moved

theorem event_cases {e : ConfigChange} (moved : s.event e = some t) :
    s.loop = .selecting ∧ (t = s ∨
      (∃ cfg, e = .clientChange (.add cfg) ∧ t = { s with
        loop := .adding cfg
        runtime := RuntimeStatus.clientAdd s.runtime cfg.name s.config.remoteAddr }) ∨
      ∃ name, e = .clientChange (.delete name) ∧ t = { s with
        loop := .deleting name
        runtime := RuntimeStatus.remove s.runtime name }) := by
  obtain ⟨selecting, moved⟩ := Option.ite_none_right_eq_some.mp moved
  refine ⟨selecting, ?_⟩
  split at moved
  · cases moved
    exact .inr (.inl ⟨_, rfl, rfl⟩)
  · cases moved
    exact .inr (.inr ⟨_, rfl, rfl⟩)
  · exact .inl (Option.some.inj moved).symm

theorem Bounded.step {a : Action} (bounded : Bounded s) (moved : step s a = some t) :
    Bounded t := by
  cases a with
  | createNext =>
    obtain ⟨name, service, rest, u, -, made, rfl⟩ := createNext_cases moved
    have created := bounded.newHandle made fun _ _ same => nomatch same
    cases newHandle_cases made
    exact created.insertHandle (Nat.lt_succ_self _) fun _ _ same => nomatch same
  | created =>
    obtain ⟨-, ⟨⟩⟩ := Option.ite_none_right_eq_some.mp moved
    exact bounded.loop fun _ _ same => nomatch same
  | event e =>
    obtain ⟨-, rfl | ⟨cfg, -, rfl⟩ | ⟨name, -, rfl⟩⟩ := event_cases moved
    · exact bounded
    · exact bounded.loop fun _ _ same => nomatch same
    · exact bounded.loop fun _ _ same => nomatch same
  | spawn =>
    obtain ⟨cfg, -, made⟩ := spawn_cases moved
    refine bounded.newHandle made ?_
    rintro name j ⟨⟩
    exact Nat.le_refl _
  | install =>
    obtain ⟨name, i, spawned, rfl⟩ := install_cases moved
    exact bounded.insertHandle (bounded.spawned name i spawned) fun _ _ same => nomatch same
  | dropHandle =>
    obtain ⟨name, -, rfl⟩ := dropHandle_cases moved
    exact bounded.eraseHandle name .dropped .selecting _ fun _ _ same => nomatch same
  | shutdown =>
    obtain ⟨-, ⟨⟩⟩ := Option.ite_none_right_eq_some.mp moved
    exact bounded.loop fun _ _ same => nomatch same
  | drain name =>
    obtain ⟨⟨draining, -⟩, ⟨⟩⟩ := Option.ite_none_right_eq_some.mp moved
    have erased := bounded.eraseHandle name .sent .draining
      (RuntimeStatus.clientStopped s.runtime name) fun _ _ same => nomatch same
    rwa [← draining, ← (release_fields s name .sent).2.2.2] at erased
  | drained =>
    obtain ⟨-, ⟨⟩⟩ := Option.ite_none_right_eq_some.mp moved
    exact bounded.loop fun _ _ same => nomatch same
  | task i a =>
    obtain ⟨x, y, found, -, ⟨-, rfl⟩ | ⟨call, runtime, -, -, rfl⟩⟩ := task_cases moved <;>
    · refine ⟨fun j z held => ?_, bounded.handles, bounded.spawned⟩
      rw [lookup_insert_eq] at held
      split at held
      · next same => exact same ▸ bounded.tasks i x found
      · exact bounded.tasks j z held

theorem bounded_start (config : ClientConfig) (entries : List (String × ClientServiceConfig))
    (processId now : Nat) : Bounded (.start config entries processId now) :=
  ⟨fun i x found => absurd found (by simp [State.start]),
    fun name i found => absurd found (by simp [State.start]), fun _ _ same => nomatch same⟩

theorem bounded_of_reach (reached : system.Reachable s) : Bounded s := by
  refine reached.invariant ?_ fun _ _ _ _ moved bounded => bounded.step moved
  rintro s ⟨config, entries, processId, now, -, -, rfl⟩
  exact bounded_start config entries processId now

end Rathole.Client
