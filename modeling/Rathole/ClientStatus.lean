import Rathole.ClientShutdown

set_option autoImplicit false

/- Who changes the registry entry of a service. The status calls of a control channel
task name the service only, not the task. -/
namespace Rathole.Client

variable {s t : State} {x y : Task}

def State.entry (s : State) (name : String) : Option RuntimeStatus.RuntimeServiceSnapshot :=
  s.runtime.services.lookup name

/-- The task of the stored handle, or the one a hot reload is about to store. -/
def Owner (s : State) (name : String) (i : Nat) : Prop :=
  s.serviceHandles.lookup name = some i ∨ s.loop = .spawned name i

/-- Once a handle is stored, its entry is changed only by its task or by a later hot
reload: the event itself, or the task that event spawned. -/
def EntryOwned (s : State) : Prop :=
  ∀ a t name j, step s a = some t → s.serviceHandles.lookup name = some j →
    t.entry name ≠ s.entry name → (∃ i b, a = .task i b ∧ Owner s name i) ∨ ∃ e, a = .event e

/-- A hot reload is between its first and its last step. -/
def Reloading (s : State) : Prop :=
  (∃ cfg, s.loop = .adding cfg) ∨ (∃ name i, s.loop = .spawned name i) ∨
    ∃ name, s.loop = .deleting name

/-- A task in its connected loop whose handle is stored is shown as Connected. -/
def ConnectedShown (s : State) : Prop :=
  ¬ Reloading s → ∀ name j x, s.serviceHandles.lookup name = some j →
    s.tasks.lookup j = some x → x.phase = .connected →
    ∃ entry, s.entry name = some (.client entry) ∧ entry.state = .connected

/-- The instance itself keeps running: tasks and hot reloads interleave. -/
def KeepsRunning (_ : State) (a : Action) : Prop := a ≠ .shutdown

/-- An Add creates its task only when every earlier task of the name has ended. -/
def SpawnsAlone (s : State) (a : Action) : Prop :=
  ∀ cfg, a = .spawn → s.loop = .adding cfg → ∀ i x, s.tasks.lookup i = some x →
    x.service.name = cfg.name → x.phase = .stopped

/-- The task has not ended. -/
def Live (s : State) (name : String) (i : Nat) : Prop :=
  ∃ x, s.tasks.lookup i = some x ∧ x.service.name = name ∧ x.phase ≠ .stopped

/-- Each name has at most one live task, the one that owns its entry. -/
structure Single (s : State) : Prop where
  running : s.loop ≠ .draining ∧ s.loop ≠ .returned
  named : ∀ name i, Owner s name i → ∃ x, s.tasks.lookup i = some x ∧ x.service.name = name
  stored : ∀ name j, s.serviceHandles.lookup name = some j → ∀ i, Live s name i → Owner s name i
  spawned : ∀ name i, s.loop = .spawned name i → ∀ i', Live s name i' → i' = i
  waiting : ∀ rest, s.loop = .starting rest → (rest.map Prod.fst).Nodup ∧
    (∀ e ∈ rest, e.2.name = e.1) ∧
    ∀ e ∈ rest, s.serviceHandles.lookup e.1 = none ∧ ∀ i, ¬ Live s e.1 i

/-- The entries of the names that have an owner, or will get one at the start. -/
structure Shown (s : State) : Prop where
  present : ∀ name i, Owner s name i → s.loop ≠ .deleting name →
    ∃ entry, s.entry name = some (.client entry)
  adding : ∀ cfg, s.loop = .adding cfg → ∃ entry, s.entry cfg.name = some (.client entry)
  listed : ∀ rest, s.loop = .starting rest → ∀ e ∈ rest,
    ∃ entry, s.entry e.1 = some (.client entry)
  connected : ∀ name i x, Owner s name i → s.tasks.lookup i = some x → x.phase = .connected →
    (∀ cfg, s.loop = .adding cfg → cfg.name ≠ name) → s.loop ≠ .deleting name →
    ∃ entry, s.entry name = some (.client entry) ∧ entry.state = .connected

/-- At the `select!` only the owners and their entries matter. -/
theorem Single.selecting (loop : s.loop = .selecting)
    (named : ∀ name i, Owner s name i → ∃ x, s.tasks.lookup i = some x ∧ x.service.name = name)
    (stored : ∀ name j, s.serviceHandles.lookup name = some j → ∀ i, Live s name i → i = j) :
    Single s := by
  constructor
  · constructor <;> rw [loop] <;> intro same <;> cases same
  · exact named
  · intro name j held i alive
    exact .inl (stored name j held i alive ▸ held)
  · intro name i same
    cases loop.symm.trans same
  · intro rest same
    cases loop.symm.trans same

theorem Shown.selecting (loop : s.loop = .selecting)
    (present : ∀ name i, Owner s name i → ∃ entry, s.entry name = some (.client entry))
    (connected : ∀ name i x, Owner s name i → s.tasks.lookup i = some x → x.phase = .connected →
      ∃ entry, s.entry name = some (.client entry) ∧ entry.state = .connected) : Shown s := by
  constructor
  · exact fun name i owned _ => present name i owned
  · intro cfg same
    cases loop.symm.trans same
  · intro rest same
    cases loop.symm.trans same
  · exact fun name i x owned found phase _ _ => connected name i x owned found phase

/-- An ended task makes no registry call and stays ended. -/
theorem step_stopped {a : TaskAction} (stopped : x.phase = .stopped) (moved : x.step a = some y) :
    y.phase = .stopped ∧ x.call a = none := by
  cases a with
  | connect _ | sendHello | helloSent | readHello | sendAuth | stop =>
    obtain ⟨here, -⟩ := advance_cases moved
    cases stopped.symm.trans here
  | run =>
    obtain ⟨here, -⟩ := Option.ite_none_right_eq_some.mp moved
    rcases here with here | here <;> cases stopped.symm.trans here
  | readAck now =>
    obtain ⟨here, -⟩ := Option.ite_none_right_eq_some.mp moved
    cases stopped.symm.trans here
  | createDataChannel d =>
    obtain ⟨⟨here, -⟩, -⟩ := Option.ite_none_right_eq_some.mp moved
    cases stopped.symm.trans here
  | shutdownReceived =>
    obtain ⟨-, moved⟩ := Option.ite_none_right_eq_some.mp moved
    cases stopped.symm.trans (advance_cases moved).1
  | fail =>
    simp only [Task.step, Task.fail, stopped] at moved
    cases moved
  | rebuild =>
    simp only [Task.step, Task.rebuild, stopped] at moved
    cases moved
  | checkShutdown now =>
    simp only [Task.step, Task.checkShutdown, stopped] at moved
    cases moved
  | dataChannelFailed d | signal d | dataChannelReady d =>
    simp only [Task.step, Task.dataChannelFailed, Task.signal, Task.dataChannelReady] at moved
    split at moved <;> cases moved
    exact ⟨stopped, rfl⟩

/-- Only a step that calls Connected leads into the connected loop. -/
theorem step_connected {a : TaskAction} (moved : x.step a = some y) (connected : y.phase = .connected) :
    (∃ now, x.call a = some (.connected now)) ∨ x.phase = .connected ∧ x.call a = none := by
  cases a with
  | readAck now => exact .inl ⟨now, rfl⟩
  | connect _ | sendHello | helloSent | sendAuth | stop =>
    obtain ⟨-, rfl⟩ := advance_cases moved
    cases connected
  | readHello =>
    obtain ⟨-, rfl⟩ := advance_cases moved
    split at connected <;> cases connected
  | run =>
    obtain ⟨-, ⟨⟩⟩ := Option.ite_none_right_eq_some.mp moved
    cases connected
  | createDataChannel d =>
    obtain ⟨⟨here, -⟩, ⟨⟩⟩ := Option.ite_none_right_eq_some.mp moved
    exact .inr ⟨here, rfl⟩
  | shutdownReceived =>
    obtain ⟨-, moved⟩ := Option.ite_none_right_eq_some.mp moved
    obtain ⟨-, rfl⟩ := advance_cases moved
    cases connected
  | fail | rebuild =>
    simp only [Task.step, Task.fail, Task.rebuild] at moved
    split at moved <;> cases moved <;> cases connected
  | checkShutdown now =>
    simp only [Task.step, Task.checkShutdown] at moved
    split at moved <;> cases moved
    split at connected <;> cases connected
  | dataChannelFailed d | signal d | dataChannelReady d =>
    simp only [Task.step, Task.dataChannelFailed, Task.signal, Task.dataChannelReady] at moved
    split at moved <;> cases moved
    exact .inr ⟨connected, rfl⟩

/-- A registry call rewrites the client entry of the task's name and nothing else. -/
theorem StatusCall.apply_modifies {call : StatusCall} {r r' : RuntimeStatus.RuntimeSnapshot}
    {name : String} (applied : call.apply r name = some r') :
    ∃ f, r' = r.modifyClient name f ∧
      ((∃ now, call = .connected now) → ∀ entry, (f entry).state = .connected) := by
  cases call with
  | connecting | resolved addr | stopped =>
    exact ⟨_, (Option.some.inj applied).symm, fun ⟨_, same⟩ => nomatch same⟩
  | connected now => exact ⟨_, (Option.some.inj applied).symm, fun _ _ => rfl⟩
  | retrying now =>
    change RuntimeStatus.clientRetrying now r name runError = some r' at applied
    unfold RuntimeStatus.clientRetrying at applied
    split at applied
    · obtain ⟨event, -, rfl⟩ := Option.map_eq_some_iff.mp applied
      exact ⟨_, rfl, fun ⟨_, same⟩ => nomatch same⟩
    · next other =>
      refine ⟨id, ?_, fun ⟨_, same⟩ => nomatch same⟩
      cases applied
      unfold RuntimeStatus.RuntimeSnapshot.modifyClient
      split
      · next entry found => exact absurd found (other entry)
      · rfl

theorem Live.ofStep {i : Nat} {b : TaskAction} {name : String} {i' : Nat}
    (found : s.tasks.lookup i = some x) (stepped : x.step b = some y)
    (tasks : t.tasks = s.tasks.insert i y) (live : Live t name i') : Live s name i' := by
  obtain ⟨z, after, named, alive⟩ := live
  rw [tasks, lookup_insert_eq] at after
  split at after
  · next same =>
    cases after
    refine ⟨x, same ▸ found, (step_fixed stepped).1 ▸ named, fun stopped => alive ?_⟩
    exact (step_stopped stopped stepped).1
  · exact ⟨z, after, named, alive⟩

theorem Live.ofRelease (name : String) (tx : ShutdownTx) {other : String} {i : Nat}
    (tasks : t.tasks = (s.release name tx).tasks) (live : Live t other i) : Live s other i := by
  obtain ⟨y, after, named, alive⟩ := live
  obtain ⟨x, before, rfl | ⟨-, rfl⟩⟩ := lookup_release_some (tasks ▸ after)
  · exact ⟨y, before, named, alive⟩
  · exact ⟨x, before, release_service x tx ▸ named, release_phase x tx ▸ alive⟩

theorem Live.ofInsert {service : ClientServiceConfig} {name : String} {i : Nat}
    (tasks : t.tasks = s.tasks.insert s.count (.new service)) (live : Live t name i) :
    i = s.count ∧ service.name = name ∨ i ≠ s.count ∧ Live s name i := by
  obtain ⟨y, after, named, alive⟩ := live
  rw [tasks, lookup_insert_eq] at after
  split at after
  · next same =>
    cases after
    exact .inl ⟨same, named⟩
  · next other => exact .inr ⟨other, y, after, named, alive⟩

/-- Steps that move the main loop only. -/
theorem Single.loop {loop : MainLoop} {runtime : RuntimeStatus.RuntimeSnapshot}
    (single : Single s) (before : ∀ name i, s.loop ≠ .spawned name i)
    (running : loop ≠ .draining ∧ loop ≠ .returned)
    (after : ∀ name i, loop ≠ .spawned name i) (started : ∀ rest, loop ≠ .starting rest) :
    Single { s with loop := loop, runtime := runtime } := by
  have owner : ∀ name i, Owner { s with loop := loop, runtime := runtime } name i →
      Owner s name i := by
    rintro name i (held | spawned)
    · exact .inl held
    · exact absurd spawned (after name i)
  refine ⟨running, fun name i owned => single.named name i (owner name i owned),
    fun name j held i live => ?_, fun name i spawned => absurd spawned (after name i),
    fun rest starting => absurd starting (started rest)⟩
  rcases single.stored name j held i live with held' | spawned
  · exact .inl held'
  · exact absurd spawned (before name i)

theorem Single.task {i : Nat} {b : TaskAction} {runtime : RuntimeStatus.RuntimeSnapshot}
    (single : Single s) (found : s.tasks.lookup i = some x) (stepped : x.step b = some y) :
    Single { s with tasks := s.tasks.insert i y, runtime := runtime } := by
  refine ⟨single.running, fun name j owned => ?_,
    fun name j held i' live => single.stored name j held i' (live.ofStep found stepped rfl),
    fun name j spawned i' live => single.spawned name j spawned i' (live.ofStep found stepped rfl),
    fun rest starting => ?_⟩
  · obtain ⟨z, before, named⟩ := single.named name j owned
    by_cases same : j = i
    · subst same
      cases found.symm.trans before
      exact ⟨y, by rw [lookup_insert_eq, if_pos rfl], (step_fixed stepped).1 ▸ named⟩
    · exact ⟨z, by rw [lookup_insert_eq, if_neg same, before], named⟩
  · obtain ⟨nodup, named, free⟩ := single.waiting rest starting
    exact ⟨nodup, named, fun e member => ⟨(free e member).1, fun i' live =>
      (free e member).2 i' (live.ofStep found stepped rfl)⟩⟩

theorem insertHandle_vacant {name : String} (i : Nat) (loop : MainLoop)
    (vacant : s.serviceHandles.lookup name = none) : s.insertHandle name i loop =
      { s with loop := loop, serviceHandles := s.serviceHandles.insert name i } := by
  simp only [State.insertHandle, State.release, vacant]

/-- The first handle of a name: nothing is released. -/
theorem createNext_vacant (moved : s.createNext = some t)
    (vacant : ∀ rest, s.loop = .starting rest → ∀ e ∈ rest, s.serviceHandles.lookup e.1 = none) :
    ∃ name service rest, s.loop = .starting ((name, service) :: rest) ∧
      t.loop = .starting rest ∧ t.serviceHandles = s.serviceHandles.insert name s.count ∧
      t.tasks = s.tasks.insert s.count (.new service) ∧ t.runtime = s.runtime := by
  obtain ⟨name, service, rest, u, starting, made, rfl⟩ := createNext_cases moved
  have created := newHandle_cases made
  have free : u.serviceHandles.lookup name = none := by
    rw [created]
    exact vacant _ starting _ List.mem_cons_self
  rw [insertHandle_vacant s.count (.starting rest) free, created]
  exact ⟨name, service, rest, starting, rfl, rfl, rfl, rfl⟩

theorem Single.createNext (single : Single s) (bounded : Bounded s)
    (moved : s.createNext = some t) : Single t := by
  obtain ⟨name, service, rest, starting, loop, handles, tasks, -⟩ :=
    createNext_vacant moved fun rest starting e member => ((single.waiting rest starting).2.2 e member).1
  obtain ⟨nodup, named, free⟩ := single.waiting _ starting
  obtain ⟨fresh, nodup⟩ := List.nodup_cons.mp nodup
  have service_name : service.name = name := named _ List.mem_cons_self
  have not_spawned : ∀ other i, t.loop ≠ .spawned other i := fun _ _ same => nomatch loop.symm.trans same
  refine ⟨?_, fun other i owned => ?_, fun other j held i alive => ?_,
    fun other i spawned => absurd spawned (not_spawned other i), fun rest' same => ?_⟩
  · rw [loop]
    exact ⟨nofun, nofun⟩
  · have held := owned.resolve_right (not_spawned other i)
    rw [handles, lookup_insert_eq] at held
    rw [tasks, lookup_insert_eq]
    split at held
    · next same =>
      cases held
      exact ⟨.new service, if_pos rfl, service_name.trans same.symm⟩
    · obtain ⟨x, before, named⟩ := single.named other i (.inl held)
      exact ⟨x, (if_neg (Nat.ne_of_lt (bounded.tasks i x before))).trans before, named⟩
  · refine .inl ?_
    rw [handles, lookup_insert_eq] at held ⊢
    rcases alive.ofInsert tasks with ⟨rfl, same⟩ | ⟨-, alive⟩
    · rw [if_pos (same.symm.trans service_name)]
    · split at held
      · next same =>
        subst same
        exact absurd alive ((free _ List.mem_cons_self).2 i)
      · next different =>
        rw [if_neg different]
        refine (single.stored other j held i alive).resolve_right fun spawned => ?_
        cases starting.symm.trans spawned
  · cases loop.symm.trans same
    refine ⟨nodup, fun e member => named e (List.mem_cons_of_mem _ member), fun e member => ?_⟩
    have different : e.1 ≠ name := by
      rintro rfl
      exact fresh (List.mem_map.mpr ⟨e, member, rfl⟩)
    obtain ⟨vacant, idle⟩ := free e (List.mem_cons_of_mem _ member)
    refine ⟨by rw [handles, lookup_insert_eq, if_neg different, vacant], fun i alive => ?_⟩
    rcases alive.ofInsert tasks with ⟨-, same⟩ | ⟨-, alive⟩
    · exact different (same.symm.trans service_name)
    · exact idle i alive

theorem Single.spawn (single : Single s) (bounded : Bounded s) (alone : SpawnsAlone s .spawn)
    (moved : s.spawn = some t) : Single t := by
  obtain ⟨cfg, adding, made⟩ := spawn_cases moved
  cases newHandle_cases made
  refine ⟨⟨nofun, nofun⟩, ?_, ?_, ?_, nofun⟩
  · rintro other i (held | ⟨⟨⟩⟩)
    · obtain ⟨x, before, named⟩ := single.named other i (.inl held)
      have old := Nat.ne_of_lt (bounded.tasks i x before)
      exact ⟨x, by rw [lookup_insert_eq, if_neg old, before], named⟩
    · exact ⟨.new cfg, by rw [lookup_insert_eq, if_pos rfl], rfl⟩
  · intro other j held i alive
    rcases alive.ofInsert rfl with ⟨rfl, rfl⟩ | ⟨-, alive⟩
    · exact .inr rfl
    · refine .inl ((single.stored other j held i alive).resolve_right fun spawned => ?_)
      cases adding.symm.trans spawned
  · rintro other i ⟨⟩ i' alive
    rcases alive.ofInsert rfl with ⟨rfl, -⟩ | ⟨-, x, found, named, alive⟩
    · rfl
    · exact absurd (alone cfg rfl adding i' x found named) alive

theorem Single.install (single : Single s) (moved : s.install = some t) : Single t := by
  obtain ⟨name, i, spawned, rfl⟩ := install_cases moved
  have live : ∀ {other j}, Live (s.insertHandle name i .selecting) other j → Live s other j :=
    fun alive => Live.ofRelease name .dropped rfl alive
  have owner : ∀ other j, Owner (s.insertHandle name i .selecting) other j → Owner s other j := by
    rintro other j (held | ⟨⟨⟩⟩)
    rw [State.insertHandle, lookup_insert_eq] at held
    split at held
    · next same =>
      cases held
      exact .inr (same ▸ spawned)
    · exact .inl held
  apply Single.selecting rfl
  · intro other j owned
    obtain ⟨x, before, named⟩ := single.named other j (owner other j owned)
    rw [State.insertHandle, lookup_release]
    split
    · exact ⟨_, by rw [before]; rfl, release_service x _ ▸ named⟩
    · exact ⟨x, before, named⟩
  · intro other j held k alive
    rw [State.insertHandle, lookup_insert_eq] at held
    split at held
    · next same =>
      subst same
      cases held
      exact single.spawned other i spawned k (live alive)
    · next different =>
      rcases single.stored other j held k (live alive) with stored | spawned'
      · exact Option.some.inj (stored.symm.trans held)
      · cases spawned.symm.trans spawned'
        exact absurd rfl different

theorem Single.dropHandle (single : Single s) (moved : s.dropHandle = some t) : Single t := by
  obtain ⟨name, deleting, rfl⟩ := dropHandle_cases moved
  apply Single.selecting rfl
  · rintro other j (held | spawned)
    · rw [lookup_erase_eq] at held
      split at held
      · cases held
      · obtain ⟨x, before, named⟩ := single.named other j (.inl held)
        rw [lookup_release]
        split
        · exact ⟨_, by rw [before]; rfl, release_service x _ ▸ named⟩
        · exact ⟨x, before, named⟩
    · cases spawned
  · intro other j held k alive
    have alive := Live.ofRelease (s := s) name .dropped rfl alive
    rw [lookup_erase_eq] at held
    split at held
    · cases held
    · rcases single.stored other j held k alive with stored | spawned
      · exact Option.some.inj (stored.symm.trans held)
      · cases deleting.symm.trans spawned

theorem Single.step {a : Action} (single : Single s) (bounded : Bounded s)
    (keeps : KeepsRunning s a) (alone : SpawnsAlone s a) (moved : step s a = some t) :
    Single t := by
  cases a with
  | createNext => exact single.createNext bounded moved
  | created =>
    obtain ⟨starting, ⟨⟩⟩ := Option.ite_none_right_eq_some.mp moved
    exact single.loop (fun _ _ same => nomatch starting.symm.trans same) ⟨nofun, nofun⟩
      (fun _ _ same => nomatch same) nofun
  | event e =>
    obtain ⟨selecting, rfl | ⟨cfg, -, rfl⟩ | ⟨name, -, rfl⟩⟩ := event_cases moved
    · exact single
    · exact single.loop (fun _ _ same => nomatch selecting.symm.trans same) ⟨nofun, nofun⟩
        (fun _ _ same => nomatch same) nofun
    · exact single.loop (fun _ _ same => nomatch selecting.symm.trans same) ⟨nofun, nofun⟩
        (fun _ _ same => nomatch same) nofun
  | spawn => exact single.spawn bounded alone moved
  | install => exact single.install moved
  | dropHandle => exact single.dropHandle moved
  | shutdown => exact absurd rfl keeps
  | drain name =>
    obtain ⟨⟨draining, -⟩, -⟩ := Option.ite_none_right_eq_some.mp moved
    exact absurd draining single.running.1
  | drained =>
    obtain ⟨⟨draining, -⟩, -⟩ := Option.ite_none_right_eq_some.mp moved
    exact absurd draining single.running.1
  | task i b =>
    obtain ⟨x, y, found, stepped, ⟨-, rfl⟩ | ⟨call, runtime, -, -, rfl⟩⟩ := task_cases moved <;>
      exact single.task found stepped

/-- Two live tasks of a name that has an owner are the same. -/
theorem Single.unique (single : Single s) {name : String} {i j : Nat} (owned : Owner s name j)
    (owner_live : Live s name j) (live : Live s name i) : i = j := by
  rcases owned with held | spawned
  · rcases single.stored name j held i live with held' | spawned
    · exact Option.some.inj (held'.symm.trans held)
    · exact (single.spawned name i spawned j owner_live).symm
  · exact single.spawned name j spawned i live

theorem Shown.createNext (shown : Shown s) (single : Single s)
    (moved : s.createNext = some t) : Shown t := by
  obtain ⟨name, service, rest, starting, loop, handles, tasks, runtime⟩ :=
    createNext_vacant moved fun rest starting e member => ((single.waiting rest starting).2.2 e member).1
  have not_spawned : ∀ other i, t.loop ≠ .spawned other i := fun _ _ same => nomatch loop.symm.trans same
  have entry : ∀ other, t.entry other = s.entry other := fun other => by
    rw [State.entry, runtime, State.entry]
  have owner : ∀ other i, Owner t other i → other = name ∧ i = s.count ∨ Owner s other i := by
    intro other i owned
    have held := owned.resolve_right (not_spawned other i)
    rw [handles, lookup_insert_eq] at held
    split at held
    · next same =>
      cases held
      exact .inl ⟨same, rfl⟩
    · exact .inr (.inl held)
  refine ⟨fun other i owned _ => ?_, (fun cfg same => nomatch loop.symm.trans same),
    fun rest' same e member => ?_, fun other i x owned found connected _ _ => ?_⟩
  · rw [entry]
    rcases owner other i owned with ⟨rfl, rfl⟩ | before
    · exact shown.listed _ starting _ List.mem_cons_self
    · exact shown.present other i before fun same => nomatch starting.symm.trans same
  · cases loop.symm.trans same
    rw [entry]
    exact shown.listed _ starting e (List.mem_cons_of_mem _ member)
  · rw [entry]
    rw [tasks, lookup_insert_eq] at found
    split at found
    · cases found
      cases connected
    · next different =>
      rcases owner other i owned with ⟨-, same⟩ | before
      · exact absurd same different
      · exact shown.connected other i x before found connected
          (fun _ same => nomatch starting.symm.trans same) fun same => nomatch starting.symm.trans same

theorem Shown.event {e : ConfigChange} (shown : Shown s) (moved : s.event e = some t) : Shown t := by
  obtain ⟨selecting, rfl | ⟨cfg, -, rfl⟩ | ⟨name, -, rfl⟩⟩ := event_cases moved
  · exact shown
  · have owner : ∀ other i, Owner { s with
        loop := .adding cfg
        runtime := RuntimeStatus.clientAdd s.runtime cfg.name s.config.remoteAddr } other i →
        Owner s other i := by
      rintro other i (held | ⟨⟨⟩⟩)
      exact .inl held
    refine ⟨fun other i owned _ => ?_, ?_, nofun, fun other i x owned found connected apart _ => ?_⟩
    · rw [State.entry, RuntimeStatus.clientAdd, lookup_insert_eq]
      split
      · exact ⟨_, rfl⟩
      · exact shown.present other i (owner other i owned) fun same => nomatch selecting.symm.trans same
    · rintro cfg' ⟨⟩
      exact ⟨_, Finmap.lookup_insert _⟩
    · rw [State.entry, RuntimeStatus.clientAdd, lookup_insert_eq, if_neg (apart cfg rfl).symm]
      exact shown.connected other i x (owner other i owned) found connected
        (fun _ same => nomatch selecting.symm.trans same) fun same => nomatch selecting.symm.trans same
  · have owner : ∀ other i, Owner { s with
        loop := .deleting name
        runtime := RuntimeStatus.remove s.runtime name } other i → Owner s other i := by
      rintro other i (held | ⟨⟨⟩⟩)
      exact .inl held
    have apart : ∀ {other : String}, MainLoop.deleting name ≠ .deleting other → other ≠ name := by
      rintro other different rfl
      exact different rfl
    refine ⟨fun other i owned different => ?_, nofun, nofun,
      fun other i x owned found connected _ different => ?_⟩
    · rw [State.entry, RuntimeStatus.remove, lookup_erase_eq, if_neg (apart different)]
      exact shown.present other i (owner other i owned) fun same => nomatch selecting.symm.trans same
    · rw [State.entry, RuntimeStatus.remove, lookup_erase_eq, if_neg (apart different)]
      exact shown.connected other i x (owner other i owned) found connected
        (fun _ same => nomatch selecting.symm.trans same) fun same => nomatch selecting.symm.trans same

theorem Shown.spawn (shown : Shown s) (single : Single s) (alone : SpawnsAlone s .spawn)
    (moved : s.spawn = some t) : Shown t := by
  obtain ⟨cfg, adding, made⟩ := spawn_cases moved
  cases newHandle_cases made
  refine ⟨?_, nofun, nofun, ?_⟩
  · rintro other i (held | ⟨⟨⟩⟩) -
    · exact shown.present other i (.inl held) fun same => nomatch adding.symm.trans same
    · exact shown.adding cfg adding
  · intro other i x owned found connected _ _
    rw [lookup_insert_eq] at found
    split at found
    · cases found
      cases connected
    · next different =>
      have held : s.serviceHandles.lookup other = some i := by
        rcases owned with held | ⟨⟨⟩⟩
        · exact held
        · exact absurd rfl different
      refine shown.connected other i x (.inl held) found connected ?_
        fun same => nomatch adding.symm.trans same
      rintro cfg' same rfl
      cases adding.symm.trans same
      obtain ⟨z, found', named⟩ := single.named _ i (.inl held)
      cases found.symm.trans found'
      cases connected.symm.trans (alone cfg rfl adding i x found named)

theorem lookup_release_phase (name : String) (tx : ShutdownTx) {i : Nat}
    (found : (s.release name tx).tasks.lookup i = some y) :
    ∃ x, s.tasks.lookup i = some x ∧ x.phase = y.phase := by
  obtain ⟨x, before, rfl | ⟨-, rfl⟩⟩ := lookup_release_some found
  · exact ⟨y, before, rfl⟩
  · exact ⟨x, before, (release_phase x tx).symm⟩

theorem Shown.install (shown : Shown s) (moved : s.install = some t) : Shown t := by
  obtain ⟨name, i, spawned, rfl⟩ := install_cases moved
  have owner : ∀ other j, Owner (s.insertHandle name i .selecting) other j → Owner s other j := by
    rintro other j (held | ⟨⟨⟩⟩)
    rw [State.insertHandle, lookup_insert_eq] at held
    split at held
    · next same =>
      cases held
      exact .inr (same ▸ spawned)
    · exact .inl held
  have entry : ∀ other, (s.insertHandle name i .selecting).entry other = s.entry other := fun other =>
    congrArg (fun r : RuntimeStatus.RuntimeSnapshot => r.services.lookup other)
      (release_fields s name .dropped).2.2.1
  have apart : ∀ loop, loop ≠ MainLoop.spawned name i → s.loop ≠ loop := by
    intro loop other same
    exact other (same.symm.trans spawned)
  apply Shown.selecting rfl
  · intro other j owned
    rw [entry]
    exact shown.present other j (owner other j owned) (apart _ (by simp))
  · intro other j x owned found connected
    rw [entry]
    obtain ⟨y, before, same⟩ := lookup_release_phase name .dropped found
    exact shown.connected other j y (owner other j owned) before (same.trans connected)
      (fun cfg adding => absurd adding (apart _ (by simp))) (apart _ (by simp))

theorem Shown.dropHandle (shown : Shown s) (moved : s.dropHandle = some t) : Shown t := by
  obtain ⟨name, deleting, rfl⟩ := dropHandle_cases moved
  have entry : ∀ other, State.entry { s.release name .dropped with
      loop := .selecting
      serviceHandles := s.serviceHandles.erase name } other = s.entry other := fun other =>
    congrArg (fun r : RuntimeStatus.RuntimeSnapshot => r.services.lookup other)
      (release_fields s name .dropped).2.2.1
  have owner : ∀ other j, (s.serviceHandles.erase name).lookup other = some j →
      Owner s other j ∧ s.loop ≠ .deleting other := by
    intro other j held
    rw [lookup_erase_eq] at held
    split at held
    · cases held
    · next different =>
      refine ⟨.inl held, fun same => ?_⟩
      cases deleting.symm.trans same
      exact different rfl
  have held_of : ∀ {other j}, Owner { s.release name .dropped with
      loop := .selecting
      serviceHandles := s.serviceHandles.erase name } other j →
      (s.serviceHandles.erase name).lookup other = some j := by
    rintro other j (held | spawned)
    · exact held
    · cases spawned
  apply Shown.selecting rfl
  · intro other j owned
    obtain ⟨before, apart⟩ := owner other j (held_of owned)
    rw [entry]
    exact shown.present other j before apart
  · intro other j x owned found connected
    obtain ⟨before, apart⟩ := owner other j (held_of owned)
    obtain ⟨y, held, same⟩ := lookup_release_phase name .dropped found
    rw [entry]
    refine shown.connected other j y before held (same.trans connected) ?_ apart
    intro cfg adding
    cases deleting.symm.trans adding

/-- What a task step does to the entries. -/
theorem task_entry {i : Nat} {b : TaskAction} (moved : s.task i b = some t) :
    ∃ x y, s.tasks.lookup i = some x ∧ x.step b = some y ∧ t.loop = s.loop ∧
      t.serviceHandles = s.serviceHandles ∧ t.tasks = s.tasks.insert i y ∧
      (x.call b = none ∧ t.runtime = s.runtime ∨
        ∃ call f, x.call b = some call ∧ t.runtime = s.runtime.modifyClient x.service.name f ∧
          ((∃ now, call = .connected now) → ∀ entry, (f entry).state = .connected)) := by
  obtain ⟨x, y, found, stepped, ⟨silent, rfl⟩ | ⟨call, runtime, calls, applied, rfl⟩⟩ :=
    task_cases moved
  · exact ⟨x, y, found, stepped, rfl, rfl, rfl, .inl ⟨silent, rfl⟩⟩
  · obtain ⟨f, rfl, sets⟩ := StatusCall.apply_modifies applied
    exact ⟨x, y, found, stepped, rfl, rfl, rfl, .inr ⟨call, f, calls, rfl, sets⟩⟩

/-- A client entry stays a client entry under a task's call. -/
theorem client_entry_kept {r : RuntimeStatus.RuntimeSnapshot} {name k : String}
    {f : RuntimeStatus.ClientSnapshot → RuntimeStatus.ClientSnapshot}
    (present : ∃ entry, r.services.lookup k = some (.client entry)) :
    ∃ entry, (r.modifyClient name f).services.lookup k = some (.client entry) := by
  obtain ⟨entry, found⟩ := present
  rw [RuntimeStatus.lookup_modifyClient]
  split
  · next same =>
    rw [← same, found]
    exact ⟨f entry, rfl⟩
  · exact ⟨entry, found⟩

theorem live_of_call {i : Nat} {b : TaskAction} {call : StatusCall}
    (found : s.tasks.lookup i = some x) (stepped : x.step b = some y) (calls : x.call b = some call) :
    Live s x.service.name i := by
  refine ⟨x, found, rfl, fun stopped => ?_⟩
  rw [(step_stopped stopped stepped).2] at calls
  cases calls

theorem Shown.task {i : Nat} {b : TaskAction} (shown : Shown s) (single : Single s)
    (moved : s.task i b = some t) : Shown t := by
  obtain ⟨x, y, found, stepped, loop, handles, tasks, calls⟩ := task_entry moved
  have owner : ∀ name j, Owner t name j → Owner s name j := by
    intro name j owned
    rwa [Owner, handles, loop] at owned
  have kept : ∀ name, (∃ entry, s.entry name = some (.client entry)) →
      ∃ entry, t.entry name = some (.client entry) := by
    intro name present
    rcases calls with ⟨-, same⟩ | ⟨call, f, -, same, -⟩
    · rwa [State.entry, same]
    · rw [State.entry, same]
      exact client_entry_kept present
  refine ⟨fun name j owned apart => ?_, fun cfg adding => ?_, fun rest starting e member => ?_,
    fun name j z owned held connected apart different => ?_⟩
  · exact kept name (shown.present name j (owner name j owned) (loop ▸ apart))
  · exact kept _ (shown.adding cfg (loop ▸ adding))
  · exact kept _ (shown.listed rest (loop ▸ starting) e member)
  · have before := owner name j owned
    rw [loop] at apart different
    rw [tasks, lookup_insert_eq] at held
    split at held
    · next same =>
      cases held
      cases same
      obtain ⟨x', found', named⟩ := single.named name i before
      cases found.symm.trans found'
      rcases step_connected stepped connected with ⟨now, connects⟩ | ⟨established, silent⟩
      · rcases calls with ⟨silent, -⟩ | ⟨call, f, calls, same, sets⟩
        · cases silent.symm.trans connects
        · cases calls.symm.trans connects
          obtain ⟨entry, present⟩ := shown.present name i before different
          refine ⟨f entry, ?_, sets ⟨now, rfl⟩ entry⟩
          rw [State.entry, same, RuntimeStatus.lookup_modifyClient, if_pos named.symm, named,
            show s.runtime.services.lookup name = _ from present]
          rfl
      · rcases calls with ⟨-, same⟩ | ⟨call, f, calls, -⟩
        · rw [State.entry, same]
          exact shown.connected name i x before found established apart different
        · cases silent.symm.trans calls
    · next other =>
      -- Another task writes an entry of this name only if it is the live one itself.
      obtain ⟨entry, present, state⟩ := shown.connected name j z before held connected apart different
      rcases calls with ⟨-, same⟩ | ⟨call, f, calls, same, -⟩
      · exact ⟨entry, by rw [State.entry, same]; exact present, state⟩
      · refine ⟨entry, ?_, state⟩
        rw [State.entry, same, RuntimeStatus.lookup_modifyClient, if_neg]
        · exact present
        · rintro rfl
          obtain ⟨z', held', named⟩ := single.named _ j before
          cases held.symm.trans held'
          have alive : Live s x.service.name j := ⟨z, held, named, by rw [connected]; nofun⟩
          exact other (single.unique before alive (live_of_call found stepped calls)).symm

theorem Shown.step {a : Action} (shown : Shown s) (single : Single s) (keeps : KeepsRunning s a)
    (alone : SpawnsAlone s a) (moved : step s a = some t) : Shown t := by
  cases a with
  | createNext => exact shown.createNext single moved
  | created =>
    obtain ⟨starting, ⟨⟩⟩ := Option.ite_none_right_eq_some.mp moved
    have owner : ∀ name i, Owner { s with loop := .selecting } name i → Owner s name i := by
      rintro name i (held | ⟨⟨⟩⟩)
      exact .inl held
    exact ⟨fun name i owned _ => shown.present name i (owner name i owned)
        (fun same => nomatch starting.symm.trans same), nofun, nofun,
      fun name i x owned found connected _ _ => shown.connected name i x (owner name i owned) found
        connected (fun _ same => nomatch starting.symm.trans same)
        fun same => nomatch starting.symm.trans same⟩
  | event e => exact shown.event moved
  | spawn => exact shown.spawn single alone moved
  | install => exact shown.install moved
  | dropHandle => exact shown.dropHandle moved
  | shutdown => exact absurd rfl keeps
  | drain name =>
    obtain ⟨⟨draining, -⟩, -⟩ := Option.ite_none_right_eq_some.mp moved
    exact absurd draining single.running.1
  | drained =>
    obtain ⟨⟨draining, -⟩, -⟩ := Option.ite_none_right_eq_some.mp moved
    exact absurd draining single.running.1
  | task i b => exact shown.task single moved

theorem Single.entryOwned (single : Single s) : EntryOwned s := by
  intro a t name j moved held changed
  cases a with
  | event e => exact .inr ⟨e, rfl⟩
  | task i b =>
    obtain ⟨x, y, found, stepped, -, -, -, ⟨-, same⟩ | ⟨call, f, calls, same, -⟩⟩ := task_entry moved
    · exact absurd (by rw [State.entry, same, State.entry]) changed
    · by_cases named : name = x.service.name
      · subst named
        exact .inl ⟨i, b, rfl, single.stored _ j held i (live_of_call found stepped calls)⟩
      · refine absurd ?_ changed
        rw [State.entry, same, RuntimeStatus.lookup_modifyClient, if_neg named, State.entry]
  | createNext =>
    obtain ⟨_, service, rest, u, -, made, rfl⟩ := createNext_cases moved
    cases newHandle_cases made
    exact absurd (congrArg (fun r : RuntimeStatus.RuntimeSnapshot => r.services.lookup name)
      (release_fields _ _ .dropped).2.2.1) changed
  | created | shutdown | drained =>
    obtain ⟨-, ⟨⟩⟩ := Option.ite_none_right_eq_some.mp moved
    exact absurd rfl changed
  | spawn =>
    obtain ⟨cfg, -, made⟩ := spawn_cases moved
    cases newHandle_cases made
    exact absurd rfl changed
  | install =>
    obtain ⟨_, i, -, rfl⟩ := install_cases moved
    exact absurd (congrArg (fun r : RuntimeStatus.RuntimeSnapshot => r.services.lookup name)
      (release_fields _ _ .dropped).2.2.1) changed
  | dropHandle =>
    obtain ⟨_, -, rfl⟩ := dropHandle_cases moved
    exact absurd (congrArg (fun r : RuntimeStatus.RuntimeSnapshot => r.services.lookup name)
      (release_fields _ _ .dropped).2.2.1) changed
  | drain other =>
    obtain ⟨⟨draining, -⟩, -⟩ := Option.ite_none_right_eq_some.mp moved
    exact absurd draining single.running.1

theorem Shown.connectedShown (shown : Shown s) : ConnectedShown s := by
  intro calm name j x held found connected
  refine shown.connected name j x (.inl held) found connected ?_ ?_
  · exact fun cfg adding _ => calm (.inl ⟨cfg, adding⟩)
  · exact fun deleting => calm (.inr (.inr ⟨name, deleting⟩))

theorem Single.start (initial : system.init s) : Single s := by
  obtain ⟨config, entries, processId, now, enumerates, named, rfl⟩ := initial
  refine ⟨⟨nofun, nofun⟩, ?_, ?_, nofun, ?_⟩
  · rintro name i (held | ⟨⟨⟩⟩)
    exact absurd held (by simp [State.start])
  · exact fun name j held => absurd held (by simp [State.start])
  · rintro rest ⟨⟩
    refine ⟨enumerates.nodup, fun e member => named e.1 e.2 ((enumerates.mem_iff _ _).mp member),
      fun e _ => ⟨by simp [State.start], ?_⟩⟩
    rintro i ⟨x, found, -⟩
    exact absurd found (by simp [State.start])

theorem Shown.start (initial : system.init s) : Shown s := by
  obtain ⟨config, entries, processId, now, enumerates, named, rfl⟩ := initial
  refine ⟨?_, nofun, ?_, ?_⟩
  · rintro name i (held | ⟨⟨⟩⟩)
    exact absurd held (by simp [State.start])
  · rintro rest ⟨⟩ e member
    exact ⟨_, RuntimeStatus.lookup_collect_of_mem (List.mem_map.mpr ⟨e, member, rfl⟩)⟩
  · exact fun name i x _ found => absurd found (by simp [State.start])

/-- While an Add creates its task only after every earlier task of the name has ended,
an entry is written by its owner alone and shows a connected channel as Connected. -/
theorem status_owned_of_spawns_alone
    (reached : system.Reach (fun s a => KeepsRunning s a ∧ SpawnsAlone s a) s) :
    EntryOwned s ∧ ConnectedShown s := by
  have both : Single s ∧ Shown s := by
    refine reached.invariant_with (I := fun s => Single s ∧ Shown s)
      (fun _ known => bounded_of_reach known.reachable)
      (fun _ initial => ⟨.start initial, .start initial⟩) ?_
    rintro s a t bounded - ⟨keeps, alone⟩ moved ⟨single, shown⟩
    exact ⟨single.step bounded keeps alone moved, shown.step single keeps alone moved⟩
  exact ⟨both.1.entryOwned, both.2.connectedShown⟩

/-- The guards of the theorem above, as a check. -/
def spawnsAlone (s : State) (a : Action) : Bool :=
  a ≠ .shutdown &&
    match a, s.loop with
    | .spawn, .adding cfg =>
      ∀ e ∈ s.tasks.entries, e.2.service.name = cfg.name → e.2.phase = .stopped
    | _, _ => true

theorem spawns_alone_of_check (s : State) (a : Action) (passed : spawnsAlone s a = true) :
    KeepsRunning s a ∧ SpawnsAlone s a := by
  obtain ⟨keeps, alone⟩ := Bool.and_eq_true_iff.mp passed
  have running : a ≠ .shutdown := of_decide_eq_true keeps
  refine ⟨running, ?_⟩
  rintro cfg rfl adding i x found named
  simp only [adding, decide_eq_true_eq] at alone
  exact alone ⟨i, x⟩ (Finmap.mem_lookup_iff.mp found) named

/-- A service deleted, and added again once its task has ended. -/
theorem status_owned_delete_then_add :
    ∃ s, system.Reach (fun s a => KeepsRunning s a ∧ SpawnsAlone s a) s ∧
      s.serviceHandles.lookup "ssh" = some 1 ∧
      (s.tasks.lookup 1).map Task.phase = some .connected ∧ EntryOwned s ∧ ConnectedShown s := by
  obtain ⟨s, reached, held⟩ := Transition.System.exists_reach sshClient_init
    ([.createNext, .created] ++ establishTask 0 ++ deleteSsh ++
      [.task 0 .shutdownReceived, .task 0 .stop] ++ addSsh ++ establishTask 1)
    (fun s => s.serviceHandles.lookup "ssh" = some 1 ∧
      (s.tasks.lookup 1).map Task.phase = some .connected)
    spawnsAlone spawns_alone_of_check (by decide +kernel)
  obtain ⟨stored, connected⟩ := of_decide_eq_true held
  exact ⟨s, reached, stored, connected, status_owned_of_spawns_alone reached⟩

/-- An Add that replaces the handle of a running task: the old task ends after the new
one is connected and marks the entry as Stopped. -/
theorem status_overwritten_by_replaced_task :
    ¬ ∀ s, system.Reach KeepsRunning s → EntryOwned s ∧ ConnectedShown s := by
  intro owned
  obtain ⟨s, reached, held⟩ := Transition.System.exists_reach sshClient_init
    ([.createNext, .created] ++ establishTask 0 ++ addSsh ++ establishTask 1 ++
      [.task 0 .shutdownReceived, .task 0 .stop])
    (fun s => s.loop = .selecting ∧ s.serviceHandles.lookup "ssh" = some 1 ∧
      (s.tasks.lookup 1).any (fun x => x.phase = .connected) ∧
      (s.entry "ssh").any RuntimeStatus.RuntimeServiceSnapshot.isStopped)
    (fun _ a => a ≠ .shutdown) (fun _ _ passed => of_decide_eq_true passed) (by decide +kernel)
  obtain ⟨selecting, stored, task, shown⟩ := of_decide_eq_true held
  obtain ⟨x, found, connected⟩ := (Option.any_eq_true _ _).mp task
  have calm : ¬ Reloading s := by
    rintro (⟨_, same⟩ | ⟨_, _, same⟩ | ⟨_, same⟩) <;> cases selecting.symm.trans same
  obtain ⟨entry, present, state⟩ :=
    (owned s reached).2 calm "ssh" 1 x stored found (of_decide_eq_true connected)
  simp [present, RuntimeStatus.RuntimeServiceSnapshot.isStopped, state] at shown

end Rathole.Client
