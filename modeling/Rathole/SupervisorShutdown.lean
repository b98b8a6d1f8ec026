import Rathole.Supervisor

set_option autoImplicit false

namespace Rathole.Supervisor

open Broadcast.Channel (Pending Closed)
open Transition.System (Free Run)

/-- The generation whose JoinHandle the supervisor is waiting on. -/
def State.awaited (s : State) : Option Nat :=
  match s.loop with
  | .restarting g _ => some g
  | .stopping g => some g
  | _ => none

/-- The task is over, or will see the shutdown on its receiver. -/
def Generation.Observable (i : Generation) : Prop :=
  i.task = .finished ∨ Pending i.shutdown () ∨ Closed i.shutdown

def NoLostShutdown (s : State) : Prop :=
  ∀ g i, s.awaited = some g → s.generations.lookup g = some i → i.Observable

/-- The steps that send the shutdown value to the last instance. -/
def Action.signals : Action → Bool
  | .general _ | .eventsClosed | .processShutdown => true
  | _ => false

/-- The shutdown value is sent only to an instance whose task was polled before. -/
def Polled (s : State) (a : Action) : Prop :=
  a.signals = true → ∀ g i, s.lastInstance = some g → s.generations.lookup g = some i →
    i.task ≠ .spawned

/-- What holds of a generation at all times; `held` says whether the supervisor
still keeps its own sender of the generation's channel. -/
structure Generation.Sound (held : Bool) (i : Generation) : Prop where
  unsubscribed : i.task = .spawned → i.shutdown.cursors = ∅
  subscribed : i.task = .running →
    ∃ c, i.shutdown.cursors.lookup () = some c ∧ c ≤ i.shutdown.log.length
  senders : i.shutdown.senders =
    (if held then 1 else 0) + if i.task = .finished then 0 else 1

theorem Generation.Sound.poll {held : Bool} {i : Generation} (sound : i.Sound held)
    (spawned : i.task = .spawned) : i.poll.Sound held := by
  refine ⟨nofun, fun _ => ⟨i.shutdown.log.length, Finmap.lookup_insert _, Nat.le_refl _⟩, ?_⟩
  have senders := sound.senders
  simpa [Generation.poll, Broadcast.Channel.subscribe, spawned] using senders

theorem Generation.Sound.finish {held : Bool} {i : Generation} (sound : i.Sound held)
    (running : i.task = .running) : i.finish.Sound held := by
  refine ⟨nofun, nofun, ?_⟩
  have senders := sound.senders
  simp only [Generation.finish, Broadcast.Channel.dropReceiver, Broadcast.Channel.dropSender,
    senders, running]
  cases held <;> rfl

theorem Generation.Sound.updates {held : Bool} {i : Generation} (sound : i.Sound held)
    (updates : List ConfigChange) : Generation.Sound held { i with updates := updates } :=
  ⟨sound.unsubscribed, sound.subscribed, sound.senders⟩

theorem Generation.Sound.signal {i : Generation} (sound : i.Sound true) :
    Generation.Sound false { i with shutdown := (i.shutdown.send true).dropSender } := by
  refine ⟨fun spawned => ?_, fun running => ?_, ?_⟩
  · simpa only [Broadcast.Channel.dropSender, Broadcast.Channel.send_cursors] using
      sound.unsubscribed spawned
  · obtain ⟨c, found, bounded⟩ := sound.subscribed running
    refine ⟨c, ?_, Nat.le_trans bounded (Broadcast.Channel.send_log_length _ _)⟩
    simpa only [Broadcast.Channel.dropSender, Broadcast.Channel.send_cursors] using found
  · have senders := sound.senders
    simp only [Broadcast.Channel.dropSender, Broadcast.Channel.send_senders, senders, ↓reduceIte]
    simp

structure Inv (s : State) : Prop where
  sound : ∀ g i, s.generations.lookup g = some i →
    i.Sound (decide (s.instanceShutdownTx = some g))
  fresh : ∀ g i, s.generations.lookup g = some i → g < s.count
  owner : s.instanceShutdownTx = s.lastInstance
  idle : ∀ g, s.awaited = some g → s.lastInstance = none

theorem lookup_update (s : State) (g g' : Nat) (f : Generation → Generation) :
    (s.update g f).generations.lookup g' =
      if g' = g then (s.generations.lookup g).map f else s.generations.lookup g' :=
  lookup_modify_eq _ _ _ _

theorem Inv.update {s : State} (inv : Inv s) (g : Nat) (f : Generation → Generation)
    (keep : ∀ i, s.generations.lookup g = some i →
      i.Sound (decide (s.instanceShutdownTx = some g)) →
      (f i).Sound (decide (s.instanceShutdownTx = some g))) : Inv (s.update g f) := by
  refine ⟨?_, ?_, inv.owner, inv.idle⟩
  · intro g' i' found
    rw [lookup_update] at found
    split at found
    · next same =>
      subst same
      obtain ⟨i, before, rfl⟩ := Option.map_eq_some_iff.mp found
      exact keep i before (inv.sound _ i before)
    · exact inv.sound g' i' found
  · intro g' i' found
    rw [lookup_update] at found
    split at found
    · next same =>
      subst same
      obtain ⟨i, before, -⟩ := Option.map_eq_some_iff.mp found
      exact inv.fresh _ i before
    · exact inv.fresh g' i' found

theorem Inv.spawn {s : State} (inv : Inv s) (vacant : s.lastInstance = none) (config : Config) :
    Inv (s.spawnInstance config) := by
  have none_held := inv.owner.trans vacant
  refine ⟨?_, ?_, rfl, nofun⟩
  · intro g i found
    simp only [State.spawnInstance, lookup_insert_eq] at found ⊢
    split at found
    · next same =>
      cases found
      subst same
      refine ⟨fun _ => rfl, nofun, ?_⟩
      simp [Broadcast.Channel.clone, Broadcast.Channel.new]
    · next other =>
      have sound := inv.sound g i found
      simpa [none_held, Ne.symm other] using sound
  · intro g i found
    simp only [State.spawnInstance, lookup_insert_eq] at found ⊢
    split at found
    · omega
    · have := inv.fresh g i found
      omega

/-- Sending to the last instance and dropping the sender, with the loop moved on. -/
theorem Inv.signal {s : State} (inv : Inv s) (loop : Loop) :
    Inv { s.signal with loop := loop, lastInstance := none } := by
  unfold State.signal
  cases held : s.instanceShutdownTx with
  | none =>
    exact ⟨by simpa only [held] using inv.sound, inv.fresh, held, fun _ _ => rfl⟩
  | some g =>
    refine ⟨?_, ?_, rfl, fun _ _ => rfl⟩
    · intro g' i' found
      rw [lookup_update] at found
      split at found
      · next same =>
        subst same
        obtain ⟨i, before, rfl⟩ := Option.map_eq_some_iff.mp found
        have sound := inv.sound _ i before
        rw [held, decide_eq_true rfl] at sound
        exact sound.signal
      · next other =>
        have sound := inv.sound g' i' found
        rwa [held, decide_eq_false (by simpa using Ne.symm other)] at sound
    · intro g' i' found
      rw [lookup_update] at found
      split at found
      · next same =>
        subst same
        obtain ⟨i, before, -⟩ := Option.map_eq_some_iff.mp found
        exact inv.fresh _ i before
      · exact inv.fresh g' i' found

theorem Inv.loop {s : State} (inv : Inv s) (loop : Loop)
    (quiet : ∀ g, State.awaited { s with loop := loop } ≠ some g) :
    Inv { s with loop := loop } :=
  ⟨inv.sound, inv.fresh, inv.owner, fun g waiting => absurd waiting (quiet g)⟩

theorem onInstance_cases {s t : State} {g : Nat} {ready : Generation → Bool}
    {f : Generation → Generation} (moved : s.onInstance g ready f = some t) :
    ∃ i, s.generations.lookup g = some i ∧ ready i = true ∧ t = s.update g f := by
  unfold State.onInstance at moved
  cases found : s.generations.lookup g with
  | none => simp [found] at moved
  | some i =>
    by_cases able : ready i = true
    · simp only [found, able, ↓reduceIte, Option.some.injEq] at moved
      exact ⟨i, rfl, able, moved.symm⟩
    · simp [found, able] at moved

theorem forward_cases {s t : State} (moved : s.forward = some t) :
    ∃ g ev, s.loop = .forwarding ev ∧ (t = { s with loop := .selecting } ∨
      t = { s.update g fun i => { i with updates := i.updates ++ [ev] } with
        loop := .selecting }) := by
  unfold State.forward at moved
  split at moved
  · next ev g forwarding _ =>
    refine ⟨g, ev, forwarding, ?_⟩
    split at moved
    · cases moved
    · split at moved
      · exact .inl (Option.some.inj moved).symm
      · split at moved
        · exact .inr (Option.some.inj moved).symm
        · cases moved
  · cases moved

theorem join_cases {s t : State} (moved : s.join = some t) :
    (∃ g config, s.loop = .restarting g config ∧ s.finished g = true ∧
      t = s.spawnInstance config) ∨
    (∃ g, s.loop = .stopping g ∧ s.finished g = true ∧ t = { s with loop := .returned }) := by
  unfold State.join at moved
  split at moved
  · next g config restarting =>
    split at moved
    · next gone => exact .inl ⟨g, config, restarting, gone, (Option.some.inj moved).symm⟩
    · cases moved
  · next g stopping =>
    split at moved
    · next gone => exact .inr ⟨g, stopping, gone, (Option.some.inj moved).symm⟩
    · cases moved
  · cases moved

theorem Inv.restart {s : State} (inv : Inv s) (config : Config) : Inv (s.restart config) := by
  unfold State.restart
  cases last : s.lastInstance with
  | none => exact inv.spawn last config
  | some g => exact inv.signal (.restarting g config)

theorem Inv.teardown {s : State} (inv : Inv s) : Inv s.teardown := by
  unfold State.teardown
  cases last : s.lastInstance with
  | none =>
    have silent : s.signal = s := by simp only [State.signal, inv.owner, last]
    simp only [silent]
    exact inv.loop .returned nofun
  | some g => exact inv.signal (.stopping g)

theorem Inv.start : Inv .start := by
  refine ⟨?_, ?_, rfl, nofun⟩ <;> intro g i found
  · exact absurd found (by simp [State.start])
  · exact absurd found (by simp [State.start])

theorem Inv.step {s t : State} {a : Action} (inv : Inv s) (moved : step s a = some t) : Inv t := by
  cases a with
  | general config =>
    obtain ⟨-, ⟨⟩⟩ := Option.ite_none_right_eq_some.mp moved
    exact inv.restart config
  | serviceChange ev =>
    obtain ⟨-, ⟨⟩⟩ := Option.ite_none_right_eq_some.mp moved
    split
    · exact inv
    · exact inv.loop (.forwarding ev) nofun
  | eventsClosed =>
    obtain ⟨-, ⟨⟩⟩ := Option.ite_none_right_eq_some.mp moved
    exact inv.teardown
  | processShutdown =>
    obtain ⟨-, ⟨⟩⟩ := Option.ite_none_right_eq_some.mp moved
    exact inv.teardown
  | forward =>
    obtain ⟨g, ev, -, rfl | rfl⟩ := forward_cases moved
    · exact inv.loop .selecting nofun
    · exact (inv.update g _ fun i _ sound => sound.updates _).loop .selecting nofun
  | join =>
    obtain ⟨g, config, restarting, -, rfl⟩ | ⟨g, -, -, rfl⟩ := join_cases moved
    · exact inv.spawn (inv.idle g (by rw [State.awaited, restarting])) config
    · exact inv.loop .returned nofun
  | poll g =>
    obtain ⟨i, found, ready, rfl⟩ := onInstance_cases moved
    refine inv.update g _ fun i' found' sound => sound.poll ?_
    obtain rfl := Option.some.inj (found.symm.trans found')
    simpa using ready
  | receiveShutdown g =>
    obtain ⟨i, found, ready, rfl⟩ := onInstance_cases moved
    refine inv.update g _ fun i' found' sound => sound.finish ?_
    obtain rfl := Option.some.inj (found.symm.trans found')
    exact (of_decide_eq_true ready).1
  | takeUpdate g =>
    obtain ⟨i, -, -, rfl⟩ := onInstance_cases moved
    exact inv.update g _ fun i' _ sound => sound.updates _
  | exit g =>
    obtain ⟨i, found, ready, rfl⟩ := onInstance_cases moved
    refine inv.update g _ fun i' found' sound => sound.finish ?_
    obtain rfl := Option.some.inj (found.symm.trans found')
    simpa using ready

theorem inv_of_reach {s : State} (reached : system.Reachable s) : Inv s :=
  reached.invariant (fun _ initial => initial ▸ .start) fun _ _ _ _ moved inv => inv.step moved

/-- A spawned task holds a sender and has no receiver: it observes nothing. -/
theorem Generation.Sound.not_observable {held : Bool} {i : Generation} (sound : i.Sound held)
    (spawned : i.task = .spawned) : ¬ i.Observable := by
  rintro (finished | pending | closed)
  · rw [spawned] at finished
    cases finished
  · exact Broadcast.Channel.not_pending_of_vacant () (sound.unsubscribed spawned) pending
  · have senders := sound.senders
    simp only [Closed] at closed
    simp [closed, spawned] at senders

/-- The value sent to a task that was polled before is pending on its receiver. -/
theorem Generation.Sound.signal_observable {held : Bool} {i : Generation} (sound : i.Sound held)
    (polled : i.task ≠ .spawned) :
    Generation.Observable { i with shutdown := (i.shutdown.send true).dropSender } := by
  by_cases running : i.task = .running
  · obtain ⟨c, found, bounded⟩ := sound.subscribed running
    exact .inr (.inl (Broadcast.Channel.send_pending true found bounded))
  · exact .inl (by cases task : i.task <;> simp_all)

theorem NoLostShutdown.quiet {s : State} (quiet : s.awaited = none) : NoLostShutdown s := by
  intro g i waiting
  rw [quiet] at waiting
  cases waiting

theorem NoLostShutdown.update {s : State} (safe : NoLostShutdown s) (g : Nat)
    (f : Generation → Generation)
    (keep : ∀ i, s.generations.lookup g = some i → i.Observable → (f i).Observable) :
    NoLostShutdown (s.update g f) := by
  intro g' i' waiting found
  rw [lookup_update] at found
  split at found
  · next same =>
    subst same
    obtain ⟨i, before, rfl⟩ := Option.map_eq_some_iff.mp found
    exact keep i before (safe _ i waiting before)
  · exact safe g' i' waiting found

/-- Sending the shutdown value to a polled instance and waiting for it. -/
theorem Inv.signal_safe {s : State} {g : Nat} (inv : Inv s) (loop : Loop)
    (last : s.lastInstance = some g)
    (polled : ∀ i, s.generations.lookup g = some i → i.task ≠ .spawned)
    (waiting : State.awaited { s with loop := loop } = some g) :
    NoLostShutdown { s.signal with loop := loop, lastInstance := none } := by
  intro g' i' waiting' found
  obtain rfl : g = g' := Option.some.inj (waiting.symm.trans waiting')
  simp only [State.signal, inv.owner.trans last] at found
  rw [lookup_update, if_pos rfl] at found
  obtain ⟨i, before, rfl⟩ := Option.map_eq_some_iff.mp found
  exact (inv.sound g i before).signal_observable (polled i before)

theorem Inv.restart_safe {s : State} (inv : Inv s) (config : Config)
    (polled : Polled s (.general config)) : NoLostShutdown (s.restart config) := by
  unfold State.restart
  cases last : s.lastInstance with
  | none => exact .quiet rfl
  | some g => exact inv.signal_safe (.restarting g config) last (polled rfl g · last) rfl

theorem Inv.teardown_safe {s : State} (inv : Inv s)
    (polled : ∀ g i, s.lastInstance = some g → s.generations.lookup g = some i →
      i.task ≠ .spawned) : NoLostShutdown s.teardown := by
  unfold State.teardown
  cases last : s.lastInstance with
  | none => exact .quiet rfl
  | some g => exact inv.signal_safe (.stopping g) last (polled g · last) rfl

theorem NoLostShutdown.step {s t : State} {a : Action} (safe : NoLostShutdown s) (inv : Inv s)
    (polled : Polled s a) (moved : step s a = some t) : NoLostShutdown t := by
  cases a with
  | general config =>
    obtain ⟨-, ⟨⟩⟩ := Option.ite_none_right_eq_some.mp moved
    exact inv.restart_safe config polled
  | serviceChange ev =>
    obtain ⟨-, ⟨⟩⟩ := Option.ite_none_right_eq_some.mp moved
    split
    · exact safe
    · exact .quiet rfl
  | eventsClosed =>
    obtain ⟨-, ⟨⟩⟩ := Option.ite_none_right_eq_some.mp moved
    exact inv.teardown_safe (polled rfl)
  | processShutdown =>
    obtain ⟨-, ⟨⟩⟩ := Option.ite_none_right_eq_some.mp moved
    exact inv.teardown_safe (polled rfl)
  | forward =>
    obtain ⟨g, ev, -, rfl | rfl⟩ := forward_cases moved <;> exact .quiet rfl
  | join =>
    obtain ⟨g, config, -, -, rfl⟩ | ⟨g, -, -, rfl⟩ := join_cases moved <;> exact .quiet rfl
  | poll g =>
    obtain ⟨i, found, ready, rfl⟩ := onInstance_cases moved
    refine safe.update g _ fun i' found' observable => ?_
    obtain rfl := Option.some.inj (found.symm.trans found')
    exact absurd observable ((inv.sound g i found).not_observable (by simpa using ready))
  | receiveShutdown g =>
    obtain ⟨i, -, -, rfl⟩ := onInstance_cases moved
    exact safe.update g _ fun _ _ _ => .inl rfl
  | takeUpdate g =>
    obtain ⟨i, -, -, rfl⟩ := onInstance_cases moved
    exact safe.update g _ fun _ _ observable => observable
  | exit g =>
    obtain ⟨i, -, -, rfl⟩ := onInstance_cases moved
    exact safe.update g _ fun _ _ _ => .inl rfl

/-- While shutdown values go only to instances that were polled before, the
generation the supervisor waits on always observes its shutdown. -/
theorem no_lost_shutdown_of_polled {s : State} (reached : system.Reach Polled s) :
    NoLostShutdown s :=
  reached.invariant_with (fun _ known => inv_of_reach known.reachable)
    (fun _ initial => initial ▸ .quiet rfl)
    fun _ _ _ inv _ polled moved safe => safe.step inv polled moved

/-- A config with an empty server section, for the runs on fixed inputs below. -/
def serverOn (bindAddr : String) : Config where
  server := some ⟨bindAddr, none, ∅, .default, defaultHeartbeatInterval⟩
  client := none

/-- Two General changes in a row with the first instance polled in between. -/
theorem no_lost_shutdown_polled_restart :
    ∃ s, system.Reach Polled s ∧ s.awaited = some 0 ∧ NoLostShutdown s := by
  have start : system.Reach Polled .start := .start rfl
  have spawned : system.Reach Polled (State.spawnInstance .start (serverOn "0.0.0.0:2333")) := by
    refine start.next (a := .general (serverOn "0.0.0.0:2333")) ?_ rfl
    intro _ _ _ last
    cases last
  have running := spawned.next (a := .poll 0) (by intro signals; cases signals) rfl
  have waiting := running.next (a := .general (serverOn "0.0.0.0:2334"))
    (by intro _ _ _ last found; cases last; cases found; simp [Generation.poll]) rfl
  exact ⟨_, waiting, rfl, no_lost_shutdown_of_polled waiting⟩

/-- Two General changes before the first instance is polled: the value is sent to a
channel without receivers, and the task keeps its own sender of that channel. -/
theorem shutdown_lost_before_first_poll : ¬ ∀ s, system.Reachable s → NoLostShutdown s := by
  intro safe
  have start : system.Reachable .start := .start rfl
  have spawned := start.next trivial (a := .general (serverOn "0.0.0.0:2333")) rfl
  have waiting := spawned.next trivial (a := .general (serverOn "0.0.0.0:2334")) rfl
  rcases safe _ waiting 0 _ rfl rfl with finished | pending | closed
  · cases finished
  · exact Broadcast.Channel.not_pending_of_vacant () rfl pending
  · cases closed

/-- The supervisor waits for generation `g`, which cannot see its shutdown. -/
def Deaf (g : Nat) (s : State) : Prop :=
  s.awaited = some g ∧ ∃ i, s.generations.lookup g = some i ∧ ¬ i.Observable

theorem Deaf.loop {s : State} {g : Nat} (deaf : Deaf g s) :
    (∃ config, s.loop = .restarting g config) ∨ s.loop = .stopping g := by
  have waiting := deaf.1
  unfold State.awaited at waiting
  split at waiting
  · next h config restarting =>
    cases waiting
    exact .inl ⟨config, restarting⟩
  · next h stopping =>
    cases waiting
    exact .inr stopping
  · cases waiting

theorem Deaf.not_selecting {s : State} {g : Nat} (deaf : Deaf g s) : s.loop ≠ .selecting := by
  rcases deaf.loop with ⟨config, loop⟩ | loop <;> simp [loop]

theorem Deaf.not_finished {s : State} {g : Nat} (deaf : Deaf g s) : s.finished g = false := by
  obtain ⟨-, i, found, silent⟩ := deaf
  have unfinished : i.task ≠ .finished := fun gone => silent (.inl gone)
  simp [State.finished, found, unfinished]

theorem Deaf.update {s : State} {g : Nat} (deaf : Deaf g s) (h : Nat)
    (f : Generation → Generation)
    (keep : ∀ i, h = g → s.generations.lookup g = some i → ¬ i.Observable →
      ¬ (f i).Observable) : Deaf g (s.update h f) := by
  obtain ⟨waiting, i, found, silent⟩ := deaf
  refine ⟨waiting, ?_⟩
  by_cases same : h = g
  · subst same
    exact ⟨f i, by rw [lookup_update, if_pos rfl, found]; rfl, keep i rfl found silent⟩
  · exact ⟨i, by rw [lookup_update, if_neg (Ne.symm same), found], silent⟩

theorem Generation.Sound.poll_not_observable {held : Bool} {i : Generation}
    (sound : i.Sound held) (spawned : i.task = .spawned) : ¬ i.poll.Observable := by
  rintro (finished | pending | closed)
  · cases finished
  · exact Broadcast.Channel.subscribe_not_pending i.shutdown () pending
  · have senders := (sound.poll spawned).senders
    rw [show i.poll.shutdown.senders = 0 from closed] at senders
    simp [Generation.poll] at senders

/-- A running instance that has nothing to observe is not woken by its receiver. -/
theorem Generation.Sound.recv_empty {held : Bool} {i : Generation} (sound : i.Sound held)
    (running : i.task = .running) (silent : ¬ i.Observable) :
    (i.shutdown.recv ()).1 = .empty := by
  obtain ⟨c, found, -⟩ := sound.subscribed running
  refine Broadcast.Channel.recv_empty_iff.mpr ⟨⟨c, found, ?_⟩, fun closed => ?_⟩
  · by_contra ahead
    exact silent (.inr (.inl ⟨c, found, Nat.lt_of_not_le ahead⟩))
  · exact silent (.inr (.inr closed))

theorem Deaf.step {s t : State} {g : Nat} {a : Action} (deaf : Deaf g s) (inv : Inv s)
    (other : a ≠ .exit g) (moved : step s a = some t) : Deaf g t := by
  cases a with
  | general config =>
    exact absurd (Option.ite_none_right_eq_some.mp moved).1 deaf.not_selecting
  | serviceChange ev =>
    exact absurd (Option.ite_none_right_eq_some.mp moved).1.1 deaf.not_selecting
  | eventsClosed =>
    exact absurd (Option.ite_none_right_eq_some.mp moved).1 deaf.not_selecting
  | processShutdown =>
    exact absurd (Option.ite_none_right_eq_some.mp moved).1 deaf.not_selecting
  | forward =>
    obtain ⟨-, ev, forwarding, -⟩ := forward_cases moved
    rcases deaf.loop with ⟨config, loop⟩ | loop <;> simp [loop] at forwarding
  | join =>
    have unfinished := deaf.not_finished
    obtain ⟨h, config, loop, gone, -⟩ | ⟨h, loop, gone, -⟩ := join_cases moved <;>
    · have same := deaf.1
      simp only [State.awaited, loop, Option.some.injEq] at same
      rw [same, unfinished] at gone
      cases gone
  | poll h =>
    obtain ⟨i, found, ready, rfl⟩ := onInstance_cases moved
    refine deaf.update h _ fun i' same found' _ => ?_
    obtain rfl := Option.some.inj (found.symm.trans (same ▸ found'))
    exact (inv.sound h i found).poll_not_observable (by simpa using ready)
  | receiveShutdown h =>
    obtain ⟨i, found, ready, rfl⟩ := onInstance_cases moved
    refine deaf.update h _ fun i' same found' silent => ?_
    obtain rfl := Option.some.inj (found.symm.trans (same ▸ found'))
    obtain ⟨running, heard⟩ := of_decide_eq_true ready
    exact absurd ((inv.sound h i found).recv_empty running silent) heard
  | takeUpdate h =>
    obtain ⟨i, -, -, rfl⟩ := onInstance_cases moved
    exact deaf.update h _ fun _ _ _ silent => silent
  | exit h =>
    obtain ⟨i, -, -, rfl⟩ := onInstance_cases moved
    exact deaf.update h _ fun _ same => absurd (congrArg Action.exit same) other

theorem Deaf.run {s t : State} {g : Nat} {as : List Action} (deaf : Deaf g s)
    (reached : system.Reachable s) (run : system.Run (fun _ a => a ≠ .exit g) s as t) :
    Deaf g t := by
  have both := run.invariant (I := fun s => Inv s ∧ Deaf g s)
    (fun s a t other moved ⟨inv, deaf⟩ => ⟨inv.step moved, deaf.step inv other moved⟩)
    ⟨inv_of_reach reached, deaf⟩
  exact both.2

/-- A generation signalled before its first poll. -/
theorem deaf_of_signal {s : State} {g : Nat} {i : Generation} (inv : Inv s) (loop : Loop)
    (last : s.lastInstance = some g) (found : s.generations.lookup g = some i)
    (spawned : i.task = .spawned)
    (waiting : State.awaited { s with loop := loop } = some g) :
    Deaf g { s.signal with loop := loop, lastInstance := none } := by
  have held := inv.owner.trans last
  have vacant := (inv.sound g i found).unsubscribed spawned
  have sound : Generation.Sound true i := by simpa [held] using inv.sound g i found
  refine ⟨waiting, _, ?_, sound.signal.not_observable spawned⟩
  simp only [State.signal, held]
  rw [lookup_update, if_pos rfl, found]
  rfl

/-- The condition is needed at every step: a shutdown sent to an instance that was
never polled is not observed in any continuation in which the instance does not end
for a reason of its own. -/
theorem shutdown_lost_of_not_polled {s t : State} {a : Action} (reached : system.Reachable s)
    (moved : step s a = some t) (unpolled : ¬ Polled s a) :
    ∃ g, Deaf g t ∧ ∀ as u, system.Run (fun _ a => a ≠ .exit g) t as u → Deaf g u := by
  have inv := inv_of_reach reached
  simp only [Polled, Classical.not_imp, not_forall, ne_eq, not_not] at unpolled
  obtain ⟨signals, g, i, last, found, spawned⟩ := unpolled
  have deaf : Deaf g t := by
    cases a with
    | general config =>
      obtain ⟨-, ⟨⟩⟩ := Option.ite_none_right_eq_some.mp moved
      simp only [State.restart, last]
      exact deaf_of_signal inv (.restarting g config) last found spawned rfl
    | eventsClosed | processShutdown =>
      obtain ⟨-, ⟨⟩⟩ := Option.ite_none_right_eq_some.mp moved
      simp only [State.teardown, last]
      exact deaf_of_signal inv (.stopping g) last found spawned rfl
    | _ => cases signals
  exact ⟨g, deaf, fun as u run => deaf.run (reached.next trivial moved) run⟩

end Rathole.Supervisor
