import Rathole.SupervisorConverges

set_option autoImplicit false

/- The status endpoint of each generation: an accept loop on one abstract name, in a task that
nobody waits for. -/
namespace Rathole.StatusEndpoint

open Supervisor (Generation RunArgs InstanceTask Inv)
open Broadcast (Channel)
open Transition.System (Free)

/-- The listener that holds the name, with the registry of its generation. Its task listens to
the shutdown channel of the generation from `cursor` on. -/
structure Listener where
  generation : Nat
  cursor : Nat
  deriving DecidableEq

/-- `refused` lists the generations that found the name taken, with the holder: history only. -/
structure State where
  supervisor : Supervisor.State
  bound : Option Listener
  refused : List (Nat × Nat)

/-- The first poll of an instance runs up to the end of `spawn_runtime_status_server`: there is
no await before. `adopted` says whether the bound listener could be handed to the runtime. -/
inductive Action
  | supervisor (a : Supervisor.Action)
  | poll (g : Nat) (adopted : Bool)
  | acceptShutdown
  | acceptError

def isPoll : Supervisor.Action → Bool
  | .poll _ => true
  | _ => false

namespace State

def start : State := ⟨.start, none, []⟩

/-- A value was sent after the receiver subscribed, or every sender is gone. -/
def woken (s : State) (l : Listener) : Bool :=
  match s.supervisor.generations.lookup l.generation with
  | some i => l.cursor < i.shutdown.log.length || i.shutdown.senders = 0
  | none => false

/-- A failed bind is logged, and the instance runs without an endpoint. -/
def spawnRuntimeStatusServer (s : State) (g : Nat) (i : Generation) (adopted : Bool) : State :=
  match s.bound with
  | some l => { s with refused := s.refused ++ [(g, l.generation)] }
  | none => if adopted then { s with bound := some ⟨g, i.shutdown.log.length⟩ } else s

def poll (args : RunArgs) (s : State) (g : Nat) (adopted : Bool) : Option State :=
  match s.supervisor.generations.lookup g with
  | none => none
  | some i =>
    (Supervisor.step s.supervisor (.poll g)).map fun t =>
      let s := { s with supervisor := t }
      if (i.mode args).runs then s.spawnRuntimeStatusServer g i adopted else s

/-- The accept loop is polled, and ends when it has its shutdown. -/
def acceptShutdown (s : State) : Option State :=
  match s.bound with
  | some l => if s.woken l then some { s with bound := none } else none
  | none => none

end State

def step (args : RunArgs) (s : State) : Action → Option State
  | .supervisor a =>
    if isPoll a then none
    else (Supervisor.step s.supervisor a).map fun t => { s with supervisor := t }
  | .poll g adopted => s.poll args g adopted
  | .acceptShutdown => s.acceptShutdown
  | .acceptError => if s.bound.isSome then some { s with bound := none } else none

def system (args : RunArgs) : Transition.System State Action where
  init s := s = .start
  step := step args

/-- No generation finds the name taken by an earlier one, and a connection made while one runs
does not reach the listener of an earlier one. -/
structure OwnEndpoint (s : State) : Prop where
  binds : ∀ g holder, (g, holder) ∈ s.refused → ¬ holder < g
  answers : ∀ g i l, s.supervisor.generations.lookup g = some i → i.task = .running →
    s.bound = some l → ¬ l.generation < g

/-- When an instance starts, no accept loop that was woken by its shutdown is still to run. -/
def Polled (s : State) : Action → Prop
  | .poll _ _ => ∀ l, s.bound = some l → s.woken l = false
  | _ => True

section Generations

variable {s t : Supervisor.State}

/-- Only the generation that the supervisor holds or waits for is alive. -/
def OneAlive (s : Supervisor.State) : Prop :=
  ∀ g i, s.generations.lookup g = some i → i.task ≠ .finished →
    s.lastInstance = some g ∨ s.awaited = some g

theorem OneAlive.update (alive : OneAlive s) (g : Nat) (f : Generation → Generation)
    (keep : ∀ i, s.generations.lookup g = some i → (f i).task ≠ .finished →
      i.task ≠ .finished) : OneAlive (s.update g f) := by
  intro g' j found live
  rw [Supervisor.lookup_update] at found
  split at found
  · next same =>
    subst same
    obtain ⟨i, before, changed⟩ := Option.map_eq_some_iff.mp found
    subst changed
    exact alive _ i before (keep i before live)
  · exact alive g' j found live

/-- Nothing is alive while the supervisor neither holds nor awaits a generation. -/
theorem OneAlive.dead (alive : OneAlive s) (vacant : s.lastInstance = none)
    (idle : ∀ g, s.awaited = some g → s.finished g = true) {g : Nat} {i : Generation}
    (found : s.generations.lookup g = some i) : i.task = .finished := by
  by_contra live
  rcases alive g i found live with held | waiting
  · rw [vacant] at held
    cases held
  · have ended := idle g waiting
    simp only [Supervisor.State.finished, found, decide_eq_true_eq] at ended
    exact live ended

theorem OneAlive.spawn (dead : ∀ g i, s.generations.lookup g = some i → i.task = .finished)
    (config : Config) : OneAlive (s.spawnInstance config) := by
  intro g i found live
  simp only [Supervisor.State.spawnInstance, lookup_insert_eq] at found ⊢
  split at found
  · next here => exact Or.inl (congrArg some here.symm)
  · exact absurd (dead g i found) live

/-- The last instance is told to end, and awaited. -/
theorem OneAlive.signal (alive : OneAlive s) {g : Nat} (last : s.lastInstance = some g)
    (quiet : s.awaited = none) (loop : Supervisor.Loop)
    (waiting : Supervisor.State.awaited { s with loop := loop } = some g) :
    OneAlive { s.signal with loop := loop, lastInstance := none } := by
  have only : ∀ g' i, s.generations.lookup g' = some i → i.task ≠ .finished → g' = g := by
    intro g' i found live
    rcases alive g' i found live with held | busy
    · exact Option.some.inj (held.symm.trans last)
    · rw [quiet] at busy
      cases busy
  intro g' i found live
  have waits : Supervisor.State.awaited { s.signal with loop := loop, lastInstance := none } =
      some g := waiting
  rw [waits]
  apply Or.inr
  have before : ∃ j, s.generations.lookup g' = some j ∧ j.task = i.task := by
    unfold Supervisor.State.signal at found
    split at found
    · exact ⟨i, found, rfl⟩
    · next h held =>
      rw [Supervisor.lookup_update] at found
      split at found
      · next same =>
        subst same
        obtain ⟨j, before, changed⟩ := Option.map_eq_some_iff.mp found
        subst changed
        exact ⟨j, before, rfl⟩
      · exact ⟨i, found, rfl⟩
  obtain ⟨j, held, same⟩ := before
  rw [only g' j held (same ▸ live)]

theorem OneAlive.loop (alive : OneAlive s) (loop : Supervisor.Loop)
    (quiet : s.awaited = none) : OneAlive { s with loop := loop } := by
  intro g i found live
  rcases alive g i found live with held | busy
  · exact Or.inl held
  · rw [quiet] at busy
    cases busy

theorem awaited_selecting (selecting : s.loop = .selecting) : s.awaited = none := by
  rw [Supervisor.State.awaited, selecting]

theorem OneAlive.restart (alive : OneAlive s) (selecting : s.loop = .selecting)
    (config : Config) : OneAlive (s.restart config) := by
  have quiet := awaited_selecting selecting
  unfold Supervisor.State.restart
  cases last : s.lastInstance with
  | none =>
    apply OneAlive.spawn
    intro g i found
    apply alive.dead last _ found
    intro g waiting
    rw [quiet] at waiting
    cases waiting
  | some g => exact alive.signal last quiet (.restarting g config) rfl

theorem OneAlive.teardown (inv : Inv s) (alive : OneAlive s) (selecting : s.loop = .selecting) :
    OneAlive s.teardown := by
  have quiet := awaited_selecting selecting
  unfold Supervisor.State.teardown
  cases last : s.lastInstance with
  | none =>
    have silent : s.signal = s := by simp only [Supervisor.State.signal, inv.owner, last]
    rw [silent]
    exact alive.loop .returned quiet
  | some g => exact alive.signal last quiet (.stopping g) rfl

theorem OneAlive.join (inv : Inv s) (alive : OneAlive s) (moved : s.join = some t) :
    OneAlive t := by
  obtain ⟨g, config, restarting, gone, rfl⟩ | ⟨g, stopping, gone, rfl⟩ :=
    Supervisor.join_cases moved
  · have waiting : s.awaited = some g := by rw [Supervisor.State.awaited, restarting]
    apply OneAlive.spawn
    intro g' i found
    apply alive.dead (inv.idle g waiting) _ found
    intro g' waiting'
    exact Option.some.inj (waiting.symm.trans waiting') ▸ gone
  · have waiting : s.awaited = some g := by rw [Supervisor.State.awaited, stopping]
    intro g' i found live
    apply absurd _ live
    apply alive.dead (inv.idle g waiting) _ found
    intro g' waiting'
    exact Option.some.inj (waiting.symm.trans waiting') ▸ gone

theorem OneAlive.forward (alive : OneAlive s) (moved : s.forward = some t) : OneAlive t := by
  obtain ⟨g, ev, forwarding, rfl | rfl⟩ := Supervisor.forward_cases moved
  · apply alive.loop
    rw [Supervisor.State.awaited, forwarding]
  · apply OneAlive.loop
    · exact alive.update g _ fun i _ live => live
    · show Supervisor.State.awaited s = none
      rw [Supervisor.State.awaited, forwarding]

theorem OneAlive.step {a : Supervisor.Action} (inv : Inv s) (alive : OneAlive s)
    (moved : Supervisor.step s a = some t) : OneAlive t := by
  cases a with
  | general config =>
    obtain ⟨selecting, same⟩ := Option.ite_none_right_eq_some.mp moved
    cases same
    exact alive.restart selecting config
  | serviceChange ev =>
    obtain ⟨⟨selecting, -⟩, same⟩ := Option.ite_none_right_eq_some.mp moved
    cases same
    split
    · exact alive
    · exact alive.loop (.forwarding ev) (awaited_selecting selecting)
  | eventsClosed =>
    obtain ⟨selecting, same⟩ := Option.ite_none_right_eq_some.mp moved
    cases same
    exact OneAlive.teardown inv alive selecting
  | processShutdown =>
    obtain ⟨selecting, same⟩ := Option.ite_none_right_eq_some.mp moved
    cases same
    exact OneAlive.teardown inv alive selecting
  | forward => exact alive.forward moved
  | join => exact OneAlive.join inv alive moved
  | poll g =>
    obtain ⟨i, held, ready, same⟩ := Supervisor.onInstance_cases moved
    subst same
    apply alive.update
    intro j found _
    have same : i = j := Option.some.inj (held.symm.trans found)
    simp [← same, of_decide_eq_true ready]
  | receiveShutdown g =>
    obtain ⟨i, -, -, same⟩ := Supervisor.onInstance_cases moved
    subst same
    exact alive.update g _ fun i _ live => absurd rfl live
  | takeUpdate g =>
    obtain ⟨i, -, -, same⟩ := Supervisor.onInstance_cases moved
    subst same
    exact alive.update g _ fun i _ live => live
  | exit g =>
    obtain ⟨i, -, -, same⟩ := Supervisor.onInstance_cases moved
    subst same
    exact alive.update g _ fun i _ live => absurd rfl live

/-- No step but its first poll lets an instance run, and none takes it back. -/
structure Ages (s t : Supervisor.State) : Prop where
  running : ∀ g j, t.generations.lookup g = some j → j.task = .running →
    ∃ i, s.generations.lookup g = some i ∧ i.task = .running
  polled : ∀ g i, s.generations.lookup g = some i → i.task ≠ .spawned →
    ∃ j, t.generations.lookup g = some j ∧ j.task ≠ .spawned

theorem Ages.same (generations : t.generations = s.generations) : Ages s t := by
  constructor
  · intro g j found running
    exact ⟨j, generations ▸ found, running⟩
  · intro g i found polled
    exact ⟨i, generations ▸ found, polled⟩

theorem Ages.update (s : Supervisor.State) (g : Nat) (f : Generation → Generation)
    (keep : ∀ i, (f i).task = i.task ∨ (f i).task = .finished) : Ages s (s.update g f) := by
  constructor
  · intro g' j found running
    rw [Supervisor.lookup_update] at found
    split at found
    · next here =>
      subst here
      obtain ⟨i, before, changed⟩ := Option.map_eq_some_iff.mp found
      subst changed
      rcases keep i with same | ended
      · exact ⟨i, before, same ▸ running⟩
      · simp [ended] at running
    · exact ⟨j, found, running⟩
  · intro g' i found polled
    rw [Supervisor.lookup_update]
    split
    · next here =>
      subst here
      refine ⟨f i, by rw [found]; rfl, ?_⟩
      rcases keep i with same | ended
      · exact same ▸ polled
      · simp [ended]
    · exact ⟨i, found, polled⟩

theorem Ages.spawn (inv : Inv s) (config : Config) : Ages s (s.spawnInstance config) := by
  constructor
  · intro g j found running
    simp only [Supervisor.State.spawnInstance, lookup_insert_eq] at found
    split at found
    · cases found
      cases running
    · exact ⟨j, found, running⟩
  · intro g i found polled
    have below := inv.fresh g i found
    refine ⟨i, ?_, polled⟩
    simp only [Supervisor.State.spawnInstance, lookup_insert_eq]
    rw [if_neg (by omega), found]

theorem Ages.signal (s : Supervisor.State) : Ages s s.signal := by
  unfold Supervisor.State.signal
  split
  · exact .same rfl
  · next g held =>
    have aged := Ages.update s g
      (fun i => { i with shutdown := (i.shutdown.send true).dropSender }) fun i => Or.inl rfl
    exact ⟨aged.running, aged.polled⟩

theorem ages_of_step {a : Supervisor.Action} (inv : Inv s) (other : isPoll a = false)
    (moved : Supervisor.step s a = some t) : Ages s t := by
  have signals := Ages.signal s
  cases a with
  | general config =>
    obtain ⟨-, same⟩ := Option.ite_none_right_eq_some.mp moved
    cases same
    unfold Supervisor.State.restart
    split
    · exact .spawn inv config
    · exact ⟨signals.running, signals.polled⟩
  | serviceChange ev =>
    obtain ⟨-, same⟩ := Option.ite_none_right_eq_some.mp moved
    cases same
    split <;> exact .same rfl
  | eventsClosed =>
    obtain ⟨-, same⟩ := Option.ite_none_right_eq_some.mp moved
    cases same
    unfold Supervisor.State.teardown
    split <;> exact ⟨signals.running, signals.polled⟩
  | processShutdown =>
    obtain ⟨-, same⟩ := Option.ite_none_right_eq_some.mp moved
    cases same
    unfold Supervisor.State.teardown
    split <;> exact ⟨signals.running, signals.polled⟩
  | forward =>
    obtain ⟨g, ev, -, rfl | rfl⟩ := Supervisor.forward_cases moved
    · exact .same rfl
    · have aged := Ages.update s g (fun i => { i with updates := i.updates ++ [ev] })
        fun i => Or.inl rfl
      exact ⟨aged.running, aged.polled⟩
  | join =>
    obtain ⟨g, config, -, -, rfl⟩ | ⟨g, -, -, rfl⟩ := Supervisor.join_cases moved
    · exact .spawn inv config
    · exact .same rfl
  | poll g => cases other
  | receiveShutdown g =>
    obtain ⟨i, -, -, same⟩ := Supervisor.onInstance_cases moved
    subst same
    exact .update s g _ fun i => Or.inr rfl
  | takeUpdate g =>
    obtain ⟨i, -, -, same⟩ := Supervisor.onInstance_cases moved
    subst same
    exact .update s g _ fun i => Or.inl rfl
  | exit g =>
    obtain ⟨i, -, -, same⟩ := Supervisor.onInstance_cases moved
    subst same
    exact .update s g _ fun i => Or.inr rfl

end Generations

section Endpoint

variable {args : RunArgs} {s t : State} {a : Action}

structure Sound (s : State) : Prop where
  inv : Inv s.supervisor
  alive : OneAlive s.supervisor
  polled : ∀ l, s.bound = some l →
    ∃ i, s.supervisor.generations.lookup l.generation = some i ∧ i.task ≠ .spawned
  own : ∀ l g i, s.bound = some l → s.supervisor.generations.lookup g = some i →
    i.task = .running → l.generation = g
  refused : s.refused = []

/-- When the next generation starts, the shutdown channel of an ended one is closed. -/
theorem Sound.woken (sound : Sound s) {g : Nat} {i : Generation} {l : Listener}
    (found : s.supervisor.generations.lookup g = some i) (spawned : i.task = .spawned)
    (bound : s.bound = some l) : s.woken l = true := by
  obtain ⟨j, held, polled⟩ := sound.polled l bound
  have other : l.generation ≠ g := by
    intro same
    rw [same] at held
    cases held.symm.trans found
    exact polled spawned
  have ended : j.task = .finished := by
    by_contra live
    have current := sound.alive g i found (by simp [spawned])
    have earlier := sound.alive l.generation j held live
    have idle := sound.inv.idle
    rcases current with last | waiting <;> rcases earlier with before | before
    · exact other (Option.some.inj (before.symm.trans last))
    · rw [idle _ before] at last
      cases last
    · rw [idle _ waiting] at before
      cases before
    · exact other (Option.some.inj (before.symm.trans waiting))
  have dropped : s.supervisor.instanceShutdownTx ≠ some l.generation := by
    rw [sound.inv.owner]
    intro last
    rcases sound.alive g i found (by simp [spawned]) with current | waiting
    · exact other (Option.some.inj (last.symm.trans current))
    · rw [sound.inv.idle _ waiting] at last
      cases last
  have senders := (sound.inv.sound l.generation j held).senders
  rw [decide_eq_false dropped, if_pos ended] at senders
  simp [State.woken, held, senders]

theorem Sound.poll {g : Nat} {adopted : Bool} (sound : Sound s)
    (settled : Polled s (.poll g adopted)) (moved : s.poll args g adopted = some t) : Sound t := by
  unfold State.poll at moved
  split at moved
  · cases moved
  · next i found =>
    obtain ⟨u, stepped, same⟩ := Option.map_eq_some_iff.mp moved
    have inv := sound.inv.step stepped
    have alive := sound.alive.step sound.inv stepped
    obtain ⟨j, held, ready, changed⟩ := Supervisor.onInstance_cases stepped
    cases found.symm.trans held
    have spawned : i.task = .spawned := of_decide_eq_true ready
    have free : s.bound = none := by
      cases bound : s.bound with
      | none => rfl
      | some l =>
        have asleep := settled l bound
        rw [sound.woken found spawned bound] at asleep
        cases asleep
    have unbound : Sound { s with supervisor := u, bound := none } := by
      refine ⟨inv, alive, ?_, ?_, sound.refused⟩
      · intro l bound
        cases bound
      · intro l g' i' bound
        cases bound
    have now : u.generations.lookup g = some i.poll := by
      rw [changed, Supervisor.lookup_update, if_pos rfl, found]
      rfl
    subst same
    simp only [State.spawnRuntimeStatusServer, free]
    split
    · split
      · refine ⟨inv, alive, ?_, ?_, sound.refused⟩
        · intro l bound
          cases bound
          exact ⟨i.poll, now, by simp [Generation.poll]⟩
        · intro l g' j bound later running
          cases bound
          -- Two instances never run at once.
          have first := alive g i.poll now (by simp [Generation.poll])
          have second := alive g' j later (by simp [running])
          rcases first with last | waiting <;> rcases second with last' | waiting'
          · exact Option.some.inj (last.symm.trans last')
          · rw [inv.idle _ waiting'] at last
            cases last
          · rw [inv.idle _ waiting] at last'
            cases last'
          · exact Option.some.inj (waiting.symm.trans waiting')
      · exact unbound
    · exact unbound

/-- The endpoint is not touched, or it is closed. -/
theorem Sound.supervisor {b : Supervisor.Action} {u : Supervisor.State} (sound : Sound s)
    (other : isPoll b = false) (stepped : Supervisor.step s.supervisor b = some u) :
    Sound { s with supervisor := u } := by
  have aged := ages_of_step sound.inv other stepped
  refine ⟨sound.inv.step stepped, sound.alive.step sound.inv stepped, ?_, ?_, sound.refused⟩
  · intro l bound
    obtain ⟨i, found, polled⟩ := sound.polled l bound
    exact aged.polled l.generation i found polled
  · intro l g j bound found running
    obtain ⟨i, before, ran⟩ := aged.running g j found running
    exact sound.own l g i bound before ran

theorem Sound.unbound (sound : Sound s) : Sound { s with bound := none } := by
  refine ⟨sound.inv, sound.alive, ?_, ?_, sound.refused⟩
  · intro l bound
    cases bound
  · intro l g i bound
    cases bound

theorem Sound.step (sound : Sound s) (settled : Polled s a) (moved : step args s a = some t) :
    Sound t := by
  cases a with
  | supervisor b =>
    obtain ⟨other, moved⟩ := Option.ite_none_left_eq_some.mp moved
    obtain ⟨u, stepped, same⟩ := Option.map_eq_some_iff.mp moved
    subst same
    exact sound.supervisor (by simpa using other) stepped
  | poll g adopted => exact sound.poll settled moved
  | acceptShutdown =>
    change s.acceptShutdown = some t at moved
    unfold State.acceptShutdown at moved
    split at moved
    · obtain ⟨-, same⟩ := Option.ite_none_right_eq_some.mp moved
      cases same
      exact sound.unbound
    · cases moved
  | acceptError =>
    obtain ⟨-, same⟩ := Option.ite_none_right_eq_some.mp moved
    cases same
    exact sound.unbound

theorem sound_start : Sound .start := by
  refine ⟨.start, ?_, ?_, ?_, rfl⟩
  · intro g i found
    simp [State.start, Supervisor.State.start] at found
  · intro l bound
    cases bound
  · intro l g i bound
    cases bound

/-- In runs in which every accept loop that is told to end runs before the next instance
starts, each generation has the endpoint to itself. -/
theorem own_endpoint_of_polled (reached : (system args).Reach Polled s) : OwnEndpoint s := by
  have sound : Sound s := by
    apply reached.invariant
    · intro s initial
      exact initial ▸ sound_start
    · intro s a t settled moved sound
      exact sound.step settled moved
  constructor
  · intro g holder member
    rw [sound.refused] at member
    cases member
  · intro g i l found running bound
    rw [sound.own l g i bound found running]
    exact Nat.lt_irrefl g

/-- A generation that starts before an accept loop that was told to end has run again finds the
name taken. -/
theorem refused_of_unpolled {g : Nat} {i : Generation} {l : Listener} {adopted : Bool}
    (found : s.supervisor.generations.lookup g = some i) (runs : (i.mode args).runs = true)
    (bound : s.bound = some l) (moved : s.poll args g adopted = some t) :
    (g, l.generation) ∈ t.refused := by
  simp only [State.poll, found] at moved
  obtain ⟨u, -, same⟩ := Option.map_eq_some_iff.mp moved
  simp only [runs, if_true, State.spawnRuntimeStatusServer, bound] at same
  subst same
  simp

end Endpoint

/-- The accept loop of the first generation runs while its instance ends. -/
theorem own_endpoint_after_restart : ∃ s, (system Supervisor.noFlags).Reach Polled s ∧
    s.bound = some ⟨1, 0⟩ ∧ OwnEndpoint s := by
  have started : (system Supervisor.noFlags).Reach Polled .start := .start rfl
  have spawned := started.next (a := .supervisor (.general (webConfig "old")))
    (by exact trivial) rfl
  have bound := spawned.next (a := .poll 0 true) (by intro l held; cases held) rfl
  have changed := bound.next (a := .supervisor (.general (webConfig "new"))) (by exact trivial) rfl
  have closed := changed.next (a := .acceptShutdown) (by exact trivial) rfl
  have ended := closed.next (a := .supervisor (.receiveShutdown 0)) (by exact trivial) rfl
  have joined := ended.next (a := .supervisor .join) (by exact trivial) rfl
  have again := joined.next (a := .poll 1 true) (by intro l held; cases held) rfl
  exact ⟨_, again, rfl, own_endpoint_of_polled again⟩

/-- The second instance starts before the accept loop of the first has run again. -/
theorem name_taken_after_restart :
    ¬ ∀ (args : RunArgs) (s : State), (system args).Reachable s → OwnEndpoint s := by
  intro own
  have started : (system Supervisor.noFlags).Reachable .start := .start rfl
  have spawned := started.next (a := .supervisor (.general (webConfig "old"))) trivial rfl
  have bound := spawned.next (a := .poll 0 true) trivial rfl
  have changed := bound.next (a := .supervisor (.general (webConfig "new"))) trivial rfl
  have ended := changed.next (a := .supervisor (.receiveShutdown 0)) trivial rfl
  have joined := ended.next (a := .supervisor .join) trivial rfl
  have refused := joined.next (a := .poll 1 true) trivial rfl
  exact (own _ _ refused).binds 1 0 (List.mem_singleton_self _) (by decide)

end Rathole.StatusEndpoint
