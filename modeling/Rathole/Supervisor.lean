import Rathole.ConfigChange
import Rathole.Broadcast
import Rathole.Transition

set_option autoImplicit false

/- The main loop of `run_with_config` and the instance tasks it spawns, one
generation for each General change. -/
namespace Rathole.Supervisor

/-- A spawned instance: not polled yet, inside `run_instance`, or joined/joinable. -/
inductive InstanceTask
  | spawned | running | finished
  deriving DecidableEq

/-- One generation: its task, the shutdown channel the task listens on (receiver
`()`), and the queue of forwarded service updates. -/
structure Generation where
  config : Config
  task : InstanceTask
  shutdown : Broadcast.Channel Unit Bool
  updates : List ConfigChange

/-- Where the supervisor stands: at its `select!`, in `service_update_tx.send`,
in `instance.await` of a General change, in `i.await` of the teardown, or done. -/
inductive Loop
  | selecting
  | forwarding (ev : ConfigChange)
  | restarting (g : Nat) (config : Config)
  | stopping (g : Nat)
  | returned
  deriving DecidableEq

structure State where
  loop : Loop
  lastInstance : Option Nat
  instanceShutdownTx : Option Nat
  generations : HashMap Nat Generation
  count : Nat

inductive Action
  | general (config : Config)
  | serviceChange (ev : ConfigChange)
  | eventsClosed
  | processShutdown
  | forward
  | join
  | poll (g : Nat)
  | receiveShutdown (g : Nat)
  | takeUpdate (g : Nat)
  | exit (g : Nat)

def serviceUpdateCapacity : Nat := 1024

def State.start : State := ⟨.selecting, none, none, ∅, 0⟩

def State.update (s : State) (g : Nat) (f : Generation → Generation) : State :=
  { s with generations := HashMap.modify s.generations g f }

/-- `let (itx, _) = broadcast::channel(1)`: one sender stays with the supervisor,
the other is moved into the spawned task, which subscribes when first polled. -/
def State.spawnInstance (s : State) (config : Config) : State :=
  { s with
    loop := .selecting
    lastInstance := some s.count
    instanceShutdownTx := some s.count
    generations := s.generations.insert s.count ⟨config, .spawned, (.clone (.new 1)), []⟩
    count := s.count + 1 }

/-- `if let Some(tx) = instance_shutdown_tx.take() { let _ = tx.send(true); }` -/
def State.signal (s : State) : State :=
  match s.instanceShutdownTx with
  | none => s
  | some g =>
    { s.update g fun i => { i with shutdown := (i.shutdown.send true).dropSender } with
      instanceShutdownTx := none }

/-- A General change stops the last instance and waits for it before the next starts. -/
def State.restart (s : State) (config : Config) : State :=
  match s.lastInstance with
  | none => s.spawnInstance config
  | some g => { s.signal with loop := .restarting g config, lastInstance := none }

def State.teardown (s : State) : State :=
  match s.lastInstance with
  | none => { s.signal with loop := .returned }
  | some g => { s.signal with loop := .stopping g, lastInstance := none }

def Generation.poll (i : Generation) : Generation :=
  { i with task := .running, shutdown := i.shutdown.subscribe () }

/-- The task ends: its receiver and its clone of the sender are dropped. -/
def Generation.finish (i : Generation) : Generation :=
  { i with task := .finished, shutdown := (i.shutdown.dropReceiver ()).dropSender }

/-- A step of an instance task. -/
def State.onInstance (s : State) (g : Nat) (ready : Generation → Bool)
    (f : Generation → Generation) : Option State :=
  match s.generations.lookup g with
  | none => none
  | some i => if ready i then some (s.update g f) else none

def State.forward (s : State) : Option State :=
  match s.loop, s.lastInstance with
  | .forwarding ev, some g =>
    match s.generations.lookup g with
    | none => none
    | some i =>
      -- The receiver is gone: the send fails and its result is discarded.
      if i.task = .finished then some { s with loop := .selecting }
      else if i.updates.length < serviceUpdateCapacity then
        some { s.update g fun i => { i with updates := i.updates ++ [ev] } with
          loop := .selecting }
      else none
  | _, _ => none

def State.finished (s : State) (g : Nat) : Bool :=
  match s.generations.lookup g with
  | some i => i.task = .finished
  | none => false

def State.join (s : State) : Option State :=
  match s.loop with
  | .restarting g config => if s.finished g then some (s.spawnInstance config) else none
  | .stopping g => if s.finished g then some { s with loop := .returned } else none
  | _ => none

def step (s : State) : Action → Option State
  | .general config => if s.loop = .selecting then some (s.restart config) else none
  | .serviceChange ev =>
    if s.loop = .selecting ∧ ev.isGeneral = false then
      some (match s.lastInstance with
        | none => s
        | some _ => { s with loop := .forwarding ev })
    else none
  | .eventsClosed => if s.loop = .selecting then some s.teardown else none
  | .processShutdown => if s.loop = .selecting then some s.teardown else none
  | .forward => s.forward
  | .join => s.join
  | .poll g => s.onInstance g (fun i => i.task = .spawned) .poll
  | .receiveShutdown g =>
    s.onInstance g (fun i => i.task = .running ∧ (i.shutdown.recv ()).1 ≠ .empty) .finish
  | .takeUpdate g =>
    s.onInstance g (fun i => i.task = .running ∧ i.updates ≠ [])
      fun i => { i with updates := i.updates.tail }
  | .exit g => s.onInstance g (fun i => i.task = .running) .finish

def system : Transition.System State Action where
  init s := s = .start
  step := step

end Rathole.Supervisor
