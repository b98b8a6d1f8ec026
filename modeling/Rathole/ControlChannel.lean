import Mathlib.Algebra.Order.Ring.Rat
import Rathole.Transition

set_option autoImplicit false

/- The loop of a control channel on the server, with the queues its handle and the
connection pool feed. Time passes by a label of its own. -/
namespace Rathole.ControlChannel

/-- In seconds. -/
abbrev Time := ℚ

inductive ControlChannelCmd
  | createDataChannel
  | heartBeat
  deriving DecidableEq

def minDataChannelTimeout : Nat := 10

/-- The product saturates. -/
def dataChannelTimeout (heartbeatInterval : UInt64) : Nat :=
  max (min (heartbeatInterval.toNat * 2) (UInt64.size - 1)) minDataChannelTimeout

inductive Ending
  | requestsClosed
  | writeFailed
  | stuck
  | shutdown
  deriving DecidableEq

inductive Phase
  /-- at the `select!` -/
  | selecting
  /-- in `write_and_flush` -/
  | writing (cmd : ControlChannelCmd)
  | ended (ending : Ending)
  deriving DecidableEq

/-- `requests` and `arrivals` are the lengths of the two queues, `requesters` counts the
senders of the first, and `handle` says whether the sender of the second is left, and with
it the sender of the shutdown signal. -/
structure State where
  now : Time
  phase : Phase
  requests : Nat
  requesters : Nat
  arrivals : Nat
  handle : Bool
  pendingDataCh : Nat
  dataChDeadline : Option Time
  arrivedRxClosed : Bool
  /-- when the heartbeat sleep of this turn of the loop elapses -/
  heartbeat : Time
  /-- when the last command was written, or the loop started -/
  lastWrite : Time
  /-- data channels the client was asked for and has neither delivered nor given up -/
  asked : Nat
  deriving DecidableEq

/-- The branches of the `select!`, the end of a write, and the time that passes. -/
inductive Action
  | takeRequest
  | closeRequests
  | takeArrival
  | closeArrivals
  | stuck
  | heartbeat
  | shutdown
  | wrote (ok : Bool)
  | elapse (d : Time)
  deriving DecidableEq

def Phase.isEnded : Phase → Bool
  | .ended _ => true
  | _ => false

/-- The sleep and the deadline of the data channels count from the start. -/
def State.start (heartbeatInterval : UInt64) (requesters requests : Nat) : State where
  now := 0
  phase := .selecting
  requests := requests
  requesters := requesters
  arrivals := 0
  handle := true
  pendingDataCh := 0
  dataChDeadline := none
  arrivedRxClosed := false
  heartbeat := heartbeatInterval.toNat
  lastWrite := 0
  asked := 0

namespace State

variable (heartbeatInterval : UInt64)

/-- `data_ch_req_tx.send(true)`; `none` when the loop has dropped its receiver. -/
def request (s : State) : Option State :=
  if s.phase.isEnded then none else some { s with requests := s.requests + 1 }

/-- `data_ch_arrived_tx.send(())`, whose error is ignored. -/
def arrive (s : State) : State :=
  if s.phase.isEnded then s else { s with arrivals := s.arrivals + 1 }

def dropRequester (s : State) : State := { s with requesters := s.requesters - 1 }

def dropHandle (s : State) : State := { s with handle := false }

/-- A data channel the client was asked for is there, or will not come. -/
def answer (s : State) : State := { s with asked := s.asked - 1 }

/-- The next turn of the loop has a heartbeat sleep of its own. -/
def again (s : State) : State :=
  { s with phase := .selecting, heartbeat := s.now + heartbeatInterval.toNat }

/-- The receivers are dropped. -/
def finish (s : State) (ending : Ending) : State :=
  { s with phase := .ended ending, requests := 0, arrivals := 0 }

def takeRequest (s : State) : Option State :=
  if s.phase = .selecting ∧ s.requests ≠ 0 then
    some { s with phase := .writing .createDataChannel, requests := s.requests - 1 }
  else none

def closeRequests (s : State) : Option State :=
  if s.phase = .selecting ∧ s.requests = 0 ∧ s.requesters = 0 then some (s.finish .requestsClosed)
  else none

/-- One request less is pending; the others get a fresh budget. -/
def takeArrival (s : State) : Option State :=
  if s.phase = .selecting ∧ s.arrivedRxClosed = false ∧ s.arrivals ≠ 0 then
    some (again heartbeatInterval { s with
      arrivals := s.arrivals - 1
      pendingDataCh := s.pendingDataCh - 1
      dataChDeadline :=
        if 0 < s.pendingDataCh - 1 then some (s.now + dataChannelTimeout heartbeatInterval)
        else none })
  else none

def closeArrivals (s : State) : Option State :=
  if s.phase = .selecting ∧ s.arrivedRxClosed = false ∧ s.arrivals = 0 ∧ s.handle = false then
    some (again heartbeatInterval { s with arrivedRxClosed := true })
  else none

def stuck (s : State) : Option State :=
  match s.phase, s.dataChDeadline with
  | .selecting, some deadline => if deadline ≤ s.now then some (s.finish .stuck) else none
  | _, _ => none

def beat (s : State) : Option State :=
  if s.phase = .selecting ∧ heartbeatInterval ≠ 0 ∧ s.heartbeat ≤ s.now then
    some { s with phase := .writing .heartBeat }
  else none

def shutdown (s : State) : Option State :=
  if s.phase = .selecting ∧ s.handle = false then some (s.finish .shutdown) else none

/-- A command is written, and a data channel it asks for is pending. -/
def written (s : State) : ControlChannelCmd → State
  | .createDataChannel =>
    { s with
      lastWrite := s.now
      asked := s.asked + 1
      pendingDataCh := s.pendingDataCh + 1
      dataChDeadline := some (s.dataChDeadline.getD (s.now + dataChannelTimeout heartbeatInterval)) }
  | .heartBeat => { s with lastWrite := s.now }

def wrote (s : State) (ok : Bool) : Option State :=
  match s.phase with
  | .writing cmd =>
    if ok then some (again heartbeatInterval (written heartbeatInterval s cmd))
    else some (s.finish .writeFailed)
  | _ => none

def elapse (s : State) (d : Time) : Option State :=
  if 0 ≤ d then some { s with now := s.now + d } else none

end State

def step (heartbeatInterval : UInt64) (s : State) : Action → Option State
  | .takeRequest => s.takeRequest
  | .closeRequests => s.closeRequests
  | .takeArrival => s.takeArrival heartbeatInterval
  | .closeArrivals => s.closeArrivals heartbeatInterval
  | .stuck => s.stuck
  | .heartbeat => s.beat heartbeatInterval
  | .shutdown => s.shutdown
  | .wrote ok => s.wrote heartbeatInterval ok
  | .elapse d => s.elapse d

section Steps

variable {h : UInt64} {s t : State}

theorem running_of_selecting (selecting : s.phase = .selecting) : s.phase.isEnded = false := by
  rw [selecting]
  rfl

theorem stuck_cases (moved : s.stuck = some t) :
    s.phase = .selecting ∧ t = s.finish .stuck := by
  unfold State.stuck at moved
  split at moved
  · next deadline selecting armed =>
    obtain ⟨-, ⟨⟩⟩ := Option.ite_none_right_eq_some.mp moved
    exact ⟨selecting, rfl⟩
  · cases moved

theorem wrote_cases {ok : Bool} (moved : s.wrote h ok = some t) : ∃ cmd, s.phase = .writing cmd ∧
    t = if ok then State.again h (s.written h cmd) else s.finish .writeFailed := by
  unfold State.wrote at moved
  split at moved
  · next cmd writing =>
    refine ⟨cmd, writing, ?_⟩
    cases ok <;> cases moved <;> rfl
  · cases moved

/-- The loop does not start again. -/
theorem running_of_step {a : Action} (moved : step h s a = some t)
    (running : t.phase.isEnded = false) : s.phase.isEnded = false := by
  cases a with
  | stuck => exact running_of_selecting (stuck_cases moved).1
  | wrote ok =>
    obtain ⟨cmd, writing, -⟩ := wrote_cases moved
    rw [writing]
    rfl
  | elapse d =>
    obtain ⟨-, ⟨⟩⟩ := Option.ite_none_right_eq_some.mp moved
    exact running
  | _ =>
    obtain ⟨⟨selecting, -⟩, -⟩ := Option.ite_none_right_eq_some.mp moved
    exact running_of_selecting selecting

end Steps

/-- The capacity of the queue of visitors, and half of that of the data channels. -/
def chanSize : Nat := 2048

/-- The loop, and the queue of the data channels that are delivered to the handle, which
are numbered in this order. -/
structure Handle where
  control : State
  dataCh : List Nat
  delivered : Nat
  /-- data channels in the queue that `data_ch_arrived_tx` is still to tell the loop of -/
  untold : Nat
  /-- requests sent to the loop -/
  sent : Nat
  /-- data channels taken from the queue -/
  taken : Nat
  deriving DecidableEq

namespace Handle

def start (heartbeatInterval : UInt64) (requesters poolSize : Nat) : Handle where
  control := .start heartbeatInterval requesters poolSize
  dataCh := []
  delivered := 0
  untold := 0
  sent := poolSize
  taken := 0

/-- A step of the loop. -/
def loop (heartbeatInterval : UInt64) (s : Handle) (a : Action) : Option Handle :=
  (step heartbeatInterval s.control a).map fun control => { s with control := control }

def request (s : Handle) : Option Handle :=
  s.control.request.map fun control => { s with control := control, sent := s.sent + 1 }

/-- The handshake of a data channel finds the handle and sends the channel to the pool. A
peer that has the session key may do so more often than it was asked to. -/
def deliver (s : Handle) : Option Handle :=
  if s.control.handle ∧ s.dataCh.length < chanSize * 2 then
    some { s with
      control := s.control.answer
      dataCh := s.dataCh ++ [s.delivered]
      delivered := s.delivered + 1
      untold := s.untold + 1 }
  else none

def tell (s : Handle) : Option Handle :=
  if s.untold ≠ 0 then some { s with control := s.control.arrive, untold := s.untold - 1 } else none

/-- The client does not get a data channel through, or the pool is gone that would take it. -/
def lose (s : Handle) : Option Handle :=
  if s.control.asked ≠ 0 then some { s with control := s.control.answer } else none

/-- The entry is replaced or removed. The handshakes hold the map until the loop is told. -/
def drop (s : Handle) : Option Handle :=
  if s.control.handle ∧ s.untold = 0 then some { s with control := s.control.dropHandle } else none

/-- A pool or a listener drops its sender of requests. -/
def dropRequester (s : Handle) : Handle := { s with control := s.control.dropRequester }

end Handle

end Rathole.ControlChannel
