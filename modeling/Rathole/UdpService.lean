import Rathole.ControlChannel

set_option autoImplicit false

/- One `ControlChannelHandle` of a UDP service: the loop of its control channel and the
session loop of the connection pool. -/
namespace Rathole.UdpService

open ControlChannel (Handle)

def udpPoolSize : Nat := 1

/-- `run_udp_connection_pool`. -/
inductive Pool
  /-- in `retry_notify_with_deadline` -/
  | binding
  /-- in `data_ch_rx.recv()` -/
  | waiting
  /-- writes `StartForwardUdp` -/
  | starting (channel : Nat)
  /-- in the loop that forwards datagrams -/
  | forwarding (channel : Nat)
  | ended
  deriving DecidableEq

structure State where
  handle : Handle
  pool : Pool
  deriving DecidableEq

/-- `broken` stands for an error of the data channel that ends the session. -/
inductive Action
  | control (a : ControlChannel.Action)
  | bind
  | takeChannel
  | closeChannels
  | write (ok : Bool)
  | broken
  | shutdown
  | deliver
  | tell
  | lose
  | drop
  deriving DecidableEq

namespace State

def start (heartbeatInterval : UInt64) : State :=
  ⟨.start heartbeatInterval 1 udpPoolSize, .binding⟩

def onHandle (s : State) (f : Handle → Option Handle) : Option State :=
  (f s.handle).map fun handle => { s with handle := handle }

/-- The task drops its receiver with the data channels in its queue, and its sender. -/
def endPool (s : State) : State := ⟨{ s.handle.dropRequester with dataCh := [] }, .ended⟩

def bind (s : State) : Option State :=
  if s.pool = .binding then some { s with pool := .waiting } else none

def takeChannel (s : State) : Option State :=
  match s.pool, s.handle.dataCh with
  | .waiting, channel :: rest =>
    some ⟨{ s.handle with dataCh := rest, taken := s.handle.taken + 1 }, .starting channel⟩
  | _, _ => none

def closeChannels (s : State) : Option State :=
  if s.pool = .waiting ∧ s.handle.dataCh = [] ∧ s.handle.control.handle = false then
    some s.endPool
  else none

/-- The pool asks for a data channel in the place of the one in its hand. -/
def replace (s : State) : State :=
  match s.handle.request with
  | some handle => ⟨handle, .waiting⟩
  | none => s.endPool

def write (s : State) (ok : Bool) : Option State :=
  match s.pool with
  | .starting channel => some (if ok then { s with pool := .forwarding channel } else s.replace)
  | _ => none

def broken (s : State) : Option State :=
  match s.pool with
  | .forwarding _ => some s.replace
  | _ => none

/-- The signal is polled while the socket is bound and during a session. -/
def shutdown (s : State) : Option State :=
  match s.pool with
  | .binding | .forwarding _ => if s.handle.control.handle = false then some s.endPool else none
  | _ => none

def deliver (s : State) : Option State :=
  if s.pool = .ended then none else s.onHandle Handle.deliver

end State

def step (heartbeatInterval : UInt64) (s : State) : Action → Option State
  | .control a => s.onHandle (Handle.loop heartbeatInterval · a)
  | .bind => s.bind
  | .takeChannel => s.takeChannel
  | .closeChannels => s.closeChannels
  | .write ok => s.write ok
  | .broken => s.broken
  | .shutdown => s.shutdown
  | .deliver => s.deliver
  | .tell => s.onHandle Handle.tell
  | .lose => s.onHandle Handle.lose
  | .drop => s.onHandle Handle.drop

def system (heartbeatInterval : UInt64) : Transition.System State Action where
  init s := s = .start heartbeatInterval
  step := step heartbeatInterval

end Rathole.UdpService
