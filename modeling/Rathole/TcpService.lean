import Rathole.ControlChannel

set_option autoImplicit false

/- One `ControlChannelHandle` of a TCP service: the loop of its control channel, the
listener, the connection pool, and the queues between them. -/
namespace Rathole.TcpService

open ControlChannel (Handle chanSize)

def tcpPoolSize : Nat := 8

/-- The task of `tcp_listen_and_send`. Visitors are numbered in the order of `accept`. -/
inductive Listener
  /-- in `retry_notify_with_deadline` -/
  | binding
  /-- at the `select!` -/
  | accepting
  /-- after an error of `accept` -/
  | sleeping
  /-- in `tx.send(incoming)` -/
  | queueing (visitor : Nat)
  | ended
  deriving DecidableEq

/-- `run_tcp_connection_pool`. -/
inductive Pool
  /-- in `visitor_rx.recv()` -/
  | receiving
  /-- in `data_ch_rx.recv()` -/
  | waiting (visitor : Nat)
  /-- writes `StartForwardTcp` -/
  | starting (visitor channel : Nat)
  | ended
  deriving DecidableEq

/-- `started` lists the data channels on which `StartForwardTcp` was written, and `spliced`
the copies that were spawned, with their visitor and their data channel. -/
structure State where
  handle : Handle
  listener : Listener
  visitors : List Nat
  pool : Pool
  accepted : Nat
  started : List Nat
  spliced : List (Nat × Nat)
  deriving DecidableEq

inductive Action
  | control (a : ControlChannel.Action)
  | bind
  | accept
  | acceptError
  | wake
  | enqueue
  | listenerShutdown
  | takeVisitor
  | closeVisitors
  | takeChannel
  | closeChannels
  | write (ok : Bool)
  | deliver
  | tell
  | lose
  | drop
  deriving DecidableEq

namespace State

def start (heartbeatInterval : UInt64) : State where
  handle := .start heartbeatInterval 2 tcpPoolSize
  listener := .binding
  visitors := []
  pool := .receiving
  accepted := 0
  started := []
  spliced := []

def onHandle (s : State) (f : Handle → Option Handle) : Option State :=
  (f s.handle).map fun handle => { s with handle := handle }

/-- The task drops its senders, and the visitor in its hand. -/
def endListener (s : State) : State :=
  { s with handle := s.handle.dropRequester, listener := .ended }

/-- The task drops its receivers with what is in their queues, its sender, and the visitor in
its hand. -/
def endPool (s : State) : State :=
  { s with
    handle := { s.handle.dropRequester with dataCh := [] }
    visitors := []
    pool := .ended }

def bind (s : State) : Option State :=
  if s.listener = .binding then some { s with listener := .accepting } else none

/-- A data channel is requested for the visitor; when that fails the control channel is
broken. -/
def accept (s : State) : Option State :=
  if s.listener = .accepting then
    match s.handle.request with
    | some handle =>
      some { s with
        handle := handle
        listener := .queueing s.accepted
        accepted := s.accepted + 1 }
    | none => some { s.endListener with accepted := s.accepted + 1 }
  else none

def acceptError (s : State) : Option State :=
  if s.listener = .accepting then some { s with listener := .sleeping } else none

def wake (s : State) : Option State :=
  if s.listener = .sleeping then some { s with listener := .accepting } else none

/-- The send fails at once when the pool has dropped its receiver. -/
def enqueue (s : State) : Option State :=
  match s.listener with
  | .queueing visitor =>
    if s.pool = .ended then some { s with listener := .accepting }
    else if s.visitors.length < chanSize then
      some { s with listener := .accepting, visitors := s.visitors ++ [visitor] }
    else none
  | _ => none

def listenerShutdown (s : State) : Option State :=
  if (s.listener = .binding ∨ s.listener = .accepting) ∧ s.handle.control.handle = false then
    some s.endListener
  else none

def takeVisitor (s : State) : Option State :=
  match s.pool, s.visitors with
  | .receiving, visitor :: rest => some { s with pool := .waiting visitor, visitors := rest }
  | _, _ => none

def closeVisitors (s : State) : Option State :=
  if s.pool = .receiving ∧ s.visitors = [] ∧ s.listener = .ended then some s.endPool else none

def takeChannel (s : State) : Option State :=
  match s.pool, s.handle.dataCh with
  | .waiting visitor, channel :: rest =>
    some { s with
      handle := { s.handle with dataCh := rest, taken := s.handle.taken + 1 }
      pool := .starting visitor channel }
  | _, _ => none

def closeChannels (s : State) : Option State :=
  match s.pool with
  | .waiting _ =>
    if s.handle.dataCh = [] ∧ s.handle.control.handle = false then some s.endPool else none
  | _ => none

/-- The data channel is spliced with the visitor, or a new one is requested for it. -/
def write (s : State) (ok : Bool) : Option State :=
  match s.pool with
  | .starting visitor channel =>
    if ok then
      some { s with
        pool := .receiving
        started := s.started ++ [channel]
        spliced := s.spliced ++ [(visitor, channel)] }
    else
      match s.handle.request with
      | some handle => some { s with handle := handle, pool := .waiting visitor }
      | none => some s.endPool
  | _ => none

/-- A data channel is sent to the receiver of the pool. -/
def deliver (s : State) : Option State :=
  if s.pool = .ended then none else s.onHandle Handle.deliver

end State

def step (heartbeatInterval : UInt64) (s : State) : Action → Option State
  | .control a => s.onHandle (Handle.loop heartbeatInterval · a)
  | .bind => s.bind
  | .accept => s.accept
  | .acceptError => s.acceptError
  | .wake => s.wake
  | .enqueue => s.enqueue
  | .listenerShutdown => s.listenerShutdown
  | .takeVisitor => s.takeVisitor
  | .closeVisitors => s.closeVisitors
  | .takeChannel => s.takeChannel
  | .closeChannels => s.closeChannels
  | .write ok => s.write ok
  | .deliver => s.deliver
  | .tell => s.onHandle Handle.tell
  | .lose => s.onHandle Handle.lose
  | .drop => s.onHandle Handle.drop

def system (heartbeatInterval : UInt64) : Transition.System State Action where
  init s := s = .start heartbeatInterval
  step := step heartbeatInterval

end Rathole.TcpService
