import Rathole.Config
import Rathole.Protocol
import Rathole.TcpDirection
import Rathole.Transition

set_option autoImplicit false

/- One visitor of a TCP service: its connection to the server, the data channel in bytes, and the
connection of the client to the local service. -/
namespace Rathole.TcpTunnel

open Protocol (Digest Hello DataChannelCmd currentProtoVersion readHello readDataCmd)
open Relay (Move)

/-- `key` is the session key of the client, and `leadsTo` tells the keys of the control channel
whose pool has the visitor. -/
structure Setup where
  digest : List UInt8 → Digest
  key : Digest
  leadsTo : Digest → Bool
  serviceType : ServiceType

def Setup.hello (x : Setup) : List UInt8 :=
  (Hello.dataChannelHello currentProtoVersion x.key).serialize

def cmd : List UInt8 := DataChannelCmd.startForwardTcp.serialize

/-- The server's side of the data channel. -/
inductive Server
  /-- in `read_hello` -/
  | accepted
  /-- in the queue of the pool -/
  | queued
  /-- in `write_and_flush`, with the bytes that are left -/
  | starting (left : List UInt8)
  /-- in `copy_bidirectional` -/
  | forwarding
  | ended
  deriving DecidableEq

/-- `run_data_channel`. -/
inductive Client
  /-- in `do_data_channel_handshake`, with the bytes that are left -/
  | greeting (left : List UInt8)
  /-- in `read_data_cmd` -/
  | waiting
  /-- in `TcpStream::connect` to the local service -/
  | connecting
  /-- in `copy_bidirectional` -/
  | forwarding
  | ended
  deriving DecidableEq

/-- `up` leads from the visitor to the local service, `down` back. -/
structure State where
  server : Server
  client : Client
  up : Direction
  down : Direction
  deriving DecidableEq

def Setup.start (x : Setup) : State := ⟨.accepted, .greeting x.hello, .fresh, .fresh⟩

inductive Action
  | visitorSend (items : List UInt8)
  | visitorEnd
  | localSend (items : List UInt8)
  | localEnd
  | greet (count : Nat)
  | accept
  | take
  | start (count : Nat)
  | readCmd
  | connect
  | upFront (m : Move)
  | upBack (m : Move)
  | downFront (m : Move)
  | downBack (m : Move)
  | serverError
  | clientError
  | retry
  deriving DecidableEq

namespace State

variable (x : Setup) (s : State)

/-- The hello is written. -/
def greet (count : Nat) : Option State :=
  match s.client with
  | .greeting left =>
    if 0 < count ∧ count ≤ left.length then
      some { s with
        client := if left.drop count = [] then .waiting else .greeting (left.drop count)
        down := s.down.put (left.take count) }
    else none
  | _ => none

/-- The hello is read, and the channel goes to the pool that its key leads to. -/
def accept : Option State :=
  if s.server = .accepted then
    match readHello x.digest s.down.channel.items with
    | .ok (.dataChannelHello _ key, rest) =>
      if x.leadsTo key then some { s with server := .queued, down := s.down.take rest } else none
    | _ => none
  else none

/-- The pool takes the channel for the visitor. -/
def take : Option State :=
  if s.server = .queued then some { s with server := .starting cmd } else none

def start (count : Nat) : Option State :=
  match s.server with
  | .starting left =>
    if 0 < count ∧ count ≤ left.length then
      some { s with
        server := if left.drop count = [] then .forwarding else .starting (left.drop count)
        up := s.up.put (left.take count) }
    else none
  | _ => none

/-- The server's task ends, and drops its two streams. -/
def serverError : Option State := do
  let up ← s.up.moveFront .fail
  let down ← s.down.moveBack .fail
  some { s with server := .ended, up := up, down := down }

def clientError : Option State := do
  let up ← s.up.moveBack .fail
  let down ← s.down.moveFront .fail
  some { s with client := .ended, up := up, down := down }

/-- A service of another type ends the channel. -/
def readCmd : Option State :=
  if s.client = .waiting then
    match readDataCmd x.digest s.up.channel.items with
    | .ok (.startForwardTcp, rest) =>
      if x.serviceType = .tcp then some { s with client := .connecting, up := s.up.take rest }
      else s.clientError
    | _ => none
  else none

def connect : Option State :=
  if s.client = .connecting then some { s with client := .forwarding } else none

def onUp (moved : Option Direction) : Option State := moved.map fun up => { s with up := up }

def onDown (moved : Option Direction) : Option State :=
  moved.map fun down => { s with down := down }

/-- The pool still has the visitor. -/
def waits : Bool :=
  match s.server with
  | .accepted | .queued | .starting _ => true
  | .forwarding | .ended => false

/-- A channel that was lost before the visitor was attached to it: the pool takes another one. -/
def retry : Option State :=
  if s.waits then some ⟨.accepted, .greeting x.hello, s.up.renew, .fresh⟩ else none

end State

def step (x : Setup) (s : State) : Action → Option State
  | .visitorSend items => s.onUp (s.up.send items)
  | .visitorEnd => s.onUp s.up.finish
  | .localSend items => if s.client = .forwarding then s.onDown (s.down.send items) else none
  | .localEnd => if s.client = .forwarding then s.onDown s.down.finish else none
  | .greet count => s.greet count
  | .accept => s.accept x
  | .take => s.take
  | .start count => s.start count
  | .readCmd => s.readCmd x
  | .connect => s.connect
  | .upFront m =>
    if s.server = .forwarding ∧ m ≠ .fail then s.onUp (s.up.moveFront m) else none
  | .upBack m => if s.client = .forwarding ∧ m ≠ .fail then s.onUp (s.up.moveBack m) else none
  | .downFront m =>
    if s.client = .forwarding ∧ m ≠ .fail then s.onDown (s.down.moveFront m) else none
  | .downBack m =>
    if s.server = .forwarding ∧ m ≠ .fail then s.onDown (s.down.moveBack m) else none
  | .serverError => s.serverError
  | .clientError => s.clientError
  | .retry => s.retry x

def system (x : Setup) : Transition.System State Action where
  init s := s = x.start
  step := step x

/-- No error on a connection. -/
def Smooth (_ : State) : Action → Prop
  | .serverError | .clientError | .retry => False
  | _ => True

/-- The steps of the tunnel's own tasks. -/
def Action.isOwn : Action → Bool
  | .visitorSend _ | .visitorEnd | .localSend _ | .localEnd => false
  | .serverError | .clientError | .retry => false
  | _ => true

end Rathole.TcpTunnel
