import Rathole.HashMap
import Rathole.Udp

set_option autoImplicit false

/- The tasks of a UDP data channel on the client and the port map they share. Forwarders
are numbered in the order they are spawned, and stay on record when they end. -/
namespace Rathole.UdpClient

open Udp (UdpTraffic udpBufferSize)

def udpSendqSize : Nat := 1024

/-- `run_udp_forwarder`. -/
inductive Phase
  /-- at the `select!` -/
  | selecting
  /-- in `outbount_tx.send(t)` -/
  | sending (t : UdpTraffic)
  /-- past the loop, in `port_map.write()` -/
  | closing
  | ended
  deriving DecidableEq

/-- `delivered` and `heard` list the datagrams that were sent to the local service and that
it sent back. -/
structure Forwarder where
  source : SocketAddr
  phase : Phase
  inbound : List (List UInt8)
  delivered : List (List UInt8)
  heard : List (List UInt8)
  deriving DecidableEq

/-- The loop of `run_data_channel_for_udp`. The guard of the first lookup is dropped before
`udp_connect`, but a lookup that finds an entry keeps it to the end of the turn. -/
inductive Reader
  | reading
  /-- in the first `port_map.read()` -/
  | arrived (packet : UdpTraffic)
  /-- in `udp_connect` -/
  | connecting (packet : UdpTraffic)
  /-- in `port_map.write()` -/
  | inserting (packet : UdpTraffic)
  /-- in the second `port_map.read()` -/
  | fetching (packet : UdpTraffic) (guarded : Bool)
  /-- in `tx.send(packet.data)` -/
  | sending (packet : UdpTraffic) (forwarder : Nat) (guarded : Bool)
  | ended
  deriving DecidableEq

def Forwarder.forward (x : Forwarder) : Option Forwarder :=
  match x.phase, x.inbound with
  | .selecting, data :: rest => some { x with inbound := rest, delivered := x.delivered ++ [data] }
  | _, _ => none

def Forwarder.drop (x : Forwarder) : Option Forwarder :=
  match x.phase, x.inbound with
  | .selecting, _ :: rest => some { x with phase := .closing, inbound := rest }
  | _, _ => none

def Forwarder.close (x : Forwarder) : Option Forwarder :=
  if x.phase = .selecting then some { x with phase := .closing } else none

/-- A datagram of the local service is received into the buffer. -/
def Forwarder.answer (data : List UInt8) (x : Forwarder) : Option Forwarder :=
  if x.phase = .selecting then
    some { x with
      phase := .sending ⟨x.source, data.take udpBufferSize⟩
      heard := x.heard ++ [data] }
  else none

/-- An item of the outbound queue, with the forwarder that sent it. -/
structure Outbound where
  forwarder : Nat
  traffic : UdpTraffic
  deriving DecidableEq

inductive Writer
  | receiving
  | writing (item : Outbound)
  | ended
  deriving DecidableEq

/-- The port map holds the forwarder of each sender. `packets` and `written` list what the
reader has read from the server and the writer has written to it. -/
structure State where
  reader : Reader
  portMap : HashMap SocketAddr Nat
  forwarders : HashMap Nat Forwarder
  spawned : Nat
  /-- forwarders that wait for the write lock -/
  waitingWriters : Nat
  outbound : List Outbound
  writer : Writer
  packets : List UdpTraffic
  written : List Outbound
  deriving DecidableEq

inductive Action
  | receive (packet : UdpTraffic)
  | readError
  | lookup
  | connect (ok : Bool)
  | insert
  | fetch
  | send
  | forward (i : Nat) (ok : Bool)
  | closed (i : Nat)
  | answer (i : Nat) (data : List UInt8)
  | recvError (i : Nat)
  | expire (i : Nat)
  | push (i : Nat)
  | remove (i : Nat)
  | takeOutbound
  | wrote (ok : Bool)
  deriving DecidableEq

/-- The read guard of the reader. -/
def Reader.guarded : Reader → Bool
  | .fetching _ guarded | .sending _ _ guarded => guarded
  | _ => false

namespace State

def start : State where
  reader := .reading
  portMap := ∅
  forwarders := ∅
  spawned := 0
  waitingWriters := 0
  outbound := []
  writer := .receiving
  packets := []
  written := []

def receive (s : State) (packet : UdpTraffic) : Option State :=
  if s.reader = .reading then
    some { s with reader := .arrived packet, packets := s.packets ++ [packet] }
  else none

/-- An error of the stream ends the loop; the forwarders keep the port map. -/
def readError (s : State) : Option State :=
  if s.reader = .reading then some { s with reader := .ended } else none

def lookup (s : State) : Option State :=
  match s.reader with
  | .arrived packet =>
    if (s.portMap.lookup packet.source).isNone then some { s with reader := .connecting packet }
    else some { s with reader := .fetching packet true }
  | _ => none

def connect (s : State) (ok : Bool) : Option State :=
  match s.reader with
  | .connecting packet =>
    some { s with reader := if ok then .inserting packet else .fetching packet false }
  | _ => none

/-- `m.insert` and the spawn of the forwarder, under the write lock. -/
def insert (s : State) : Option State :=
  match s.reader with
  | .inserting packet =>
    some { s with
      reader := .fetching packet false
      portMap := s.portMap.insert packet.source s.spawned
      forwarders := s.forwarders.insert s.spawned ⟨packet.source, .selecting, [], [], []⟩
      spawned := s.spawned + 1 }
  | _ => none

/-- The sender is cloned. The lock is fair: behind a waiting writer, a reader that has a
guard already waits for ever. -/
def fetch (s : State) : Option State :=
  match s.reader with
  | .fetching packet guarded =>
    if guarded = true ∧ s.waitingWriters ≠ 0 then none
    else
      match s.portMap.lookup packet.source with
      | some i => some { s with reader := .sending packet i guarded }
      | none => some { s with reader := .reading }
  | _ => none

/-- The send fails at once when the forwarder has ended; its error is ignored. -/
def send (s : State) : Option State :=
  match s.reader with
  | .sending packet i _ =>
    match s.forwarders.lookup i with
    | some x =>
      if x.phase = .ended then some { s with reader := .reading }
      else if x.inbound.length < udpSendqSize then
        some { s with
          reader := .reading
          forwarders := s.forwarders.insert i { x with inbound := x.inbound ++ [packet.data] } }
      else none
    | none => some { s with reader := .reading }
  | _ => none

def onForwarder (s : State) (i : Nat) (f : Forwarder → Option Forwarder) : Option State :=
  ((s.forwarders.lookup i).bind f).map fun x => { s with forwarders := s.forwarders.insert i x }

/-- The branch that runs breaks out of the loop. -/
def leave (s : State) (i : Nat) (f : Forwarder → Option Forwarder) : Option State :=
  (s.onForwarder i f).map fun s => { s with waitingWriters := s.waitingWriters + 1 }

/-- A datagram of the visitor is sent to the local service. When that fails it is lost, and
the loop ends. -/
def forward (s : State) (i : Nat) (ok : Bool) : Option State :=
  if ok then s.onForwarder i Forwarder.forward else s.leave i Forwarder.drop

/-- The senders are the one in the port map and the clone in the hand of the reader. -/
def hasSender (s : State) (i : Nat) : Bool :=
  (match s.reader with
    | .sending _ j _ => decide (i = j)
    | _ => false) ||
  match s.forwarders.lookup i with
    | some x => decide (s.portMap.lookup x.source = some i)
    | none => false

/-- All senders are dropped. -/
def closed (s : State) (i : Nat) : Option State :=
  s.leave i fun x => if x.inbound = [] ∧ s.hasSender i = false then x.close else none

/-- The send to the writer; it fails when the writer is gone. -/
def push (s : State) (i : Nat) : Option State :=
  match s.forwarders.lookup i with
  | some x =>
    match x.phase with
    | .sending t =>
      if s.writer = .ended then
        some { s with
          forwarders := s.forwarders.insert i { x with phase := .closing }
          waitingWriters := s.waitingWriters + 1 }
      else if s.outbound.length < udpSendqSize then
        some { s with
          forwarders := s.forwarders.insert i { x with phase := .selecting }
          outbound := s.outbound ++ [⟨i, t⟩] }
      else none
    | _ => none
  | none => none

/-- `port_map.remove(&from)` under the write lock, and the end of the forwarder. -/
def remove (s : State) (i : Nat) : Option State :=
  match s.forwarders.lookup i with
  | some x =>
    if x.phase = .closing ∧ s.reader.guarded = false then
      some { s with
        portMap := s.portMap.erase x.source
        forwarders := s.forwarders.insert i { x with phase := .ended, inbound := [] }
        waitingWriters := s.waitingWriters - 1 }
    else none
  | none => none

def takeOutbound (s : State) : Option State :=
  match s.writer, s.outbound with
  | .receiving, item :: rest => some { s with writer := .writing item, outbound := rest }
  | _, _ => none

def wrote (s : State) (ok : Bool) : Option State :=
  match s.writer with
  | .writing item =>
    if ok then some { s with writer := .receiving, written := s.written ++ [item] }
    else some { s with writer := .ended, outbound := [] }
  | _ => none

end State

def step (s : State) : Action → Option State
  | .receive packet => s.receive packet
  | .readError => s.readError
  | .lookup => s.lookup
  | .connect ok => s.connect ok
  | .insert => s.insert
  | .fetch => s.fetch
  | .send => s.send
  | .forward i ok => s.forward i ok
  | .closed i => s.closed i
  | .answer i data => s.onForwarder i (Forwarder.answer data)
  | .recvError i | .expire i => s.leave i Forwarder.close
  | .push i => s.push i
  | .remove i => s.remove i
  | .takeOutbound => s.takeOutbound
  | .wrote ok => s.wrote ok

def system : Transition.System State Action where
  init s := s = .start
  step := step

end Rathole.UdpClient
