import Rathole.RuntimeStatus
import Rathole.Transition

set_option autoImplicit false

/- One UDP data channel: the pool loop of the server, and on the client the reader loop, a
forwarder for each visitor, the writer and the lock of the port map. A stream holds cells, one
for each byte of a frame, so that a frame can be written and read in parts. -/
namespace Rathole.Udp

def udpBufferSize : Nat := 2048

/-- `UdpTraffic`, with the field `from` under another name. -/
structure UdpTraffic where
  source : SocketAddr
  data : List UInt8
  deriving DecidableEq

/-- The size of a serialized `UdpHeader`: the tag, the address, the port and the length. -/
def headerLen : SocketAddr → Nat
  | .v4 .. => 4 + 4 + 2 + 2
  | .v6 .. => 4 + 16 + 2 + 2

/-- The bytes of a frame after its first one, which holds the length of the header. -/
def frameTail (t : UdpTraffic) : Nat := headerLen t.source + t.data.length

/-- A byte of a frame, with the number of bytes of the frame after it. -/
structure Cell where
  traffic : UdpTraffic
  left : Nat
  deriving DecidableEq

/-- The select loop of `run_udp_connection_pool`. -/
inductive Server
  | selecting
  /-- inside `UdpTraffic::read` -/
  | reading
  /-- inside `UdpTraffic::write_slice`, `left` bytes before the last one -/
  | writing (traffic : UdpTraffic) (left : Nat)
  deriving DecidableEq

/-- The server once it has written a byte with `left` bytes after it. -/
def Server.wrote (t : UdpTraffic) : Nat → Server
  | 0 => .selecting
  | left + 1 => .writing t left

/-- The loop of `run_data_channel_for_udp`. The guard of the first lookup is dropped before
`udp_connect`, but a lookup that finds an entry keeps it to the end of the turn. -/
inductive Reader
  | reading
  /-- in the first `port_map.read()` -/
  | arrived (packet : UdpTraffic)
  /-- in `udp_connect` -/
  | connecting (packet : UdpTraffic)
  /-- in `port_map.write()` -/
  | inserting (packet : UdpTraffic)
  /-- in the second `port_map.read()` -/
  | fetching (packet : UdpTraffic) (guarded : Bool)
  /-- in `tx.send(packet.data)` -/
  | sending (packet : UdpTraffic) (guarded : Bool)
  deriving DecidableEq

/-- The read guard of the reader. -/
def Reader.guarded : Reader → Bool
  | .fetching _ guarded | .sending _ guarded => guarded
  | _ => false

inductive ForwarderPhase
  | selecting
  /-- in `outbount_tx.send(t)` -/
  | sending (traffic : UdpTraffic)
  /-- past the loop, in `port_map.write()` -/
  | closing
  deriving DecidableEq

structure Forwarder where
  phase : ForwarderPhase
  inbound : List (List UInt8)
  deriving DecidableEq

/-- A datagram of the local service is received. -/
def Forwarder.answer (a : SocketAddr) (data : List UInt8) (x : Forwarder) : Option Forwarder :=
  if x.phase = .selecting ∧ data.length ≤ udpBufferSize then
    some { x with phase := .sending ⟨a, data⟩ }
  else none

/-- A datagram of the visitor goes to the local service. -/
def Forwarder.forward (x : Forwarder) : Option Forwarder :=
  if x.phase = .selecting ∧ x.inbound ≠ [] then some { x with inbound := x.inbound.tail } else none

def Forwarder.close (x : Forwarder) : Option Forwarder :=
  if x.phase = .selecting then some { x with phase := .closing } else none

inductive Writer
  | receiving
  | writing (traffic : UdpTraffic) (left : Nat)
  deriving DecidableEq

/-- The writer once it has written a byte with `left` bytes after it. -/
def Writer.wrote (t : UdpTraffic) : Nat → Writer
  | 0 => .receiving
  | left + 1 => .writing t left

/-- A task in `port_map.read()` or `port_map.write()`. -/
inductive Waiter
  | reader
  | forwarder (a : SocketAddr)
  deriving DecidableEq

/-- A forwarder lives as long as its entry in the port map, which only the reader adds. The
lock is fair: `queue` lists who asked for it and has not got it, first come first served. Only
a read guard of the reader is ever held over an await. -/
structure State where
  server : Server
  toClient : List Cell
  reader : Reader
  forwarders : HashMap SocketAddr Forwarder
  queue : List Waiter
  outbound : List UdpTraffic
  writer : Writer
  toServer : List Cell
  deriving DecidableEq

/-- The bounds of the buffers. Both directions of the stream count bytes. -/
structure Capacity where
  toClient : Nat
  inbound : Nat
  outbound : Nat
  toServer : Nat
  toClient_pos : 0 < toClient
  inbound_pos : 0 < inbound
  outbound_pos : 0 < outbound
  toServer_pos : 0 < toServer

/-- The first three actions are the world's: a visitor or the local service sends a
datagram, and a forwarder sees no traffic for `UDP_TIMEOUT` or an error of its socket. -/
inductive Action
  | visitor (t : UdpTraffic)
  | service (a : SocketAddr) (data : List UInt8)
  | expire (a : SocketAddr)
  | serverWrite
  | serverRead
  | readerRead
  | lookup
  | connected (ok : Bool)
  | insert
  | fetch
  | readerSend
  | forward (a : SocketAddr)
  | forwarderSend (a : SocketAddr)
  | unmap (a : SocketAddr)
  | writerReceive
  | writerWrite
  deriving DecidableEq

/-- Steps that need nothing from the world. -/
def Action.isInternal : Action → Bool
  | .visitor _ | .service .. | .expire _ => false
  | _ => true

variable (c : Capacity)

namespace State

def visitor (s : State) (t : UdpTraffic) : Option State :=
  if s.server = .selecting ∧ t.data.length ≤ udpBufferSize then
    some { s with server := .writing t (frameTail t) }
  else none

def serverWrite (s : State) : Option State :=
  match s.server with
  | .writing t left =>
    if s.toClient.length < c.toClient then
      some { s with
        server := .wrote t left
        toClient := s.toClient ++ [⟨t, left⟩] }
    else none
  | _ => none

/-- The last byte completes a datagram, which goes to its visitor. -/
def serverRead (s : State) : Option State :=
  match s.server, s.toServer with
  | .writing .., _ | _, [] => none
  | _, cell :: rest =>
    some { s with
      server := if cell.left = 0 then .selecting else .reading
      toServer := rest }

/-- With the last byte the packet is there, and the reader asks for the lock. -/
def readerRead (s : State) : Option State :=
  match s.reader, s.toClient with
  | .reading, cell :: rest =>
    if cell.left = 0 then
      some { s with
        reader := .arrived cell.traffic
        toClient := rest
        queue := s.queue ++ [.reader] }
    else some { s with toClient := rest }
  | _, _ => none

/-- `port_map.read()` and `m.get(&packet.from)`. With an entry there the reader asks for the
lock again, and keeps the guard it has. -/
def lookup (s : State) : Option State :=
  match s.reader, s.queue with
  | .arrived packet, .reader :: rest =>
    if (s.forwarders.lookup packet.source).isNone then
      some { s with reader := .connecting packet, queue := rest }
    else some { s with reader := .fetching packet true, queue := rest ++ [.reader] }
  | _, _ => none

def connected (s : State) (ok : Bool) : Option State :=
  match s.reader with
  | .connecting packet =>
    some { s with
      reader := if ok then .inserting packet else .fetching packet false
      queue := s.queue ++ [.reader] }
  | _ => none

/-- `m.insert` and the spawn of the forwarder, under the write lock. -/
def insert (s : State) : Option State :=
  match s.reader, s.queue with
  | .inserting packet, .reader :: rest =>
    some { s with
      reader := .fetching packet false
      forwarders := s.forwarders.insert packet.source ⟨.selecting, []⟩
      queue := rest ++ [.reader] }
  | _, _ => none

/-- The sender is cloned. Without a forwarder the packet is dropped. -/
def fetch (s : State) : Option State :=
  match s.reader, s.queue with
  | .fetching packet guarded, .reader :: rest =>
    some { s with
      reader := if (s.forwarders.lookup packet.source).isSome then .sending packet guarded
        else .reading
      queue := rest }
  | _, _ => none

/-- The send fails at once when the forwarder is gone. -/
def readerSend (s : State) : Option State :=
  match s.reader with
  | .sending packet _ =>
    match s.forwarders.lookup packet.source with
    | none => some { s with reader := .reading }
    | some x =>
      if x.inbound.length < c.inbound then
        some { s with
          reader := .reading
          forwarders := s.forwarders.insert packet.source
            { x with inbound := x.inbound ++ [packet.data] } }
      else none
  | _ => none

def onForwarder (s : State) (a : SocketAddr) (f : Forwarder → Option Forwarder) : Option State :=
  ((s.forwarders.lookup a).bind f).map fun x => { s with forwarders := s.forwarders.insert a x }

/-- The loop is left, and the forwarder asks for the write lock. -/
def expire (s : State) (a : SocketAddr) : Option State :=
  (s.onForwarder a Forwarder.close).map fun s => { s with queue := s.queue ++ [.forwarder a] }

def forwarderSend (s : State) (a : SocketAddr) : Option State :=
  match s.forwarders.lookup a with
  | some ⟨.sending t, inbound⟩ =>
    if s.outbound.length < c.outbound then
      some { s with
        forwarders := s.forwarders.insert a ⟨.selecting, inbound⟩
        outbound := s.outbound ++ [t] }
    else none
  | _ => none

/-- `port_map.remove(&from)` under the write lock, and the end of the forwarder. -/
def unmap (s : State) (a : SocketAddr) : Option State :=
  match s.queue with
  | .forwarder b :: rest =>
    if b = a ∧ s.reader.guarded = false then
      some { s with forwarders := s.forwarders.erase a, queue := rest }
    else none
  | _ => none

def writerReceive (s : State) : Option State :=
  match s.writer, s.outbound with
  | .receiving, t :: rest => some { s with writer := .writing t (frameTail t), outbound := rest }
  | _, _ => none

def writerWrite (s : State) : Option State :=
  match s.writer with
  | .writing t left =>
    if s.toServer.length < c.toServer then
      some { s with
        writer := .wrote t left
        toServer := s.toServer ++ [⟨t, left⟩] }
    else none
  | .receiving => none

end State

def step (s : State) : Action → Option State
  | .visitor t => s.visitor t
  | .service a data => s.onForwarder a (Forwarder.answer a data)
  | .expire a => s.expire a
  | .serverWrite => s.serverWrite c
  | .serverRead => s.serverRead
  | .readerRead => s.readerRead
  | .lookup => s.lookup
  | .connected ok => s.connected ok
  | .insert => s.insert
  | .fetch => s.fetch
  | .readerSend => s.readerSend c
  | .forward a => s.onForwarder a Forwarder.forward
  | .forwarderSend a => s.forwarderSend c a
  | .unmap a => s.unmap a
  | .writerReceive => s.writerReceive
  | .writerWrite => s.writerWrite c

def State.start : State where
  server := .selecting
  toClient := []
  reader := .reading
  forwarders := ∅
  queue := []
  outbound := []
  writer := .receiving
  toServer := []

def system : Transition.System State Action where
  init s := s = .start
  step := step c

section Cases

variable {c : Capacity} {s t : State} {a : SocketAddr}

theorem visitor_cases {u : UdpTraffic} (moved : s.visitor u = some t) :
    s.server = .selecting ∧ t = { s with server := .writing u (frameTail u) } := by
  obtain ⟨⟨selecting, -⟩, ⟨⟩⟩ := Option.ite_none_right_eq_some.mp moved
  exact ⟨selecting, rfl⟩

theorem serverWrite_cases (moved : s.serverWrite c = some t) :
    ∃ u left, s.server = .writing u left ∧ s.toClient.length < c.toClient ∧
      t = { s with server := .wrote u left, toClient := s.toClient ++ [⟨u, left⟩] } := by
  unfold State.serverWrite at moved
  split at moved
  · next u left writing =>
    obtain ⟨room, ⟨⟩⟩ := Option.ite_none_right_eq_some.mp moved
    exact ⟨u, left, writing, room, rfl⟩
  · cases moved

theorem serverRead_cases (moved : s.serverRead = some t) :
    ∃ cell rest, s.toServer = cell :: rest ∧ (∀ u left, s.server ≠ .writing u left) ∧
      t = { s with
        server := if cell.left = 0 then .selecting else .reading
        toServer := rest } := by
  unfold State.serverRead at moved
  split at moved
  · cases moved
  · cases moved
  · next cell rest filled idle =>
    cases moved
    exact ⟨cell, rest, filled, idle, rfl⟩

theorem readerRead_cases (moved : s.readerRead = some t) :
    ∃ cell rest, s.reader = .reading ∧ s.toClient = cell :: rest ∧
      (t = { s with
          reader := .arrived cell.traffic
          toClient := rest
          queue := s.queue ++ [.reader] } ∨
        t = { s with toClient := rest }) := by
  unfold State.readerRead at moved
  split at moved
  · next cell rest reading filled =>
    split at moved <;> cases moved
    · exact ⟨cell, rest, reading, filled, .inl rfl⟩
    · exact ⟨cell, rest, reading, filled, .inr rfl⟩
  · cases moved

theorem lookup_cases (moved : s.lookup = some t) :
    ∃ packet rest, s.reader = .arrived packet ∧ s.queue = .reader :: rest ∧
      (s.forwarders.lookup packet.source = none ∧
          t = { s with reader := .connecting packet, queue := rest } ∨
        (s.forwarders.lookup packet.source).isSome = true ∧
          t = { s with reader := .fetching packet true, queue := rest ++ [.reader] }) := by
  unfold State.lookup at moved
  split at moved
  · next packet rest arrived first =>
    refine ⟨packet, rest, arrived, first, ?_⟩
    split at moved
    · next absent =>
      cases moved
      exact .inl ⟨Option.isNone_iff_eq_none.mp absent, rfl⟩
    · next held =>
      cases moved
      rw [Option.isNone_iff_eq_none] at held
      exact .inr ⟨Option.isSome_iff_ne_none.mpr held, rfl⟩
  · cases moved

theorem connected_cases {ok : Bool} (moved : s.connected ok = some t) :
    ∃ packet, s.reader = .connecting packet ∧
      t = { s with
        reader := if ok then .inserting packet else .fetching packet false
        queue := s.queue ++ [.reader] } := by
  unfold State.connected at moved
  split at moved
  · next packet connecting =>
    cases moved
    exact ⟨packet, connecting, rfl⟩
  · cases moved

theorem insert_cases (moved : s.insert = some t) :
    ∃ packet rest, s.reader = .inserting packet ∧ s.queue = .reader :: rest ∧
      t = { s with
        reader := .fetching packet false
        forwarders := s.forwarders.insert packet.source ⟨.selecting, []⟩
        queue := rest ++ [.reader] } := by
  unfold State.insert at moved
  split at moved
  · next packet rest inserting first =>
    cases moved
    exact ⟨packet, rest, inserting, first, rfl⟩
  · cases moved

theorem fetch_cases (moved : s.fetch = some t) :
    ∃ packet guarded rest, s.reader = .fetching packet guarded ∧ s.queue = .reader :: rest ∧
      ((s.forwarders.lookup packet.source).isSome = true ∧
          t = { s with reader := .sending packet guarded, queue := rest } ∨
        s.forwarders.lookup packet.source = none ∧
          t = { s with reader := .reading, queue := rest }) := by
  unfold State.fetch at moved
  split at moved
  · next packet guarded rest fetching first =>
    cases moved
    refine ⟨packet, guarded, rest, fetching, first, ?_⟩
    split
    · next held => exact .inl ⟨held, rfl⟩
    · next absent => exact .inr ⟨Option.not_isSome_iff_eq_none.mp absent, rfl⟩
  · cases moved

theorem readerSend_cases (moved : s.readerSend c = some t) :
    ∃ packet guarded, s.reader = .sending packet guarded ∧
      (s.forwarders.lookup packet.source = none ∧ t = { s with reader := .reading } ∨
        ∃ x, s.forwarders.lookup packet.source = some x ∧ x.inbound.length < c.inbound ∧
          t = { s with
            reader := .reading
            forwarders := s.forwarders.insert packet.source
              { x with inbound := x.inbound ++ [packet.data] } }) := by
  unfold State.readerSend at moved
  split at moved
  · next packet guarded sending =>
    refine ⟨packet, guarded, sending, ?_⟩
    split at moved
    · next absent =>
      cases moved
      exact .inl ⟨absent, rfl⟩
    · next x held =>
      obtain ⟨room, ⟨⟩⟩ := Option.ite_none_right_eq_some.mp moved
      exact .inr ⟨x, held, room, rfl⟩
  · cases moved

theorem onForwarder_cases {f : Forwarder → Option Forwarder} (moved : s.onForwarder a f = some t) :
    ∃ x y, s.forwarders.lookup a = some x ∧ f x = some y ∧
      t = { s with forwarders := s.forwarders.insert a y } := by
  obtain ⟨y, applied, rfl⟩ := Option.map_eq_some_iff.mp moved
  obtain ⟨x, held, made⟩ := Option.bind_eq_some_iff.mp applied
  exact ⟨x, y, held, made, rfl⟩

theorem answer_cases {data : List UInt8} {x y : Forwarder} (made : x.answer a data = some y) :
    x.phase = .selecting ∧ y = { x with phase := .sending ⟨a, data⟩ } := by
  obtain ⟨⟨selecting, -⟩, ⟨⟩⟩ := Option.ite_none_right_eq_some.mp made
  exact ⟨selecting, rfl⟩

theorem forward_cases {x y : Forwarder} (made : x.forward = some y) :
    x.phase = .selecting ∧ x.inbound ≠ [] ∧ y = { x with inbound := x.inbound.tail } := by
  obtain ⟨⟨selecting, filled⟩, ⟨⟩⟩ := Option.ite_none_right_eq_some.mp made
  exact ⟨selecting, filled, rfl⟩

theorem expire_cases (moved : s.expire a = some t) :
    ∃ x, s.forwarders.lookup a = some x ∧ x.phase = .selecting ∧
      t = { s with
        forwarders := s.forwarders.insert a { x with phase := .closing }
        queue := s.queue ++ [.forwarder a] } := by
  obtain ⟨u, closed, rfl⟩ := Option.map_eq_some_iff.mp moved
  obtain ⟨x, y, held, made, rfl⟩ := onForwarder_cases closed
  obtain ⟨selecting, ⟨⟩⟩ := Option.ite_none_right_eq_some.mp made
  exact ⟨x, held, selecting, rfl⟩

theorem forwarderSend_cases (moved : s.forwarderSend c a = some t) :
    ∃ u inbound, s.forwarders.lookup a = some ⟨.sending u, inbound⟩ ∧
      s.outbound.length < c.outbound ∧
      t = { s with
        forwarders := s.forwarders.insert a ⟨.selecting, inbound⟩
        outbound := s.outbound ++ [u] } := by
  unfold State.forwarderSend at moved
  split at moved
  · next u inbound held =>
    obtain ⟨room, ⟨⟩⟩ := Option.ite_none_right_eq_some.mp moved
    exact ⟨u, inbound, held, room, rfl⟩
  · cases moved

theorem unmap_cases (moved : s.unmap a = some t) :
    ∃ rest, s.queue = .forwarder a :: rest ∧ s.reader.guarded = false ∧
      t = { s with forwarders := s.forwarders.erase a, queue := rest } := by
  unfold State.unmap at moved
  split at moved
  · next b rest first =>
    obtain ⟨⟨rfl, unguarded⟩, ⟨⟩⟩ := Option.ite_none_right_eq_some.mp moved
    exact ⟨rest, first, unguarded, rfl⟩
  · cases moved

theorem writerReceive_cases (moved : s.writerReceive = some t) :
    ∃ u rest, s.writer = .receiving ∧ s.outbound = u :: rest ∧
      t = { s with writer := .writing u (frameTail u), outbound := rest } := by
  unfold State.writerReceive at moved
  split at moved
  · next u rest receiving filled =>
    cases moved
    exact ⟨u, rest, receiving, filled, rfl⟩
  · cases moved

theorem writerWrite_cases (moved : s.writerWrite c = some t) :
    ∃ u left, s.writer = .writing u left ∧ s.toServer.length < c.toServer ∧
      t = { s with writer := .wrote u left, toServer := s.toServer ++ [⟨u, left⟩] } := by
  unfold State.writerWrite at moved
  split at moved
  · next u left writing =>
    obtain ⟨room, ⟨⟩⟩ := Option.ite_none_right_eq_some.mp moved
    exact ⟨u, left, writing, room, rfl⟩
  · cases moved

end Cases

end Rathole.Udp
