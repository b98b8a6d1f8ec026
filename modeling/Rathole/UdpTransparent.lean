import Rathole.UdpFraming
import Rathole.UdpIsolation

set_option autoImplicit false

/- One forwarding session of a UDP service from end to end: the socket of the visitors, the
two directions of the data channel in bytes, and the tasks of the client. -/
namespace Rathole.UdpSession

open Udp (UdpTraffic Received udpBufferSize writeSlice readFrame portable)
open UdpClient (Forwarder Outbound dataOf)

/-- The session loop of `run_udp_connection_pool`. -/
inductive Server
  | selecting
  /-- in `UdpTraffic::write_slice`, with the bytes that are left -/
  | writing (left : List UInt8)
  | ended
  deriving DecidableEq

/-- `left` holds what the client's writer has yet to write of its item. `received` lists what
the visitors sent, with the address `recv_from` reports, `put` the items the writer has begun,
and `sent` the calls of `send_to`. -/
structure State where
  server : Server
  toClient : List UInt8
  client : UdpClient.State
  left : List UInt8
  toServer : List UInt8
  received : List UdpTraffic
  put : List UdpTraffic
  sent : List UdpTraffic
  deriving DecidableEq

inductive Action
  | visitor (source : SocketAddr) (data : List UInt8)
  | serverWrite (count : Nat)
  | serverWritten
  | clientRead
  | client (a : UdpClient.Action)
  | takeOutbound
  | clientWrite (count : Nat)
  | clientWritten
  | serverRead
  | serverError
  deriving DecidableEq

def State.start : State where
  server := .selecting
  toClient := []
  client := .start
  left := []
  toServer := []
  received := []
  put := []
  sent := []

/-- The steps of the client's tasks that do not touch the stream. -/
def isLocal : UdpClient.Action → Bool
  | .receive _ | .takeOutbound | .wrote true => false
  | _ => true

namespace State

/-- `recv_from` fills the buffer, and the frame is to be written. -/
def visitor (s : State) (source : SocketAddr) (data : List UInt8) : Option State :=
  if s.server = .selecting then
    some { s with
      server := .writing (writeSlice source (data.take udpBufferSize))
      received := s.received ++ [⟨source, data⟩] }
  else none

def serverWrite (s : State) (count : Nat) : Option State :=
  match s.server with
  | .writing left =>
    some { s with server := .writing (left.drop count), toClient := s.toClient ++ left.take count }
  | _ => none

def serverWritten (s : State) : Option State :=
  if s.server = .writing [] then some { s with server := .selecting } else none

/-- The reader takes a frame off the stream; one that does not parse ends its loop. -/
def clientRead (s : State) : Option State :=
  match readFrame s.toClient with
  | .done packet rest =>
    (s.client.receive packet).map fun client => { s with client := client, toClient := rest }
  | .failed => s.client.readError.map fun client => { s with client := client }
  | .incomplete => none

def onClient (s : State) (a : UdpClient.Action) : Option State :=
  if isLocal a then (UdpClient.step s.client a).map fun client => { s with client := client }
  else none

def takeOutbound (s : State) : Option State :=
  match s.client.outbound with
  | item :: _ =>
    s.client.takeOutbound.map fun client =>
      { s with client := client, left := item.traffic.write, put := s.put ++ [item.traffic] }
  | [] => none

def clientWrite (s : State) (count : Nat) : Option State :=
  match s.client.writer with
  | .writing _ =>
    some { s with left := s.left.drop count, toServer := s.toServer ++ s.left.take count }
  | _ => none

def clientWritten (s : State) : Option State :=
  if s.left = [] then
    (s.client.wrote true).map fun client => { s with client := client }
  else none

/-- A frame of the client goes to its visitor; one that does not parse ends the session. -/
def serverRead (s : State) : Option State :=
  if s.server = .selecting then
    match readFrame s.toServer with
    | .done t rest => some { s with sent := s.sent ++ [t], toServer := rest }
    | .failed => some { s with server := .ended }
    | .incomplete => none
  else none

end State

def step (s : State) : Action → Option State
  | .visitor source data => s.visitor source data
  | .serverWrite count => s.serverWrite count
  | .serverWritten => s.serverWritten
  | .clientRead => s.clientRead
  | .client a => s.onClient a
  | .takeOutbound => s.takeOutbound
  | .clientWrite count => s.clientWrite count
  | .clientWritten => s.clientWritten
  | .serverRead => s.serverRead
  | .serverError => some { s with server := .ended }

def system : Transition.System State Action where
  init s := s = .start
  step := step

/-- Datagrams fit the buffers, and the addresses of visitors are told by ip and port. -/
def Fits (_ : State) : Action → Prop
  | .visitor source data => data.length ≤ udpBufferSize ∧ portable source = source
  | .client (.answer _ data) => data.length ≤ udpBufferSize
  | _ => True

/-- What goes in at one end comes out at the other, or nowhere. -/
structure Transparent (s : State) : Prop where
  /-- the reader gets the visitors' datagrams as they were received, each with its address -/
  read : ∃ pending, s.received = s.client.packets ++ pending
  /-- a packet goes to a forwarder for its own address -/
  routed : ∀ packet i guarded, s.client.reader = .sending packet i guarded →
    ∃ x, s.client.forwarders.lookup i = some x ∧ x.source = packet.source
  /-- the local service gets datagrams of the forwarder's visitor, in their order -/
  delivered : ∀ i x, s.client.forwarders.lookup i = some x →
    x.delivered.Sublist (dataOf x.source s.received)
  /-- a visitor gets what the local service sent to the forwarder for its address -/
  answered : ∀ t ∈ s.sent, ∃ i x, s.client.forwarders.lookup i = some x ∧
    t.source = x.source ∧ t.data ∈ x.heard ∧ ∃ packet ∈ s.received, packet.source = t.source

def frames (packets : List UdpTraffic) : List UInt8 := (packets.map UdpTraffic.write).flatten

/-- What is on its way from the visitors to the reader, and back. `lost` is the part of the
last frame that is not on the stream. -/
structure Sound (s : State) : Prop where
  client : UdpClient.Sound s.client
  known : ∀ i x, s.client.forwarders.lookup i = some x →
    ∃ packet ∈ s.client.packets, packet.source = x.source
  short : ∀ i x, s.client.forwarders.lookup i = some x →
    ∀ data ∈ x.heard, data.length ≤ udpBufferSize
  fits : ∀ packet ∈ s.received,
    packet.data.length ≤ udpBufferSize ∧ portable packet.source = packet.source
  inbound : ∃ pending lost, s.received = s.client.packets ++ pending ∧
    s.toClient ++ lost = frames pending ∧ (∀ left, s.server = .writing left → lost = left) ∧
    (s.server = .selecting → lost = [])
  outbound : ∃ pending lost, s.put = s.sent ++ pending ∧ s.toServer ++ lost = frames pending ∧
    (∀ item, s.client.writer = .writing item → lost = s.left) ∧
    (s.client.writer = .receiving → lost = [])
  origin : ∀ t ∈ s.put, ∃ i x, s.client.forwarders.lookup i = some x ∧
    t.source = x.source ∧ t.data ∈ x.heard

section Frames

variable {packets pending : List UdpTraffic} {stream lost rest : List UInt8} {t : UdpTraffic}

theorem frames_append : frames (packets ++ pending) = frames packets ++ frames pending := by
  simp [frames]

theorem frames_single : frames [t] = t.write := by simp [frames]

/-- What is read off a stream of frames is the first of them. -/
theorem read_frames (received : readFrame stream = .done t rest)
    (streamed : stream ++ lost = frames pending)
    (fits : ∀ packet ∈ pending, packet.data.length ≤ udpBufferSize ∧
      portable packet.source = packet.source) :
    ∃ later, pending = t :: later ∧ rest ++ lost = frames later := by
  cases pending with
  | nil =>
    obtain ⟨rfl, -⟩ := List.append_eq_nil_iff.mp streamed
    cases received
  | cons packet later =>
    obtain ⟨short, exact⟩ := fits packet (List.mem_cons_self ..)
    have bound : packet.data.length < 2 ^ 16 := lt_of_le_of_lt short (by decide)
    have whole := Udp.readFrame_extend received lost
    rw [streamed, frames, List.map_cons, List.flatten_cons, Udp.readFrame_write bound,
      exact] at whole
    injection whole with same tail
    exact ⟨later, by rw [← same], tail.symm⟩

end Frames

section Client

variable {c d : UdpClient.State} {a : UdpClient.Action}

/-- The packets and the writer's item are those of before. -/
structure Apart (c d : UdpClient.State) : Prop where
  packets : d.packets = c.packets
  writer : d.writer = c.writer ∨ d.writer = .ended

theorem apart_onForwarder {i : Nat} {f : Forwarder → Option Forwarder}
    (moved : c.onForwarder i f = some d) : Apart c d := by
  obtain ⟨y, -, rfl⟩ := Option.map_eq_some_iff.mp moved
  exact ⟨rfl, .inl rfl⟩

theorem apart_leave {i : Nat} {f : Forwarder → Option Forwarder}
    (moved : c.leave i f = some d) : Apart c d := by
  obtain ⟨u, left, rfl⟩ := Option.map_eq_some_iff.mp moved
  obtain ⟨y, -, rfl⟩ := Option.map_eq_some_iff.mp left
  exact ⟨rfl, .inl rfl⟩

theorem apart_send (moved : c.send = some d) : Apart c d := by
  unfold UdpClient.State.send at moved
  split at moved
  · split at moved
    · split at moved
      · cases moved
        exact ⟨rfl, .inl rfl⟩
      · obtain ⟨-, ⟨⟩⟩ := Option.ite_none_right_eq_some.mp moved
        exact ⟨rfl, .inl rfl⟩
    · cases moved
      exact ⟨rfl, .inl rfl⟩
  · cases moved

theorem apart_push {i : Nat} (moved : c.push i = some d) : Apart c d := by
  unfold UdpClient.State.push at moved
  split at moved
  · split at moved
    · split at moved
      · cases moved
        exact ⟨rfl, .inl rfl⟩
      · obtain ⟨-, ⟨⟩⟩ := Option.ite_none_right_eq_some.mp moved
        exact ⟨rfl, .inl rfl⟩
    · cases moved
  · cases moved

theorem apart_of_step (apart : isLocal a = true) (moved : UdpClient.step c a = some d) :
    Apart c d := by
  cases a with
  | receive packet => cases apart
  | takeOutbound => cases apart
  | readError =>
    obtain ⟨-, ⟨⟩⟩ := Option.ite_none_right_eq_some.mp moved
    exact ⟨rfl, .inl rfl⟩
  | lookup =>
    change c.lookup = some d at moved
    unfold UdpClient.State.lookup at moved
    split at moved
    · split at moved <;> cases moved <;> exact ⟨rfl, .inl rfl⟩
    · cases moved
  | connect ok =>
    change c.connect ok = some d at moved
    unfold UdpClient.State.connect at moved
    split at moved <;> cases moved
    exact ⟨rfl, .inl rfl⟩
  | insert =>
    change c.insert = some d at moved
    unfold UdpClient.State.insert at moved
    split at moved <;> cases moved
    exact ⟨rfl, .inl rfl⟩
  | fetch =>
    change c.fetch = some d at moved
    unfold UdpClient.State.fetch at moved
    split at moved
    · obtain ⟨-, moved⟩ := Option.ite_none_left_eq_some.mp moved
      split at moved <;> cases moved <;> exact ⟨rfl, .inl rfl⟩
    · cases moved
  | send => exact apart_send moved
  | forward i ok =>
    cases ok with
    | true => exact apart_onForwarder moved
    | false => exact apart_leave moved
  | closed i => exact apart_leave moved
  | answer i data => exact apart_onForwarder moved
  | recvError i => exact apart_leave moved
  | expire i => exact apart_leave moved
  | push i => exact apart_push moved
  | remove i =>
    change c.remove i = some d at moved
    unfold UdpClient.State.remove at moved
    split at moved
    · obtain ⟨-, ⟨⟩⟩ := Option.ite_none_right_eq_some.mp moved
      exact ⟨rfl, .inl rfl⟩
    · cases moved
  | wrote ok =>
    change c.wrote ok = some d at moved
    unfold UdpClient.State.wrote at moved
    cases ok with
    | true => cases apart
    | false =>
      split at moved <;> cases moved
      exact ⟨rfl, .inr rfl⟩

/-- Forwarders stay on record, with their address and what they heard. -/
theorem lookup_of_step (sound : UdpClient.Sound c) (moved : UdpClient.step c a = some d) {i : Nat}
    {x : Forwarder} (found : c.forwarders.lookup i = some x) :
    ∃ y, d.forwarders.lookup i = some y ∧ y.source = x.source ∧ x.heard ⊆ y.heard := by
  cases UdpClient.changes_of_step moved with
  | none forwarders => exact ⟨x, forwarders ▸ found, rfl, List.Subset.refl _⟩
  | @one j z y held forwarders source heard =>
    rw [forwarders, lookup_insert_eq]
    split
    · next same =>
      subst same
      rw [found] at held
      cases held
      refine ⟨y, rfl, source, ?_⟩
      rcases heard with same | ⟨data, -, grown⟩
      · rw [same]
        exact List.Subset.refl _
      · rw [grown]
        exact List.subset_append_left _ _
    · exact ⟨x, found, rfl, List.Subset.refl _⟩
  | spawned inserting forwarders =>
    have other : i ≠ c.spawned := by
      rintro rfl
      have fresh := sound.owned.fresh c.spawned le_rfl
      rw [UdpClient.owner_of_lookup found] at fresh
      cases fresh
    exact ⟨x, by rw [forwarders, lookup_insert_eq, if_neg other, found], rfl, List.Subset.refl _⟩

/-- Where the forwarders of the state after a step come from. -/
theorem back_of_step (moved : UdpClient.step c a = some d) {i : Nat} {y : Forwarder}
    (found : d.forwarders.lookup i = some y) :
    (∃ x, c.forwarders.lookup i = some x ∧ y.source = x.source ∧
      (y.heard = x.heard ∨ ∃ data, a = .answer i data ∧ y.heard = x.heard ++ [data])) ∨
    ∃ packet, c.reader = .inserting packet ∧ y.source = packet.source ∧ y.heard = [] := by
  cases UdpClient.changes_of_step moved with
  | none forwarders => exact .inl ⟨y, forwarders ▸ found, rfl, .inl rfl⟩
  | one held forwarders source heard =>
    rcases UdpClient.lookup_update forwarders found with ⟨rfl, rfl⟩ | before
    · exact .inl ⟨_, held, source, heard⟩
    · exact .inl ⟨y, before, rfl, .inl rfl⟩
  | spawned inserting forwarders =>
    rcases UdpClient.lookup_update forwarders found with ⟨rfl, rfl⟩ | before
    · exact .inr ⟨_, inserting, rfl, rfl⟩
    · exact .inl ⟨y, before, rfl, .inl rfl⟩

end Client

section Steps

variable {s t : State} {client : UdpClient.State} {a : UdpClient.Action}

/-- The part of the invariant that speaks of the forwarders alone. -/
structure Recorded (c : UdpClient.State) (put : List UdpTraffic) : Prop where
  client : UdpClient.Sound c
  known : ∀ i x, c.forwarders.lookup i = some x → ∃ packet ∈ c.packets, packet.source = x.source
  short : ∀ i x, c.forwarders.lookup i = some x → ∀ data ∈ x.heard, data.length ≤ udpBufferSize
  origin : ∀ t ∈ put, ∃ i x, c.forwarders.lookup i = some x ∧ t.source = x.source ∧
    t.data ∈ x.heard

theorem Sound.recorded (sound : Sound s) : Recorded s.client s.put :=
  ⟨sound.client, sound.known, sound.short, sound.origin⟩

theorem Recorded.step {c d : UdpClient.State} {put : List UdpTraffic} (recorded : Recorded c put)
    (moved : UdpClient.step c a = some d)
    (fits : ∀ i data, a = .answer i data → data.length ≤ udpBufferSize)
    (packets : c.packets ⊆ d.packets) : Recorded d put := by
  refine ⟨recorded.client.step moved, fun i y found => ?_, fun i y found data heard => ?_,
    fun t member => ?_⟩
  · rcases back_of_step moved found with ⟨x, held, source, -⟩ | ⟨packet, inserting, source, -⟩
    · obtain ⟨packet, member, same⟩ := recorded.known i x held
      exact ⟨packet, packets member, same.trans source.symm⟩
    · have hand := recorded.client.ordered.hand packet (by rw [inserting]; rfl)
      refine ⟨packet, packets ?_, source.symm⟩
      rw [hand]
      exact List.mem_append_right _ (List.mem_singleton_self _)
  · rcases back_of_step moved found with ⟨x, held, -, same | ⟨more, answer, grown⟩⟩ |
      ⟨packet, -, -, empty⟩
    · exact recorded.short i x held data (same ▸ heard)
    · rw [grown, List.mem_append, List.mem_singleton] at heard
      rcases heard with heard | rfl
      · exact recorded.short i x held data heard
      · exact fits i _ answer
    · rw [empty] at heard
      cases heard
  · obtain ⟨i, x, found, source, heard⟩ := recorded.origin t member
    obtain ⟨y, later, same, grown⟩ := lookup_of_step recorded.client moved found
    exact ⟨i, y, later, source.trans same.symm, grown heard⟩

theorem Recorded.sound {packets : UdpClient.State} {put : List UdpTraffic} {t : State}
    (recorded : Recorded packets put) (client : t.client = packets) (same : t.put = put)
    (fits : ∀ packet ∈ t.received,
      packet.data.length ≤ udpBufferSize ∧ portable packet.source = packet.source)
    (inbound : ∃ pending lost, t.received = t.client.packets ++ pending ∧
      t.toClient ++ lost = frames pending ∧ (∀ left, t.server = .writing left → lost = left) ∧
      (t.server = .selecting → lost = []))
    (outbound : ∃ pending lost, t.put = t.sent ++ pending ∧ t.toServer ++ lost = frames pending ∧
      (∀ item, t.client.writer = .writing item → lost = t.left) ∧
      (t.client.writer = .receiving → lost = [])) : Sound t := by
  subst client same
  exact ⟨recorded.client, recorded.known, recorded.short, fits, inbound, outbound, recorded.origin⟩

/-- A visitor's datagram that fits the buffer goes into the frame as it is. -/
theorem Sound.visitor (sound : Sound s) {source : SocketAddr} {data : List UInt8}
    (short : data.length ≤ udpBufferSize) (exact : portable source = source)
    (moved : s.visitor source data = some t) : Sound t := by
  obtain ⟨selecting, ⟨⟩⟩ := Option.ite_none_right_eq_some.mp moved
  obtain ⟨pending, lost, received, stream, -, nothing⟩ := sound.inbound
  refine sound.recorded.sound rfl rfl (fun packet member => ?_)
    ⟨pending ++ [⟨source, data⟩], UdpTraffic.write ⟨source, data⟩, ?_, ?_, fun left writes => ?_,
      by simp⟩ sound.outbound
  · rcases List.mem_append.mp member with member | member
    · exact sound.fits packet member
    · rw [List.mem_singleton.mp member]
      exact ⟨short, exact⟩
  · show s.received ++ _ = _
    rw [received, List.append_assoc]
  · show s.toClient ++ _ = _
    rw [frames_append, frames_single, ← stream, nothing selecting, List.append_nil]
  · rw [← Server.writing.inj writes, List.take_of_length_le short]
    rfl

theorem Sound.serverWrite (sound : Sound s) {count : Nat} (moved : s.serverWrite count = some t) :
    Sound t := by
  unfold State.serverWrite at moved
  split at moved
  · next left writing =>
    cases moved
    obtain ⟨pending, lost, received, stream, writes, -⟩ := sound.inbound
    refine sound.recorded.sound rfl rfl sound.fits
      ⟨pending, left.drop count, received, ?_, fun rest same => Server.writing.inj same, by simp⟩
      sound.outbound
    show s.toClient ++ left.take count ++ left.drop count = _
    rw [List.append_assoc, List.take_append_drop, ← writes left writing, stream]
  · cases moved

theorem Sound.serverWritten (sound : Sound s) (moved : s.serverWritten = some t) : Sound t := by
  obtain ⟨writing, ⟨⟩⟩ := Option.ite_none_right_eq_some.mp moved
  obtain ⟨pending, lost, received, stream, writes, -⟩ := sound.inbound
  exact sound.recorded.sound rfl rfl sound.fits
    ⟨pending, lost, received, stream, by simp, fun _ => writes [] writing⟩ sound.outbound

/-- The reader gets the first of the datagrams on their way. -/
theorem Sound.clientRead (sound : Sound s) (moved : s.clientRead = some t) : Sound t := by
  obtain ⟨pending, lost, received, stream, writes, nothing⟩ := sound.inbound
  unfold State.clientRead at moved
  split at moved
  · next packet rest frame =>
    obtain ⟨client, got, rfl⟩ := Option.map_eq_some_iff.mp moved
    have fits : ∀ packet ∈ pending, packet.data.length ≤ udpBufferSize ∧
        portable packet.source = packet.source := by
      intro packet member
      exact sound.fits packet (by rw [received]; exact List.mem_append_right _ member)
    obtain ⟨later, rfl, streamed⟩ := read_frames frame stream fits
    have stepped : UdpClient.step s.client (.receive packet) = some client := got
    obtain ⟨-, ⟨⟩⟩ := Option.ite_none_right_eq_some.mp got
    have recorded := sound.recorded.step stepped (by simp) (List.subset_append_left _ _)
    refine recorded.sound rfl rfl sound.fits ⟨later, lost, ?_, streamed, writes, nothing⟩
      sound.outbound
    show s.received = s.client.packets ++ [packet] ++ later
    rw [received, List.append_assoc]
    rfl
  · obtain ⟨client, failed, rfl⟩ := Option.map_eq_some_iff.mp moved
    have stepped : UdpClient.step s.client .readError = some client := failed
    obtain ⟨-, ⟨⟩⟩ := Option.ite_none_right_eq_some.mp failed
    have recorded := sound.recorded.step stepped (by simp) (List.Subset.refl _)
    exact recorded.sound rfl rfl sound.fits ⟨pending, lost, received, stream, writes, nothing⟩
      sound.outbound
  · cases moved

theorem Sound.onClient (sound : Sound s)
    (fits : ∀ i data, a = .answer i data → data.length ≤ udpBufferSize)
    (moved : s.onClient a = some t) : Sound t := by
  obtain ⟨apart, moved⟩ := Option.ite_none_right_eq_some.mp moved
  obtain ⟨client, stepped, rfl⟩ := Option.map_eq_some_iff.mp moved
  obtain ⟨packets, writer⟩ := apart_of_step apart stepped
  obtain ⟨pending, lost, put, stream, writes, nothing⟩ := sound.outbound
  have recorded := sound.recorded.step stepped fits (packets ▸ List.Subset.refl _)
  refine recorded.sound rfl rfl sound.fits (packets.symm ▸ sound.inbound)
    ⟨pending, lost, put, stream, fun item writing => ?_, fun receiving => ?_⟩
  · rcases writer with same | ended
    · exact writes item (same ▸ writing)
    · exact absurd (ended.symm.trans writing) (by simp)
  · rcases writer with same | ended
    · exact nothing (same ▸ receiving)
    · exact absurd (ended.symm.trans receiving) (by simp)

/-- An item of the outbound queue has the address of its forwarder, which heard its data. -/
theorem origin_of_item (sound : Sound s) {item : Outbound} (member : item ∈ s.client.items) :
    ∃ i x, s.client.forwarders.lookup i = some x ∧ item.traffic.source = x.source ∧
      item.traffic.data ∈ x.heard := by
  obtain ⟨ended, owner⟩ := sound.client.tagged.source item member
  obtain ⟨x, found, same⟩ := Option.map_eq_some_iff.mp owner
  rw [Prod.mk.injEq] at same
  refine ⟨item.forwarder, x, found, same.1.symm, ?_⟩
  have answered : item.traffic.data ∈ UdpClient.answersOf item.forwarder s.client.items :=
    List.mem_map.mpr ⟨item, List.mem_filter.mpr ⟨member, decide_eq_true rfl⟩, rfl⟩
  have taken := (sound.client.tagged.heard _ x found).subset (List.mem_append_left _ answered)
  obtain ⟨data, heard, cut⟩ := List.mem_map.mp taken
  rw [← cut, List.take_of_length_le (sound.short _ x found data heard)]
  exact heard

theorem Sound.takeOutbound (sound : Sound s) (moved : s.takeOutbound = some t) : Sound t := by
  unfold State.takeOutbound at moved
  split at moved
  · next item later queue =>
    obtain ⟨client, taken, rfl⟩ := Option.map_eq_some_iff.mp moved
    have member : item ∈ s.client.items := by simp [UdpClient.State.items, queue]
    obtain ⟨i, x, found, source, heard⟩ := origin_of_item sound member
    obtain ⟨pending, lost, put, stream, -, nothing⟩ := sound.outbound
    have stepped : UdpClient.step s.client .takeOutbound = some client := taken
    unfold UdpClient.State.takeOutbound at taken
    split at taken
    · next other rest receiving same =>
      obtain ⟨rfl, rfl⟩ := List.cons.inj (queue.symm.trans same)
      cases taken
      have recorded := sound.recorded.step stepped (by simp) (List.Subset.refl _)
      have origins : ∀ t ∈ s.put ++ [item.traffic], ∃ i x,
          s.client.forwarders.lookup i = some x ∧ t.source = x.source ∧ t.data ∈ x.heard := by
        intro t member
        rcases List.mem_append.mp member with member | member
        · exact sound.origin t member
        · rw [List.mem_singleton.mp member]
          exact ⟨i, x, found, source, heard⟩
      refine ⟨recorded.client, recorded.known, recorded.short, sound.fits, sound.inbound,
        ⟨pending ++ [item.traffic], item.traffic.write, ?_, ?_, fun _ _ => rfl, by simp⟩, origins⟩
      · show s.put ++ _ = _
        rw [put, List.append_assoc]
      · show s.toServer ++ _ = _
        rw [frames_append, frames_single, ← stream, nothing receiving, List.append_nil]
    · cases taken
  · cases moved

theorem Sound.clientWrite (sound : Sound s) {count : Nat} (moved : s.clientWrite count = some t) :
    Sound t := by
  unfold State.clientWrite at moved
  split at moved
  · next item writing =>
    cases moved
    obtain ⟨pending, lost, put, stream, writes, -⟩ := sound.outbound
    refine sound.recorded.sound rfl rfl sound.fits sound.inbound
      ⟨pending, s.left.drop count, put, ?_, fun _ _ => rfl, fun receiving => ?_⟩
    · show s.toServer ++ s.left.take count ++ s.left.drop count = _
      rw [List.append_assoc, List.take_append_drop, ← writes item writing, stream]
    · exact absurd (writing.symm.trans receiving) (by simp)
  · cases moved

theorem Sound.clientWritten (sound : Sound s) (moved : s.clientWritten = some t) : Sound t := by
  obtain ⟨empty, moved⟩ := Option.ite_none_right_eq_some.mp moved
  obtain ⟨client, written, rfl⟩ := Option.map_eq_some_iff.mp moved
  obtain ⟨pending, lost, put, stream, writes, -⟩ := sound.outbound
  have stepped : UdpClient.step s.client (.wrote true) = some client := written
  unfold UdpClient.State.wrote at written
  split at written
  · next item writing =>
    cases written
    have recorded := sound.recorded.step stepped (by simp) (List.Subset.refl _)
    exact recorded.sound rfl rfl sound.fits sound.inbound
      ⟨pending, lost, put, stream, by simp, fun _ => (writes item writing).trans empty⟩
  · cases written

/-- The server gets the first of the items on their way. -/
theorem Sound.serverRead (sound : Sound s) (moved : s.serverRead = some t) : Sound t := by
  obtain ⟨selecting, moved⟩ := Option.ite_none_right_eq_some.mp moved
  obtain ⟨pending, lost, put, stream, writes, nothing⟩ := sound.outbound
  split at moved
  · next packet rest frame =>
    cases moved
    have fits : ∀ packet ∈ pending, packet.data.length ≤ udpBufferSize ∧
        portable packet.source = packet.source := by
      intro packet member
      obtain ⟨i, x, found, source, heard⟩ :=
        sound.origin packet (by rw [put]; exact List.mem_append_right _ member)
      obtain ⟨first, member, same⟩ := sound.known i x found
      obtain ⟨later, gone, received, -⟩ := sound.inbound
      have exact := (sound.fits first (by rw [received]; exact List.mem_append_left _ member)).2
      rw [source, ← same]
      exact ⟨sound.short i x found _ heard, exact⟩
    obtain ⟨later, rfl, streamed⟩ := read_frames frame stream fits
    refine sound.recorded.sound rfl rfl sound.fits sound.inbound
      ⟨later, lost, ?_, streamed, writes, nothing⟩
    show s.put = s.sent ++ [packet] ++ later
    rw [put, List.append_assoc]
    rfl
  · cases moved
    obtain ⟨ahead, gone, received, toClient, -⟩ := sound.inbound
    exact sound.recorded.sound rfl rfl sound.fits
      ⟨ahead, gone, received, toClient, by simp, by simp⟩
      ⟨pending, lost, put, stream, writes, nothing⟩
  · cases moved

theorem Sound.step {x : Action} (fits : Fits s x) (moved : UdpSession.step s x = some t)
    (sound : Sound s) : Sound t := by
  cases x with
  | visitor source data => exact sound.visitor fits.1 fits.2 moved
  | serverWrite count => exact sound.serverWrite moved
  | serverWritten => exact sound.serverWritten moved
  | clientRead => exact sound.clientRead moved
  | client a =>
    refine sound.onClient (fun i data same => ?_) moved
    subst same
    exact fits
  | takeOutbound => exact sound.takeOutbound moved
  | clientWrite count => exact sound.clientWrite moved
  | clientWritten => exact sound.clientWritten moved
  | serverRead => exact sound.serverRead moved
  | serverError =>
    cases moved
    obtain ⟨pending, lost, received, stream, -⟩ := sound.inbound
    exact sound.recorded.sound rfl rfl sound.fits
      ⟨pending, lost, received, stream, by simp, by simp⟩ sound.outbound

theorem Sound.start : Sound .start := by
  refine ⟨UdpClient.Sound.start, ?_, ?_, by simp [State.start],
    ⟨[], [], rfl, rfl, by simp [State.start], fun _ => rfl⟩,
    ⟨[], [], rfl, rfl, by simp [State.start, UdpClient.State.start], fun _ => rfl⟩,
    by simp [State.start]⟩
  · simp [State.start, UdpClient.State.start]
  · simp [State.start, UdpClient.State.start]

/-- A session whose datagrams fit the buffers, and whose visitors are told apart by ip and
port, alters nothing. -/
theorem transparent_of_fits (reached : system.Reach Fits s) : Transparent s := by
  have sound : Sound s := by
    refine reached.invariant ?_ fun _ _ _ fits moved => .step fits moved
    rintro s rfl
    exact .start
  obtain ⟨pending, lost, received, -⟩ := sound.inbound
  obtain ⟨later, gone, put, -⟩ := sound.outbound
  refine ⟨⟨pending, received⟩, fun packet i guarded sending => ?_, fun i x found => ?_,
    fun t member => ?_⟩
  · obtain ⟨ended, owner⟩ := sound.client.owned.target packet i guarded sending
    obtain ⟨x, found, same⟩ := Option.map_eq_some_iff.mp owner
    rw [Prod.mk.injEq] at same
    exact ⟨x, found, same.1⟩
  · have queued := sound.client.ordered.order i x found
    have read : s.client.before.Sublist s.received := by
      rw [received]
      exact UdpClient.sublist_before.trans (List.sublist_append_left _ _)
    exact ((List.sublist_append_left _ _).trans queued).trans ((read.filter _).map _)
  · obtain ⟨i, x, found, source, heard⟩ :=
      sound.origin t (by rw [put]; exact List.mem_append_left _ member)
    obtain ⟨packet, known, same⟩ := sound.known i x found
    refine ⟨i, x, found, source, heard, packet, ?_, same.trans source.symm⟩
    rw [received]
    exact List.mem_append_left _ known

end Steps

/-- The frame of a datagram reads back as this datagram when it fits, and only then. -/
theorem readFrame_visitor {t : UdpTraffic} :
    readFrame (writeSlice t.source (t.data.take udpBufferSize)) = .done t [] ↔
      t.data.length ≤ udpBufferSize ∧ portable t.source = t.source := by
  have short : (t.data.take udpBufferSize).length < 2 ^ 16 :=
    lt_of_le_of_lt (List.length_take_le ..) (by decide)
  have read : readFrame (writeSlice t.source (t.data.take udpBufferSize) ++ []) =
      .done ⟨portable t.source, t.data.take udpBufferSize⟩ [] :=
    Udp.readFrame_write (t := ⟨t.source, t.data.take udpBufferSize⟩) short
  rw [List.append_nil] at read
  obtain ⟨source, data⟩ := t
  rw [read, Received.done.injEq, UdpTraffic.mk.injEq, List.take_eq_self_iff, and_comm]
  simp [and_comm]

def fits : Action → Bool
  | .visitor source data => decide (data.length ≤ udpBufferSize ∧ portable source = source)
  | .client (.answer _ data) => decide (data.length ≤ udpBufferSize)
  | _ => true

theorem fits_of_check (s : State) (a : Action) (passed : fits a = true) : Fits s a := by
  cases a with
  | visitor source data =>
    have fits : data.length ≤ udpBufferSize ∧ portable source = source := of_decide_eq_true passed
    exact fits
  | client a =>
    cases a with
    | answer i data =>
      have short : data.length ≤ udpBufferSize := of_decide_eq_true passed
      exact short
    | _ => trivial
  | _ => trivial

/-- A datagram of a visitor, to the local service. -/
def toService (source : SocketAddr) (data : List UInt8) : List Action :=
  [.visitor source data, .serverWrite (writeSlice source data).length, .serverWritten,
    .clientRead] ++ [.lookup, .connect true, .insert, .fetch, .send, .forward 0 true].map .client

/-- The answer of the local service, to the visitor. -/
def toVisitor (source : SocketAddr) (data : List UInt8) : List Action :=
  [.client (.answer 0 data), .client (.push 0), .takeOutbound,
    .clientWrite (writeSlice source data).length, .clientWritten, .serverRead]

/-- A visitor with a v4 address gets its answer. -/
theorem transparent_to_visitor : ∃ s, system.Reach Fits s ∧ s.sent = [⟨.v4 1 7, [9]⟩] ∧
    Transparent s := by
  obtain ⟨s, reached, held⟩ := Transition.System.exists_reach (m := system) rfl
    (toService (.v4 1 7) [5] ++ toVisitor (.v4 1 7) [9]) (fun s => s.sent = [⟨.v4 1 7, [9]⟩])
    (fun _ => fits) fits_of_check (by decide +kernel)
  exact ⟨s, reached, of_decide_eq_true held, transparent_of_fits reached⟩

/-- The answer to a visitor with a link-local address loses the scope of that address. -/
theorem scope_lost_to_visitor : ¬ ∀ s, system.Reachable s → Transparent s := by
  intro transparent
  obtain ⟨s, reached, held⟩ := Transition.System.exists_reachable (m := system) rfl
    (toService (.v6 1 7 0 2) [5] ++ toVisitor (.v6 1 7 0 2) [9])
    (fun s => s.sent = [⟨.v6 1 7 0 0, [9]⟩] ∧ s.received = [⟨.v6 1 7 0 2, [5]⟩])
    (by decide +kernel)
  obtain ⟨sent, received⟩ := of_decide_eq_true held
  obtain ⟨-, -, -, -, -, packet, member, same⟩ :=
    (transparent s reached).answered ⟨.v6 1 7 0 0, [9]⟩ (by simp [sent])
  rw [received, List.mem_singleton] at member
  subst member
  exact absurd same (by decide)

end Rathole.UdpSession
