import Mathlib.Algebra.BigOperators.Group.Finset.Basic
import Rathole.Udp

set_option autoImplicit false

/- What the tasks of a UDP data channel wait for when none of them can move. -/
namespace Rathole.Udp

variable {c : Capacity} {s t : State}

/-- Something is in one of the buffers. -/
def Pending (s : State) : Prop :=
  s.toClient ≠ [] ∨ s.toServer ≠ [] ∨ s.outbound ≠ [] ∨
    ∃ a x, s.forwarders.lookup a = some x ∧ x.inbound ≠ []

/-- No task can move without a new datagram from the world. -/
def Blocked (c : Capacity) (s : State) : Prop :=
  ∀ a : Action, a.isInternal = true → step c s a = none

def CircularWait (c : Capacity) (s : State) : Prop := Pending s ∧ Blocked c s

/-- The server has a frame to write and no room for it. -/
def State.serverWaits (c : Capacity) (s : State) : Bool :=
  match s.server with
  | .writing .. => c.toClient ≤ s.toClient.length
  | _ => false

/-- The visitor whose forwarder has no room for the packet in the reader's hand. -/
def State.readerWaits (c : Capacity) (s : State) : Option SocketAddr :=
  match s.reader with
  | .sending packet _ =>
    (s.forwarders.lookup packet.source).bind fun x =>
      if c.inbound ≤ x.inbound.length then some packet.source else none
  | _ => none

def Forwarder.isSending (x : Forwarder) : Bool :=
  match x.phase with
  | .sending _ => true
  | _ => false

/-- The forwarder has a datagram for the server and no room for it. -/
def State.forwarderWaits (c : Capacity) (s : State) (a : SocketAddr) : Bool :=
  (s.forwarders.lookup a).any Forwarder.isSending && decide (c.outbound ≤ s.outbound.length)

def State.writerWaits (c : Capacity) (s : State) : Bool :=
  match s.writer with
  | .writing .. => c.toServer ≤ s.toServer.length
  | .receiving => false

/-- The four waits of one circle: server, reader, forwarder and writer. -/
structure Circle (c : Capacity) (s : State) (a : SocketAddr) : Prop where
  server : s.serverWaits c = true
  reader : s.readerWaits c = some a
  forwarder : s.forwarderWaits c a = true
  writer : s.writerWaits c = true

/-- What stops a channel for good: the circle, or a forwarder that waits for the guard of the
reader while the reader waits behind it for the lock, or for room in its queue. -/
inductive Jam (c : Capacity) (s : State) : Prop
  | circle (a : SocketAddr) (closed : Circle c s a)
  | behind (packet : UdpTraffic) (a : SocketAddr) (rest : List Waiter)
      (reader : s.reader = .fetching packet true) (queue : s.queue = .forwarder a :: rest)
  | full (packet : UdpTraffic) (x : Forwarder) (reader : s.reader = .sending packet true)
      (held : s.forwarders.lookup packet.source = some x) (closing : x.phase = .closing)
      (full : c.inbound ≤ x.inbound.length)

section Waits

variable {a : SocketAddr}

theorem serverWaits_iff : s.serverWaits c = true ↔
    ∃ t left, s.server = .writing t left ∧ c.toClient ≤ s.toClient.length := by
  unfold State.serverWaits
  cases s.server with
  | selecting | reading => simp
  | writing t left => simp

theorem writerWaits_iff : s.writerWaits c = true ↔
    ∃ t left, s.writer = .writing t left ∧ c.toServer ≤ s.toServer.length := by
  unfold State.writerWaits
  cases s.writer with
  | receiving => simp
  | writing t left => simp

theorem readerWaits_iff : s.readerWaits c = some a ↔
    ∃ packet guarded x, s.reader = .sending packet guarded ∧ packet.source = a ∧
      s.forwarders.lookup a = some x ∧ c.inbound ≤ x.inbound.length := by
  unfold State.readerWaits
  constructor
  · intro waits
    split at waits
    · next packet guarded sending =>
      obtain ⟨x, held, same⟩ := Option.bind_eq_some_iff.mp waits
      obtain ⟨full, ⟨⟩⟩ := Option.ite_none_right_eq_some.mp same
      exact ⟨packet, guarded, x, sending, rfl, held, full⟩
    · cases waits
  · rintro ⟨packet, guarded, x, sending, rfl, held, full⟩
    rw [sending]
    dsimp only
    rw [held, Option.bind_some, if_pos full]

theorem forwarderWaits_iff : s.forwarderWaits c a = true ↔
    ∃ x, s.forwarders.lookup a = some x ∧ x.isSending = true ∧ c.outbound ≤ s.outbound.length := by
  rw [State.forwarderWaits, Bool.and_eq_true, decide_eq_true_eq, Option.any_eq_true]
  constructor
  · rintro ⟨⟨x, held, sending⟩, full⟩
    exact ⟨x, held, sending, full⟩
  · rintro ⟨x, held, sending, full⟩
    exact ⟨⟨x, held, sending⟩, full⟩

theorem phase_of_isSending {x : Forwarder} (sending : x.isSending = true) :
    x.phase ≠ .selecting ∧ x.phase ≠ .closing := by
  constructor
  · intro selecting
    rw [Forwarder.isSending, selecting] at sending
    cases sending
  · intro closing
    rw [Forwarder.isSending, closing] at sending
    cases sending

theorem ne_nil_of_full {A : Type} {bound : Nat} {buffer : List A} (positive : 0 < bound)
    (full : bound ≤ buffer.length) : buffer ≠ [] :=
  List.ne_nil_of_length_pos (Nat.lt_of_lt_of_le positive full)

/-- The other forwarders and the lock do not matter to a circle. -/
theorem Circle.of_forwarders {F : HashMap SocketAddr Forwarder} {q : List Waiter}
    (circle : Circle c { s with forwarders := F, queue := q } a)
    (same : F.lookup a = s.forwarders.lookup a) : Circle c s a := by
  obtain ⟨packet, guarded, x, reader, named, held, full⟩ := readerWaits_iff.mp circle.reader
  obtain ⟨y, kept, sending, outbound⟩ := forwarderWaits_iff.mp circle.forwarder
  have held' : s.forwarders.lookup a = some x := same.symm.trans held
  have kept' : s.forwarders.lookup a = some y := same.symm.trans kept
  exact ⟨circle.server, readerWaits_iff.mpr ⟨packet, guarded, x, reader, named, held', full⟩,
    forwarderWaits_iff.mpr ⟨y, kept', sending, outbound⟩, circle.writer⟩

end Waits

section Within

/-- No buffer is over its bound. -/
structure Within (c : Capacity) (s : State) : Prop where
  toClient : s.toClient.length ≤ c.toClient
  toServer : s.toServer.length ≤ c.toServer
  outbound : s.outbound.length ≤ c.outbound
  inbound : ∀ a x, s.forwarders.lookup a = some x → x.inbound.length ≤ c.inbound

theorem within_start : Within c State.start :=
  ⟨Nat.zero_le _, Nat.zero_le _, Nat.zero_le _, fun _ _ held => by cases held⟩

/-- A place in a buffer that is not full. -/
theorem length_append_le {A : Type} {buffer : List A} {bound : Nat} (item : A)
    (room : buffer.length < bound) : (buffer ++ [item]).length ≤ bound := by
  rw [List.length_append]
  exact room

theorem length_le_of_cons {A : Type} {buffer rest : List A} {item : A} {bound : Nat}
    (filled : buffer = item :: rest) (bounded : buffer.length ≤ bound) : rest.length ≤ bound := by
  rw [filled, List.length_cons] at bounded
  exact Nat.le_of_succ_le bounded

theorem Within.insert (within : Within c s) {a : SocketAddr} {y : Forwarder}
    (fits : y.inbound.length ≤ c.inbound) :
    ∀ b x, (s.forwarders.insert a y).lookup b = some x → x.inbound.length ≤ c.inbound := by
  intro b x held
  rw [lookup_insert_eq] at held
  by_cases same : b = a
  · rw [if_pos same] at held
    cases held
    exact fits
  · rw [if_neg same] at held
    exact within.inbound b x held

theorem Within.erase (within : Within c s) {a : SocketAddr} :
    ∀ b x, (s.forwarders.erase a).lookup b = some x → x.inbound.length ≤ c.inbound := by
  intro b x held
  rw [lookup_erase_eq] at held
  by_cases same : b = a
  · rw [if_pos same] at held
    cases held
  · rw [if_neg same] at held
    exact within.inbound b x held

theorem Within.step {a : Action} (within : Within c s) (moved : step c s a = some t) :
    Within c t := by
  obtain ⟨toClient, toServer, outbound, inbound⟩ := id within
  cases a with
  | visitor u =>
    obtain ⟨-, rfl⟩ := visitor_cases moved
    exact ⟨toClient, toServer, outbound, inbound⟩
  | serverWrite =>
    obtain ⟨u, left, -, room, rfl⟩ := serverWrite_cases moved
    exact ⟨length_append_le _ room, toServer, outbound, inbound⟩
  | serverRead =>
    obtain ⟨cell, rest, filled, -, rfl⟩ := serverRead_cases moved
    exact ⟨toClient, length_le_of_cons filled toServer, outbound, inbound⟩
  | readerRead =>
    obtain ⟨cell, rest, -, filled, rfl | rfl⟩ := readerRead_cases moved
    · exact ⟨length_le_of_cons filled toClient, toServer, outbound, inbound⟩
    · exact ⟨length_le_of_cons filled toClient, toServer, outbound, inbound⟩
  | lookup =>
    obtain ⟨packet, rest, -, -, ⟨-, rfl⟩ | ⟨-, rfl⟩⟩ := lookup_cases moved
    · exact ⟨toClient, toServer, outbound, inbound⟩
    · exact ⟨toClient, toServer, outbound, inbound⟩
  | connected ok =>
    obtain ⟨packet, -, rfl⟩ := connected_cases moved
    exact ⟨toClient, toServer, outbound, inbound⟩
  | insert =>
    obtain ⟨packet, rest, -, -, rfl⟩ := insert_cases moved
    exact ⟨toClient, toServer, outbound, within.insert (Nat.zero_le _)⟩
  | fetch =>
    obtain ⟨packet, guarded, rest, -, -, ⟨-, rfl⟩ | ⟨-, rfl⟩⟩ := fetch_cases moved
    · exact ⟨toClient, toServer, outbound, inbound⟩
    · exact ⟨toClient, toServer, outbound, inbound⟩
  | readerSend =>
    obtain ⟨packet, guarded, -, ⟨-, rfl⟩ | ⟨x, held, room, rfl⟩⟩ := readerSend_cases moved
    · exact ⟨toClient, toServer, outbound, inbound⟩
    · exact ⟨toClient, toServer, outbound, within.insert (length_append_le _ room)⟩
  | service a data =>
    obtain ⟨x, y, held, made, rfl⟩ := onForwarder_cases moved
    obtain ⟨-, rfl⟩ := answer_cases made
    exact ⟨toClient, toServer, outbound, within.insert (inbound a x held)⟩
  | forward a =>
    obtain ⟨x, y, held, made, rfl⟩ := onForwarder_cases moved
    obtain ⟨-, -, rfl⟩ := forward_cases made
    refine ⟨toClient, toServer, outbound, within.insert ?_⟩
    exact Nat.le_trans (List.length_tail ▸ Nat.sub_le _ _) (inbound a x held)
  | expire a =>
    obtain ⟨x, held, -, rfl⟩ := expire_cases moved
    exact ⟨toClient, toServer, outbound, within.insert (inbound a x held)⟩
  | forwarderSend a =>
    obtain ⟨u, queued, held, room, rfl⟩ := forwarderSend_cases moved
    have fits : queued.length ≤ c.inbound := inbound a _ held
    exact ⟨toClient, toServer, length_append_le _ room, within.insert fits⟩
  | unmap a =>
    obtain ⟨rest, -, -, rfl⟩ := unmap_cases moved
    exact ⟨toClient, toServer, outbound, within.erase⟩
  | writerReceive =>
    obtain ⟨u, rest, -, filled, rfl⟩ := writerReceive_cases moved
    exact ⟨toClient, toServer, length_le_of_cons filled outbound, inbound⟩
  | writerWrite =>
    obtain ⟨u, left, -, room, rfl⟩ := writerWrite_cases moved
    exact ⟨toClient, length_append_le _ room, outbound, inbound⟩

end Within

section Queued

/-- In one of the three phases that wait for the lock. -/
def Reader.asks : Reader → Bool
  | .arrived _ | .inserting _ | .fetching .. => true
  | _ => false

def Closing (forwarders : HashMap SocketAddr Forwarder) (a : SocketAddr) : Prop :=
  ∃ x, forwarders.lookup a = some x ∧ x.phase = .closing

/-- The queue of the lock is that of the tasks that wait for it, and the reader, the only one
to insert, still finds no entry when it comes to insert one. -/
structure Queued (s : State) : Prop where
  nodup : s.queue.Nodup
  reader : .reader ∈ s.queue ↔ s.reader.asks = true
  forwarder : ∀ a, .forwarder a ∈ s.queue ↔ Closing s.forwarders a
  absent : ∀ packet, s.reader = .connecting packet ∨ s.reader = .inserting packet →
    s.forwarders.lookup packet.source = none

theorem queued_start : Queued State.start := by
  refine ⟨List.nodup_nil, by simp [State.start, Reader.asks], fun a => ?_, ?_⟩
  · simp [State.start, Closing]
  · rintro packet (here | here) <;> cases here

theorem closing_insert {F : HashMap SocketAddr Forwarder} {a b : SocketAddr} {y : Forwarder} :
    Closing (F.insert a y) b ↔ if b = a then y.phase = .closing else Closing F b := by
  unfold Closing
  rw [lookup_insert_eq]
  split
  · constructor
    · rintro ⟨x, same, closing⟩
      cases same
      exact closing
    · exact fun closing => ⟨y, rfl, closing⟩
  · exact Iff.rfl

theorem closing_erase {F : HashMap SocketAddr Forwarder} {a b : SocketAddr} :
    Closing (F.erase a) b ↔ b ≠ a ∧ Closing F b := by
  unfold Closing
  rw [lookup_erase_eq]
  by_cases same : b = a
  · simp [same]
  · simp [same]

theorem closing_iff {F : HashMap SocketAddr Forwarder} {a : SocketAddr} {x : Forwarder}
    (held : F.lookup a = some x) : Closing F a ↔ x.phase = .closing := by
  constructor
  · rintro ⟨y, found, closing⟩
    cases held.symm.trans found
    exact closing
  · exact fun closing => ⟨x, held, closing⟩

/-- The reader asks for the lock. -/
theorem Queued.asked (queued : Queued s) {r : Reader} (idle : s.reader.asks = false)
    (asks : r.asks = true)
    (absent : ∀ packet, r = .connecting packet ∨ r = .inserting packet →
      s.forwarders.lookup packet.source = none) :
    Queued { s with reader := r, queue := s.queue ++ [.reader] } := by
  have outside : .reader ∉ s.queue := by
    rw [queued.reader, idle]
    exact Bool.false_ne_true
  refine ⟨List.nodup_append.mpr ⟨queued.nodup, List.nodup_singleton _, ?_⟩, ?_, fun a => ?_, absent⟩
  · rintro w member v last rfl
    rw [List.mem_singleton.mp last] at member
    exact outside member
  · simp [asks]
  · simpa using queued.forwarder a

/-- The reader gets the lock. -/
theorem Queued.served (queued : Queued s) {r : Reader} {rest : List Waiter}
    (first : s.queue = .reader :: rest) (idle : r.asks = false)
    (absent : ∀ packet, r = .connecting packet ∨ r = .inserting packet →
      s.forwarders.lookup packet.source = none) :
    Queued { s with reader := r, queue := rest } := by
  obtain ⟨nodup, -, forwarder, -⟩ := queued
  rw [first] at nodup forwarder
  obtain ⟨outside, nodup⟩ := List.nodup_cons.mp nodup
  refine ⟨nodup, ?_, fun a => ?_, absent⟩
  · simp [idle, outside]
  · simpa using forwarder a

/-- The reader gets the lock and asks for it again. -/
theorem Queued.asked_again (queued : Queued s) {r : Reader} {rest : List Waiter}
    (first : s.queue = .reader :: rest) (asks : r.asks = true)
    (absent : ∀ packet, r = .connecting packet ∨ r = .inserting packet →
      s.forwarders.lookup packet.source = none) :
    Queued { s with reader := r, queue := rest ++ [.reader] } := by
  have between : Queued { s with reader := .reading, queue := rest } := by
    refine queued.served first rfl ?_
    rintro packet (here | here) <;> cases here
  exact between.asked rfl asks absent

/-- The entry of a forwarder changes, or a new one is added. -/
theorem Queued.insert (queued : Queued s) {a : SocketAddr} {y : Forwarder}
    (same : y.phase = .closing ↔ Closing s.forwarders a)
    (kept : ∀ packet, s.reader = .connecting packet ∨ s.reader = .inserting packet →
      packet.source ≠ a) :
    Queued { s with forwarders := s.forwarders.insert a y } := by
  refine ⟨queued.nodup, queued.reader, fun b => ?_, fun packet here => ?_⟩
  · rw [queued.forwarder b, closing_insert]
    split
    · next here => rw [here, same]
    · exact Iff.rfl
  · show (s.forwarders.insert a y).lookup packet.source = none
    rw [lookup_insert_eq, if_neg (kept packet here)]
    exact queued.absent packet here

/-- The reader inserts no entry that is there. -/
theorem Queued.kept (queued : Queued s) {a : SocketAddr} {x : Forwarder}
    (held : s.forwarders.lookup a = some x) :
    ∀ packet, s.reader = .connecting packet ∨ s.reader = .inserting packet →
      packet.source ≠ a := by
  rintro packet here rfl
  cases held.symm.trans (queued.absent packet here)

theorem Queued.expire (queued : Queued s) {a : SocketAddr} {x : Forwarder}
    (held : s.forwarders.lookup a = some x) (selecting : x.phase = .selecting) :
    Queued { s with
      forwarders := s.forwarders.insert a { x with phase := .closing }
      queue := s.queue ++ [.forwarder a] } := by
  have outside : .forwarder a ∉ s.queue := by
    rw [queued.forwarder, closing_iff held, selecting]
    rintro ⟨⟩
  refine ⟨List.nodup_append.mpr ⟨queued.nodup, List.nodup_singleton _, ?_⟩, ?_, fun b => ?_,
    fun packet here => ?_⟩
  · rintro w member v last rfl
    rw [List.mem_singleton.mp last] at member
    exact outside member
  · simpa using queued.reader
  · rw [List.mem_append, queued.forwarder, closing_insert]
    by_cases same : b = a
    · simp [same]
    · simp [same]
  · show (s.forwarders.insert a { x with phase := .closing }).lookup packet.source = none
    rw [lookup_insert_eq, if_neg (queued.kept held packet here)]
    exact queued.absent packet here

theorem Queued.unmap (queued : Queued s) {a : SocketAddr} {rest : List Waiter}
    (first : s.queue = .forwarder a :: rest) :
    Queued { s with forwarders := s.forwarders.erase a, queue := rest } := by
  obtain ⟨nodup, reader, forwarder, absent⟩ := queued
  rw [first] at nodup reader forwarder
  obtain ⟨outside, nodup⟩ := List.nodup_cons.mp nodup
  refine ⟨nodup, ?_, fun b => ?_, fun packet here => ?_⟩
  · simpa using reader
  · rw [closing_erase, ← forwarder b, List.mem_cons]
    constructor
    · intro member
      refine ⟨?_, .inr member⟩
      rintro rfl
      exact outside member
    · rintro ⟨other, same | member⟩
      · exact absurd (Waiter.forwarder.inj same) other
      · exact member
  · show (s.forwarders.erase a).lookup packet.source = none
    rw [lookup_erase_eq, absent packet here, ite_self]

theorem Queued.step {a : Action} (queued : Queued s) (moved : step c s a = some t) : Queued t := by
  obtain ⟨nodup, reader, forwarder, absent⟩ := id queued
  cases a with
  | visitor u =>
    obtain ⟨-, rfl⟩ := visitor_cases moved
    exact ⟨nodup, reader, forwarder, absent⟩
  | serverWrite =>
    obtain ⟨u, left, -, -, rfl⟩ := serverWrite_cases moved
    exact ⟨nodup, reader, forwarder, absent⟩
  | serverRead =>
    obtain ⟨cell, rest, -, -, rfl⟩ := serverRead_cases moved
    exact ⟨nodup, reader, forwarder, absent⟩
  | readerRead =>
    obtain ⟨cell, rest, reading, -, rfl | rfl⟩ := readerRead_cases moved
    · have idle : s.reader.asks = false := by rw [reading]; rfl
      have asked : Queued { s with
          reader := .arrived cell.traffic
          queue := s.queue ++ [.reader] } := by
        refine queued.asked idle rfl ?_
        rintro packet (here | here) <;> cases here
      exact ⟨asked.nodup, asked.reader, asked.forwarder, asked.absent⟩
    · exact ⟨nodup, reader, forwarder, absent⟩
  | lookup =>
    obtain ⟨packet, rest, -, first, ⟨none_, rfl⟩ | ⟨-, rfl⟩⟩ := lookup_cases moved
    · refine queued.served first rfl ?_
      rintro packet (here | here) <;> cases here
      exact none_
    · refine queued.asked_again first rfl ?_
      rintro packet (here | here) <;> cases here
  | connected ok =>
    obtain ⟨packet, connecting, rfl⟩ := connected_cases moved
    have idle : s.reader.asks = false := by rw [connecting]; rfl
    cases ok with
    | true =>
      refine queued.asked idle rfl ?_
      rintro packet (here | here) <;> cases here
      exact absent _ (.inl connecting)
    | false =>
      refine queued.asked idle rfl ?_
      rintro packet (here | here) <;> cases here
  | insert =>
    obtain ⟨packet, rest, inserting, first, rfl⟩ := insert_cases moved
    have again : Queued { s with
        reader := .fetching packet false
        queue := rest ++ [.reader] } := by
      refine queued.asked_again first rfl ?_
      rintro packet (here | here) <;> cases here
    refine again.insert ?_ ?_
    · constructor
      · rintro ⟨⟩
      · rintro ⟨x, held, -⟩
        cases held.symm.trans (absent packet (.inr inserting))
    · rintro packet (here | here) <;> cases here
  | fetch =>
    obtain ⟨packet, guarded, rest, -, first, ⟨-, rfl⟩ | ⟨-, rfl⟩⟩ := fetch_cases moved
    · refine queued.served first rfl ?_
      rintro packet (here | here) <;> cases here
    · refine queued.served first rfl ?_
      rintro packet (here | here) <;> cases here
  | readerSend =>
    obtain ⟨packet, guarded, sending, came⟩ := readerSend_cases moved
    have between : Queued { s with reader := .reading } := by
      refine ⟨nodup, ?_, forwarder, ?_⟩
      · rw [sending] at reader
        exact reader
      · rintro packet (here | here) <;> cases here
    rcases came with ⟨-, rfl⟩ | ⟨x, held, -, rfl⟩
    · exact between
    · refine between.insert (closing_iff held).symm ?_
      rintro packet (here | here) <;> cases here
  | service a data =>
    obtain ⟨x, y, held, made, rfl⟩ := onForwarder_cases moved
    obtain ⟨selecting, rfl⟩ := answer_cases made
    refine queued.insert ?_ (queued.kept held)
    simp [closing_iff held, selecting]
  | forward a =>
    obtain ⟨x, y, held, made, rfl⟩ := onForwarder_cases moved
    obtain ⟨-, -, rfl⟩ := forward_cases made
    exact queued.insert (closing_iff held).symm (queued.kept held)
  | expire a =>
    obtain ⟨x, held, selecting, rfl⟩ := expire_cases moved
    exact queued.expire held selecting
  | forwarderSend a =>
    obtain ⟨u, inbound, held, -, rfl⟩ := forwarderSend_cases moved
    have kept : Queued { s with forwarders := s.forwarders.insert a ⟨.selecting, inbound⟩ } := by
      refine queued.insert ?_ (queued.kept held)
      simp [closing_iff held]
    exact ⟨kept.nodup, kept.reader, kept.forwarder, kept.absent⟩
  | unmap a =>
    obtain ⟨rest, first, -, rfl⟩ := unmap_cases moved
    exact queued.unmap first
  | writerReceive =>
    obtain ⟨u, rest, -, -, rfl⟩ := writerReceive_cases moved
    exact ⟨nodup, reader, forwarder, absent⟩
  | writerWrite =>
    obtain ⟨u, left, -, -, rfl⟩ := writerWrite_cases moved
    exact ⟨nodup, reader, forwarder, absent⟩

theorem queued_of_reach {ok : State → Action → Prop} (reached : (system c).Reach ok s) :
    Queued s := by
  apply reached.invariant (I := Queued)
  · rintro s rfl
    exact queued_start
  · exact fun _ _ _ _ moved queued => queued.step moved

end Queued

section Blocked

theorem writer_blocked (blocked : Blocked c s) :
    s.writer = .receiving ∧ s.outbound = [] ∨ s.writerWaits c = true := by
  cases writer : s.writer with
  | receiving =>
    left
    refine ⟨rfl, ?_⟩
    cases outbound : s.outbound with
    | nil => rfl
    | cons t rest =>
      have stuck : s.writerReceive = none := blocked .writerReceive rfl
      rw [State.writerReceive, writer, outbound] at stuck
      cases stuck
  | writing t left =>
    right
    have stuck : s.writerWrite c = none := blocked .writerWrite rfl
    rw [State.writerWrite, writer] at stuck
    by_cases room : s.toServer.length < c.toServer
    · simp only [room, if_true] at stuck
      cases stuck
    · rw [State.writerWaits, writer]
      exact decide_eq_true (Nat.le_of_not_lt room)

theorem server_blocked (blocked : Blocked c s) :
    s.toServer = [] ∨ s.serverWaits c = true := by
  cases server : s.server with
  | selecting | reading =>
    left
    cases toServer : s.toServer with
    | nil => rfl
    | cons cell rest =>
      have stuck : s.serverRead = none := blocked .serverRead rfl
      rw [State.serverRead, server, toServer] at stuck
      cases stuck
  | writing t left =>
    right
    have stuck : s.serverWrite c = none := blocked .serverWrite rfl
    rw [State.serverWrite, server] at stuck
    by_cases room : s.toClient.length < c.toClient
    · simp only [room, if_true] at stuck
      cases stuck
    · rw [State.serverWaits, server]
      exact decide_eq_true (Nat.le_of_not_lt room)

/-- Who is first in the queue gets the lock, unless it is a forwarder and the reader holds its
guard. -/
theorem queue_blocked (queued : Queued s) (blocked : Blocked c s) :
    s.queue = [] ∨ s.reader.guarded = true ∧ ∃ a rest, s.queue = .forwarder a :: rest := by
  cases queue : s.queue with
  | nil => exact .inl rfl
  | cons w rest =>
    right
    cases w with
    | reader =>
      have asks : s.reader.asks = true := queued.reader.mp (queue ▸ List.mem_cons_self)
      cases reader : s.reader with
      | arrived packet =>
        have stuck : s.lookup = none := blocked .lookup rfl
        rw [State.lookup, reader, queue] at stuck
        dsimp only at stuck
        split at stuck <;> cases stuck
      | inserting packet =>
        have stuck : s.insert = none := blocked .insert rfl
        rw [State.insert, reader, queue] at stuck
        cases stuck
      | fetching packet guarded =>
        have stuck : s.fetch = none := blocked .fetch rfl
        rw [State.fetch, reader, queue] at stuck
        cases stuck
      | reading | connecting packet | sending packet guarded =>
        rw [reader] at asks
        cases asks
    | forwarder a =>
      refine ⟨?_, a, rest, rfl⟩
      by_contra unguarded
      have stuck : s.unmap a = none := blocked (.unmap a) rfl
      rw [State.unmap, queue] at stuck
      dsimp only at stuck
      rw [if_pos ⟨rfl, eq_false_of_ne_true unguarded⟩] at stuck
      cases stuck

/-- A reader that asks for the lock and cannot move has its guard already. -/
theorem asks_blocked (queued : Queued s) (blocked : Blocked c s) (asks : s.reader.asks = true) :
    s.reader.guarded = true ∧ ∃ a rest, s.queue = .forwarder a :: rest := by
  refine (queue_blocked queued blocked).resolve_left fun empty => ?_
  have member := queued.reader.mpr asks
  rw [empty] at member
  cases member

theorem reader_blocked (queued : Queued s) (blocked : Blocked c s) :
    s.reader = .reading ∧ s.toClient = [] ∨ (∃ a, s.readerWaits c = some a) ∨ Jam c s := by
  cases reader : s.reader with
  | reading =>
    left
    refine ⟨rfl, ?_⟩
    cases toClient : s.toClient with
    | nil => rfl
    | cons cell rest =>
      have stuck : s.readerRead = none := blocked .readerRead rfl
      rw [State.readerRead, reader, toClient] at stuck
      dsimp only at stuck
      split at stuck <;> cases stuck
  | connecting packet =>
    have stuck : s.connected false = none := blocked (.connected false) rfl
    rw [State.connected, reader] at stuck
    cases stuck
  | arrived packet | inserting packet =>
    have guarded := (asks_blocked queued blocked (by rw [reader]; rfl)).1
    rw [reader] at guarded
    cases guarded
  | fetching packet guarded =>
    obtain ⟨held, a, rest, queue⟩ := asks_blocked queued blocked (by rw [reader]; rfl)
    rw [reader] at held
    cases held
    exact .inr (.inr (.behind packet a rest reader queue))
  | sending packet guarded =>
    right
    left
    have stuck : s.readerSend c = none := blocked .readerSend rfl
    rw [State.readerSend, reader] at stuck
    dsimp only at stuck
    cases held : s.forwarders.lookup packet.source with
    | none =>
      rw [held] at stuck
      cases stuck
    | some x =>
      rw [held] at stuck
      dsimp only at stuck
      by_cases room : x.inbound.length < c.inbound
      · rw [if_pos room] at stuck
        cases stuck
      · refine ⟨packet.source, ?_⟩
        rw [State.readerWaits, reader]
        dsimp only
        rw [held, Option.bind_some, if_pos (Nat.le_of_not_lt room)]

theorem forwarder_blocked (queued : Queued s) (blocked : Blocked c s) {a : SocketAddr}
    {x : Forwarder} (held : s.forwarders.lookup a = some x) :
    x.inbound = [] ∨ x.isSending = true ∧ c.outbound ≤ s.outbound.length ∨
      x.phase = .closing ∧ s.reader.guarded = true := by
  obtain ⟨phase, inbound⟩ := x
  cases phase with
  | selecting =>
    left
    have stuck : s.onForwarder a Forwarder.forward = none := blocked (.forward a) rfl
    rw [State.onForwarder, held, Option.map_eq_none_iff, Option.bind_some] at stuck
    by_contra filled
    rw [Forwarder.forward, if_pos ⟨rfl, filled⟩] at stuck
    cases stuck
  | sending t =>
    right
    left
    have stuck : s.forwarderSend c a = none := blocked (.forwarderSend a) rfl
    rw [State.forwarderSend, held] at stuck
    dsimp only at stuck
    refine ⟨rfl, ?_⟩
    by_contra full
    rw [if_pos (Nat.lt_of_not_le full)] at stuck
    cases stuck
  | closing =>
    right
    right
    have member : .forwarder a ∈ s.queue := (queued.forwarder a).mpr ⟨_, held, rfl⟩
    refine ⟨rfl, ((queue_blocked queued blocked).resolve_left fun empty => ?_).1⟩
    rw [empty] at member
    cases member

/-- Outbound work that is stuck is stuck behind the server. -/
theorem waits_of_outbound (blocked : Blocked c s) (filled : s.outbound ≠ []) :
    s.serverWaits c = true ∧ s.writerWaits c = true := by
  have writer : s.writerWaits c = true :=
    (writer_blocked blocked).resolve_left fun idle => filled idle.2
  obtain ⟨-, -, -, full⟩ := writerWaits_iff.mp writer
  exact ⟨(server_blocked blocked).resolve_left (ne_nil_of_full c.toServer_pos full), writer⟩

/-- Work that no task can move is stuck for good. -/
theorem jam_of_circularWait (queued : Queued s) (wait : CircularWait c s) : Jam c s := by
  obtain ⟨pending, blocked⟩ := wait
  rcases reader_blocked queued blocked with ⟨idle, toClient⟩ | ⟨a, waits⟩ | jam
  · -- the reader is idle, and so is everything else
    exfalso
    have outbound : s.outbound = [] := by
      by_contra filled
      obtain ⟨-, -, -, full⟩ := serverWaits_iff.mp (waits_of_outbound blocked filled).1
      exact ne_nil_of_full c.toClient_pos full toClient
    have toServer : s.toServer = [] := by
      refine (server_blocked blocked).resolve_right fun waits => ?_
      obtain ⟨-, -, -, full⟩ := serverWaits_iff.mp waits
      exact ne_nil_of_full c.toClient_pos full toClient
    have inbound : ∀ a x, s.forwarders.lookup a = some x → x.inbound = [] := by
      intro a x held
      rcases forwarder_blocked queued blocked held with empty | ⟨-, full⟩ | ⟨-, guarded⟩
      · exact empty
      · exact absurd outbound (ne_nil_of_full c.outbound_pos full)
      · rw [idle] at guarded
        cases guarded
    rcases pending with filled | filled | filled | ⟨a, x, held, filled⟩
    · exact filled toClient
    · exact filled toServer
    · exact filled outbound
    · exact filled (inbound a x held)
  · obtain ⟨packet, guarded, x, reader, rfl, held, full⟩ := readerWaits_iff.mp waits
    rcases forwarder_blocked queued blocked held with empty | ⟨sending, outbound⟩ | ⟨closing, held'⟩
    · exact absurd empty (ne_nil_of_full c.inbound_pos full)
    · obtain ⟨server, writer⟩ := waits_of_outbound blocked (ne_nil_of_full c.outbound_pos outbound)
      exact .circle packet.source ⟨server, waits,
        forwarderWaits_iff.mpr ⟨x, held, sending, outbound⟩, writer⟩
    · rw [reader] at held'
      cases held'
      exact .full packet x reader held closing full
  · exact jam

end Blocked

section Stays

/-- The steps of the reader. -/
def Action.isReader : Action → Bool
  | .readerRead | .lookup | .connected _ | .insert | .fetch | .readerSend => true
  | _ => false

/-- A reader in a jam takes no step. -/
theorem Jam.reader_stuck (jam : Jam c s) {a : Action} (own : a.isReader = true) :
    step c s a = none := by
  have sending : ∀ packet guarded x, s.reader = .sending packet guarded →
      s.forwarders.lookup packet.source = some x → c.inbound ≤ x.inbound.length →
      step c s a = none := by
    intro packet guarded x reader held full
    cases a with
    | readerRead => simp only [step, State.readerRead, reader]
    | lookup => simp only [step, State.lookup, reader]
    | connected ok => simp only [step, State.connected, reader]
    | insert => simp only [step, State.insert, reader]
    | fetch => simp only [step, State.fetch, reader]
    | readerSend =>
      simp only [step, State.readerSend, reader, held, if_neg (Nat.not_lt_of_le full)]
    | _ => cases own
  cases jam with
  | circle b circle =>
    obtain ⟨packet, guarded, x, reader, rfl, held, full⟩ := readerWaits_iff.mp circle.reader
    exact sending packet guarded x reader held full
  | full packet x reader held closing full => exact sending packet true x reader held full
  | behind packet b rest reader queue =>
    cases a with
    | readerRead => simp only [step, State.readerRead, reader]
    | lookup => simp only [step, State.lookup, reader]
    | connected ok => simp only [step, State.connected, reader]
    | insert => simp only [step, State.insert, reader]
    | fetch => simp only [step, State.fetch, reader, queue]
    | readerSend => simp only [step, State.readerSend, reader]
    | _ => cases own

/-- The reader of a jam stands still, and what is on its way to it only grows. -/
theorem Jam.reader_stays {a : Action} (jam : Jam c s) (moved : step c s a = some t) :
    t.reader = s.reader ∧ s.toClient.length ≤ t.toClient.length := by
  cases a with
  | readerRead | lookup | connected ok | insert | fetch | readerSend =>
    cases (jam.reader_stuck rfl).symm.trans moved
  | visitor u =>
    obtain ⟨-, rfl⟩ := visitor_cases moved
    exact ⟨rfl, Nat.le_refl _⟩
  | serverWrite =>
    obtain ⟨u, left, -, -, rfl⟩ := serverWrite_cases moved
    refine ⟨rfl, ?_⟩
    rw [List.length_append]
    exact Nat.le_add_right _ _
  | serverRead =>
    obtain ⟨cell, rest, -, -, rfl⟩ := serverRead_cases moved
    exact ⟨rfl, Nat.le_refl _⟩
  | service a _ | forward a =>
    obtain ⟨x, y, -, -, rfl⟩ := onForwarder_cases moved
    exact ⟨rfl, Nat.le_refl _⟩
  | expire a =>
    obtain ⟨x, -, -, rfl⟩ := expire_cases moved
    exact ⟨rfl, Nat.le_refl _⟩
  | forwarderSend a =>
    obtain ⟨u, inbound, -, -, rfl⟩ := forwarderSend_cases moved
    exact ⟨rfl, Nat.le_refl _⟩
  | unmap a =>
    obtain ⟨rest, -, -, rfl⟩ := unmap_cases moved
    exact ⟨rfl, Nat.le_refl _⟩
  | writerReceive =>
    obtain ⟨u, rest, -, -, rfl⟩ := writerReceive_cases moved
    exact ⟨rfl, Nat.le_refl _⟩
  | writerWrite =>
    obtain ⟨u, left, -, -, rfl⟩ := writerWrite_cases moved
    exact ⟨rfl, Nat.le_refl _⟩

theorem circle_stays (queued : Queued s) {a : Action} {b : SocketAddr} (circle : Circle c s b)
    (moved : step c s a = some t) : Circle c t b := by
  obtain ⟨u, left, server, toClient⟩ := serverWaits_iff.mp circle.server
  obtain ⟨x, held, sending, outbound⟩ := forwarderWaits_iff.mp circle.forwarder
  obtain ⟨v, more, writer, toServer⟩ := writerWaits_iff.mp circle.writer
  obtain ⟨busy, open_⟩ := phase_of_isSending sending
  have elsewhere : ∀ {F : HashMap SocketAddr Forwarder} {q : List Waiter},
      F.lookup b = s.forwarders.lookup b → Circle c { s with forwarders := F, queue := q } b :=
    fun {F q} same => Circle.of_forwarders (s := { s with forwarders := F, queue := q })
      (F := s.forwarders) (q := s.queue) circle same.symm
  cases a with
  | visitor w =>
    obtain ⟨selecting, -⟩ := visitor_cases moved
    cases server.symm.trans selecting
  | serverWrite =>
    obtain ⟨w, more, -, room, -⟩ := serverWrite_cases moved
    exact absurd room (Nat.not_lt_of_le toClient)
  | serverRead =>
    obtain ⟨cell, rest, -, idle, -⟩ := serverRead_cases moved
    exact absurd server (idle u left)
  | readerRead | lookup | connected ok | insert | fetch | readerSend =>
    cases ((Jam.circle b circle).reader_stuck rfl).symm.trans moved
  | service a data =>
    obtain ⟨y, z, before, made, rfl⟩ := onForwarder_cases moved
    obtain ⟨selecting, -⟩ := answer_cases made
    apply elsewhere
    rw [lookup_insert_eq, if_neg]
    rintro rfl
    cases held.symm.trans before
    exact busy selecting
  | forward a =>
    obtain ⟨y, z, before, made, rfl⟩ := onForwarder_cases moved
    obtain ⟨selecting, -, -⟩ := forward_cases made
    apply elsewhere
    rw [lookup_insert_eq, if_neg]
    rintro rfl
    cases held.symm.trans before
    exact busy selecting
  | expire a =>
    obtain ⟨y, before, selecting, rfl⟩ := expire_cases moved
    apply elsewhere
    rw [lookup_insert_eq, if_neg]
    rintro rfl
    cases held.symm.trans before
    exact busy selecting
  | forwarderSend a =>
    obtain ⟨w, inbound, -, room, -⟩ := forwarderSend_cases moved
    exact absurd room (Nat.not_lt_of_le outbound)
  | unmap a =>
    obtain ⟨rest, first, -, rfl⟩ := unmap_cases moved
    have closing : Closing s.forwarders a := (queued.forwarder a).mp (first ▸ List.mem_cons_self)
    apply elsewhere
    rw [lookup_erase_eq, if_neg]
    rintro rfl
    exact open_ ((closing_iff held).mp closing)
  | writerReceive =>
    obtain ⟨w, rest, receiving, -, -⟩ := writerReceive_cases moved
    cases writer.symm.trans receiving
  | writerWrite =>
    obtain ⟨w, more, -, room, -⟩ := writerWrite_cases moved
    exact absurd room (Nat.not_lt_of_le toServer)

/-- While the reader stands still with its guard, nobody gets the lock. -/
theorem guarded_step {a : Action} (guarded : s.reader.guarded = true)
    (stuck : ∀ b : Action, b.isReader = true → Udp.step c s b = none)
    (moved : step c s a = some t) :
    (∃ more, t.queue = s.queue ++ more) ∧
      ∀ b x, s.forwarders.lookup b = some x → x.phase = .closing →
        t.forwarders.lookup b = some x := by
  have queue : ∃ more, s.queue = s.queue ++ more := ⟨[], (List.append_nil _).symm⟩
  have other : ∀ {a : SocketAddr} {y z : Forwarder}, s.forwarders.lookup a = some y →
      y.phase ≠ .closing → ∀ b x, s.forwarders.lookup b = some x → x.phase = .closing →
        (s.forwarders.insert a z).lookup b = some x := by
    intro a y z before open_ b x held closing
    rw [lookup_insert_eq, if_neg, held]
    rintro rfl
    cases held.symm.trans before
    exact open_ closing
  cases a with
  | visitor w =>
    obtain ⟨-, rfl⟩ := visitor_cases moved
    exact ⟨queue, fun _ _ held _ => held⟩
  | serverWrite =>
    obtain ⟨w, more, -, -, rfl⟩ := serverWrite_cases moved
    exact ⟨queue, fun _ _ held _ => held⟩
  | serverRead =>
    obtain ⟨cell, rest, -, -, rfl⟩ := serverRead_cases moved
    exact ⟨queue, fun _ _ held _ => held⟩
  | readerRead | lookup | connected ok | insert | fetch | readerSend =>
    cases (stuck _ rfl).symm.trans moved
  | service a data =>
    obtain ⟨y, z, before, made, rfl⟩ := onForwarder_cases moved
    obtain ⟨selecting, -⟩ := answer_cases made
    exact ⟨queue, other before (by rw [selecting]; rintro ⟨⟩)⟩
  | forward a =>
    obtain ⟨y, z, before, made, rfl⟩ := onForwarder_cases moved
    obtain ⟨selecting, -, -⟩ := forward_cases made
    exact ⟨queue, other before (by rw [selecting]; rintro ⟨⟩)⟩
  | expire a =>
    obtain ⟨y, before, selecting, rfl⟩ := expire_cases moved
    exact ⟨⟨_, rfl⟩, other before (by rw [selecting]; rintro ⟨⟩)⟩
  | forwarderSend a =>
    obtain ⟨w, inbound, before, -, rfl⟩ := forwarderSend_cases moved
    exact ⟨queue, other before (by rintro ⟨⟩)⟩
  | unmap a =>
    obtain ⟨rest, -, unguarded, -⟩ := unmap_cases moved
    cases unguarded.symm.trans guarded
  | writerReceive =>
    obtain ⟨w, rest, -, -, rfl⟩ := writerReceive_cases moved
    exact ⟨queue, fun _ _ held _ => held⟩
  | writerWrite =>
    obtain ⟨w, more, -, -, rfl⟩ := writerWrite_cases moved
    exact ⟨queue, fun _ _ held _ => held⟩

/-- No step ends a jam. -/
theorem Jam.step (queued : Queued s) {a : Action} (jam : Jam c s)
    (moved : step c s a = some t) : Jam c t := by
  have stuck : ∀ b : Action, b.isReader = true → Udp.step c s b = none := fun _ => jam.reader_stuck
  obtain ⟨same, -⟩ := jam.reader_stays moved
  cases jam with
  | circle b circle => exact .circle b (circle_stays queued circle moved)
  | behind packet b rest reader queue =>
    obtain ⟨⟨more, longer⟩, -⟩ := guarded_step (by rw [reader]; rfl) stuck moved
    exact .behind packet b (rest ++ more) (same.trans reader)
      (by rw [longer, queue, List.cons_append])
  | full packet x reader held closing full =>
    obtain ⟨-, kept⟩ := guarded_step (by rw [reader]; rfl) stuck moved
    exact .full packet x (same.trans reader) (kept _ x held closing) closing full

end Stays

section Rest

/-- What a table weighs when each of its values has a weight. -/
def total {K V : Type} [DecidableEq K] (weight : V → Nat) (m : HashMap K V) : Nat :=
  ∑ k ∈ m.keys, (m.lookup k).elim 0 weight

theorem total_insert {K V : Type} [DecidableEq K] (weight : V → Nat) {m : HashMap K V} {k : K}
    {v : V} (w : V) (held : m.lookup k = some v) :
    total weight (m.insert k w) + weight v = total weight m + weight w := by
  have member : k ∈ m := Finmap.mem_of_lookup_eq_some held
  have rest : ∑ k' ∈ m.keys.erase k, ((m.insert k w).lookup k').elim 0 weight =
      ∑ k' ∈ m.keys.erase k, (m.lookup k').elim 0 weight := by
    refine Finset.sum_congr rfl fun k' other => ?_
    rw [lookup_insert_eq, if_neg (Finset.ne_of_mem_erase other)]
  have here : k ∈ m.keys := Finmap.mem_keys.mpr member
  rw [total, total, keys_insert_of_mem member, ← Finset.add_sum_erase _ _ here,
    ← Finset.add_sum_erase m.keys (fun k => (m.lookup k).elim 0 weight) here, rest,
    Finmap.lookup_insert, held]
  dsimp only [Option.elim_some]
  omega

theorem total_erase {K V : Type} [DecidableEq K] (weight : V → Nat) {m : HashMap K V} {k : K}
    {v : V} (held : m.lookup k = some v) :
    total weight (m.erase k) + weight v = total weight m := by
  have rest : ∑ k' ∈ m.keys.erase k, ((m.erase k).lookup k').elim 0 weight =
      ∑ k' ∈ m.keys.erase k, (m.lookup k').elim 0 weight := by
    refine Finset.sum_congr rfl fun k' other => ?_
    rw [lookup_erase_eq, if_neg (Finset.ne_of_mem_erase other)]
  have here : k ∈ m.keys := Finmap.mem_keys.mpr (Finmap.mem_of_lookup_eq_some held)
  rw [total, total, Finmap.keys_erase, rest,
    ← Finset.add_sum_erase m.keys (fun k => (m.lookup k).elim 0 weight) here, held]
  dsimp only [Option.elim_some]
  omega

/-- Each byte the server still has to write is a step. -/
def Server.work : Server → Nat
  | .writing _ left => left + 1
  | _ => 0

/-- Each byte the writer still has to write is two: the server reads it. -/
def Writer.work : Writer → Nat
  | .writing _ left => 2 * (left + 1)
  | .receiving => 0

/-- An item of the outbound queue: the writer takes it and writes its frame. -/
def itemWork (t : UdpTraffic) : Nat := 2 * (frameTail t + 1) + 1

def outboundWork : List UdpTraffic → Nat
  | [] => 0
  | t :: rest => itemWork t + outboundWork rest

def Forwarder.work (x : Forwarder) : Nat :=
  x.inbound.length +
    match x.phase with
    | .sending t => itemWork t + 1
    | _ => 0

/-- A bound on the steps that are left while the reader stands still. -/
def State.work (s : State) : Nat :=
  s.server.work + s.toServer.length + s.writer.work + outboundWork s.outbound +
    total Forwarder.work s.forwarders + s.queue.length

theorem work_server_wrote (u : UdpTraffic) (left : Nat) : (Server.wrote u left).work = left := by
  cases left <;> rfl

theorem work_writer_wrote (u : UdpTraffic) (left : Nat) :
    (Writer.wrote u left).work = 2 * left := by
  cases left <;> rfl

theorem outboundWork_append (queue : List UdpTraffic) (t : UdpTraffic) :
    outboundWork (queue ++ [t]) = outboundWork queue + itemWork t := by
  induction queue with
  | nil => exact Nat.add_comm _ _
  | cons u rest ih => rw [List.cons_append, outboundWork, outboundWork, ih, Nat.add_assoc]

theorem work_lt {a : Action} (queued : Queued s) (jam : Jam c s) (internal : a.isInternal = true)
    (moved : step c s a = some t) : t.work < s.work := by
  cases a with
  | visitor u | service a data | expire a => cases internal
  | readerRead | lookup | connected ok | insert | fetch | readerSend =>
    cases (jam.reader_stuck rfl).symm.trans moved
  | serverWrite =>
    obtain ⟨u, left, writing, -, rfl⟩ := serverWrite_cases moved
    have before : s.server.work = left + 1 := by rw [writing]; rfl
    simp only [State.work, work_server_wrote]
    omega
  | serverRead =>
    obtain ⟨cell, rest, filled, -, rfl⟩ := serverRead_cases moved
    have after : (if cell.left = 0 then Server.selecting else .reading).work = 0 := by
      split <;> rfl
    simp only [State.work, after, filled, List.length_cons]
    omega
  | forward a =>
    obtain ⟨x, y, held, made, rfl⟩ := onForwarder_cases moved
    obtain ⟨-, filled, rfl⟩ := forward_cases made
    have lighter : Forwarder.work { x with inbound := x.inbound.tail } < x.work := by
      have some_ := List.length_pos_of_ne_nil filled
      simp only [Forwarder.work, List.length_tail]
      omega
    have sum := total_insert Forwarder.work { x with inbound := x.inbound.tail } held
    simp only [State.work]
    omega
  | forwarderSend a =>
    obtain ⟨u, inbound, held, -, rfl⟩ := forwarderSend_cases moved
    have sum := total_insert Forwarder.work ⟨.selecting, inbound⟩ held
    simp only [Forwarder.work] at sum
    simp only [State.work, outboundWork_append]
    omega
  | unmap a =>
    obtain ⟨rest, first, -, rfl⟩ := unmap_cases moved
    obtain ⟨x, held, -⟩ := (queued.forwarder a).mp (first ▸ List.mem_cons_self)
    have sum := total_erase Forwarder.work held
    simp only [State.work, first, List.length_cons]
    omega
  | writerReceive =>
    obtain ⟨u, rest, receiving, filled, rfl⟩ := writerReceive_cases moved
    have before : s.writer.work = 0 := by rw [receiving]; rfl
    simp only [State.work, Writer.work, outboundWork, itemWork, filled]
    omega
  | writerWrite =>
    obtain ⟨u, left, writing, -, rfl⟩ := writerWrite_cases moved
    have before : s.writer.work = 2 * (left + 1) := by rw [writing]; rfl
    simp only [State.work, work_writer_wrote, List.length_append, List.length_singleton]
    omega

/-- From a jam the tasks come to rest, still in it. -/
theorem rest_of_jam (queued : Queued s) (jam : Jam c s) :
    ∃ as t, (system c).Run Transition.System.Free s as t ∧ Jam c t ∧ Blocked c t ∧
      t.reader = s.reader ∧ s.toClient.length ≤ t.toClient.length := by
  induction work : s.work using Nat.strong_induction_on generalizing s with
  | h n ih =>
    by_cases blocked : Blocked c s
    · exact ⟨[], s, .nil s, jam, blocked, rfl, Nat.le_refl _⟩
    · obtain ⟨a, blocked⟩ := not_forall.mp blocked
      obtain ⟨internal, enabled⟩ := Classical.not_imp.mp blocked
      obtain ⟨t, moved⟩ := Option.ne_none_iff_exists'.mp enabled
      obtain ⟨same, longer⟩ := jam.reader_stays moved
      obtain ⟨as, u, run, still, rest, same', longer'⟩ :=
        ih t.work (work ▸ work_lt queued jam internal moved) (queued.step moved)
          (jam.step queued moved) rfl
      exact ⟨a :: as, u, .cons trivial moved run, still, rest, same'.trans same,
        Nat.le_trans longer longer'⟩

/-- A jam ends in a circular wait. Where the reader waits for the lock, its packet is in no
buffer: something else has to be on its way to it. -/
theorem circularWait_of_jam (queued : Queued s) (jam : Jam c s)
    (filled : s.toClient ≠ [] ∨ ∀ packet, s.reader ≠ .fetching packet true) :
    ∃ as t, (system c).Run Transition.System.Free s as t ∧ CircularWait c t ∧
      t.reader = s.reader := by
  obtain ⟨as, t, run, still, blocked, same, longer⟩ := rest_of_jam queued jam
  refine ⟨as, t, run, ⟨?_, blocked⟩, same⟩
  cases still with
  | circle a circle =>
    obtain ⟨-, -, -, full⟩ := serverWaits_iff.mp circle.server
    exact .inl (ne_nil_of_full c.toClient_pos full)
  | full packet x reader held closing full =>
    exact .inr (.inr (.inr ⟨packet.source, x, held, ne_nil_of_full c.inbound_pos full⟩))
  | behind packet a rest reader queue =>
    rcases filled with filled | other
    · refine .inl (List.ne_nil_of_length_pos (Nat.lt_of_lt_of_le ?_ longer))
      exact List.length_pos_of_ne_nil filled
    · exact absurd (same.symm.trans reader) (other packet)

end Rest

end Rathole.Udp
