import Rathole.UdpJam

set_option autoImplicit false

/- When the tasks of a UDP data channel come to wait for each other. -/
namespace Rathole.Udp

variable {c : Capacity} {s t : State}

/-- The step makes its task wait for room, where the other three of server, reader, forwarder
and writer wait already. -/
def fills (c : Capacity) (s : State) : Action → Bool
  | .visitor _ =>
    decide (c.toClient ≤ s.toClient.length) && s.writerWaits c &&
      (s.readerWaits c).any (s.forwarderWaits c)
  | .serverWrite =>
    match s.server with
    | .writing _ (_ + 1) =>
      decide (c.toClient ≤ s.toClient.length + 1) && s.writerWaits c &&
        (s.readerWaits c).any (s.forwarderWaits c)
    | _ => false
  | .fetch =>
    match s.reader with
    | .fetching packet _ =>
      (s.forwarders.lookup packet.source).any (fun x => decide (c.inbound ≤ x.inbound.length)) &&
        s.forwarderWaits c packet.source && s.serverWaits c && s.writerWaits c
    | _ => false
  | .service a _ =>
    decide (c.outbound ≤ s.outbound.length) && decide (s.readerWaits c = some a) &&
      s.serverWaits c && s.writerWaits c
  | .forwarderSend a =>
    -- another forwarder is the one that waits
    decide (c.outbound ≤ s.outbound.length + 1) && s.serverWaits c && s.writerWaits c &&
      (s.readerWaits c).any fun b =>
        decide (b ≠ a) && (s.forwarders.lookup b).any Forwarder.isSending
  | .writerWrite =>
    match s.writer with
    | .writing _ (_ + 1) =>
      decide (c.toServer ≤ s.toServer.length + 1) && s.serverWaits c &&
        (s.readerWaits c).any (s.forwarderWaits c)
    | _ => false
  | _ => false

/-- The reader, which keeps its guard, and a forwarder in `port_map.write()` come to wait for each
other: the reader asks for the lock behind it, or for room in its full queue, or the forwarder
leaves its loop while the reader waits for that room. -/
def locks (c : Capacity) (s : State) : Action → Bool
  | .lookup =>
    match s.reader with
    | .arrived packet =>
      (s.forwarders.lookup packet.source).isSome && decide (s.queue.tail ≠ [])
    | _ => false
  | .fetch =>
    match s.reader with
    | .fetching packet true =>
      (s.forwarders.lookup packet.source).any fun x =>
        decide (x.phase = .closing ∧ c.inbound ≤ x.inbound.length)
    | _ => false
  | .expire a => s.reader.guarded && decide (s.readerWaits c = some a)
  | _ => false

def KeepsOpen (c : Capacity) (s : State) (a : Action) : Prop :=
  fills c s a = false ∧ locks c s a = false

section Fills

theorem fills_visitor {u : UdpTraffic} {b : SocketAddr} (moved : s.visitor u = some t)
    (circle : Circle c t b) : fills c s (.visitor u) = true := by
  obtain ⟨-, rfl⟩ := visitor_cases moved
  obtain ⟨-, -, -, full⟩ := serverWaits_iff.mp circle.server
  simp only [fills, Bool.and_eq_true, decide_eq_true_eq, Option.any_eq_true]
  exact ⟨⟨full, circle.writer⟩, b, circle.reader, circle.forwarder⟩

theorem fills_serverWrite {b : SocketAddr} (moved : s.serverWrite c = some t)
    (circle : Circle c t b) : fills c s .serverWrite = true := by
  obtain ⟨u, left, writing, -, rfl⟩ := serverWrite_cases moved
  obtain ⟨v, more, still, full⟩ := serverWaits_iff.mp circle.server
  cases left with
  | zero => cases still
  | succ left =>
    rw [List.length_append] at full
    simp only [fills, writing, Bool.and_eq_true, decide_eq_true_eq, Option.any_eq_true]
    exact ⟨⟨full, circle.writer⟩, b, circle.reader, circle.forwarder⟩

theorem fills_writerWrite {b : SocketAddr} (moved : s.writerWrite c = some t)
    (circle : Circle c t b) : fills c s .writerWrite = true := by
  obtain ⟨u, left, writing, -, rfl⟩ := writerWrite_cases moved
  obtain ⟨v, more, still, full⟩ := writerWaits_iff.mp circle.writer
  cases left with
  | zero => cases still
  | succ left =>
    rw [List.length_append] at full
    simp only [fills, writing, Bool.and_eq_true, decide_eq_true_eq, Option.any_eq_true]
    exact ⟨⟨full, circle.server⟩, b, circle.reader, circle.forwarder⟩

theorem fills_fetch {b : SocketAddr} (moved : s.fetch = some t) (circle : Circle c t b) :
    fills c s .fetch = true := by
  obtain ⟨packet, guarded, rest, fetching, -, ⟨-, rfl⟩ | ⟨-, rfl⟩⟩ := fetch_cases moved
  · obtain ⟨packet', guarded', x, ⟨⟩, rfl, held, full⟩ := readerWaits_iff.mp circle.reader
    simp only [fills, fetching, Bool.and_eq_true, Option.any_eq_true, decide_eq_true_eq]
    exact ⟨⟨⟨⟨x, held, full⟩, circle.forwarder⟩, circle.server⟩, circle.writer⟩
  · obtain ⟨packet', guarded', x, ⟨⟩, -⟩ := readerWaits_iff.mp circle.reader

theorem fills_service {a b : SocketAddr} {data : List UInt8}
    (moved : s.onForwarder a (Forwarder.answer a data) = some t) (circle : Circle c t b) :
    Circle c s b ∨ fills c s (.service a data) = true := by
  obtain ⟨x, y, before, made, rfl⟩ := onForwarder_cases moved
  obtain ⟨-, rfl⟩ := answer_cases made
  by_cases same : b = a
  · right
    subst same
    obtain ⟨packet, guarded, z, reader, named, held, full⟩ := readerWaits_iff.mp circle.reader
    obtain ⟨-, -, -, outbound⟩ := forwarderWaits_iff.mp circle.forwarder
    rw [lookup_insert_eq, if_pos rfl] at held
    cases held
    have waits : s.readerWaits c = some b :=
      readerWaits_iff.mpr ⟨packet, guarded, x, reader, named, before, full⟩
    simp only [fills, Bool.and_eq_true, decide_eq_true_eq]
    exact ⟨⟨⟨outbound, waits⟩, circle.server⟩, circle.writer⟩
  · exact .inl (circle.of_forwarders (by rw [lookup_insert_eq, if_neg same]))

theorem fills_forwarderSend {a b : SocketAddr} (moved : s.forwarderSend c a = some t)
    (circle : Circle c t b) : fills c s (.forwarderSend a) = true := by
  obtain ⟨u, inbound, before, -, rfl⟩ := forwarderSend_cases moved
  obtain ⟨packet, guarded, x, reader, named, held, full⟩ := readerWaits_iff.mp circle.reader
  obtain ⟨y, kept, sending, outbound⟩ := forwarderWaits_iff.mp circle.forwarder
  rw [List.length_append] at outbound
  rw [lookup_insert_eq] at held kept
  have apart : b ≠ a := by
    intro same
    rw [if_pos same] at kept
    cases kept
    cases sending
  rw [if_neg apart] at held kept
  have waits : s.readerWaits c = some b :=
    readerWaits_iff.mpr ⟨packet, guarded, x, reader, named, held, full⟩
  simp only [fills, Bool.and_eq_true, decide_eq_true_eq, Option.any_eq_true]
  exact ⟨⟨⟨outbound, circle.server⟩, circle.writer⟩, b, waits, apart, y, kept, sending⟩

/-- A circle was there before the step, or the step filled the last of its buffers. -/
theorem circle_step {a : Action} {b : SocketAddr} (within : Within c s)
    (moved : step c s a = some t) (circle : Circle c t b) :
    Circle c s b ∨ fills c s a = true := by
  cases a with
  | visitor u => exact .inr (fills_visitor moved circle)
  | serverWrite => exact .inr (fills_serverWrite moved circle)
  | writerWrite => exact .inr (fills_writerWrite moved circle)
  | fetch => exact .inr (fills_fetch moved circle)
  | service a data => exact fills_service moved circle
  | forwarderSend a => exact .inr (fills_forwarderSend moved circle)
  | serverRead =>
    -- the server is not writing
    obtain ⟨cell, rest, -, -, rfl⟩ := serverRead_cases moved
    obtain ⟨u, left, writing, -⟩ := serverWaits_iff.mp circle.server
    dsimp only at writing
    split at writing <;> cases writing
  | readerRead =>
    -- nor is the reader sending, here and below
    obtain ⟨packet, guarded, x, sending, -⟩ := readerWaits_iff.mp circle.reader
    obtain ⟨cell, rest, reading, -, rfl | rfl⟩ := readerRead_cases moved
    · cases sending
    · cases reading.symm.trans sending
  | lookup =>
    obtain ⟨packet, guarded, x, sending, -⟩ := readerWaits_iff.mp circle.reader
    obtain ⟨packet', rest, -, -, ⟨-, rfl⟩ | ⟨-, rfl⟩⟩ := lookup_cases moved
    · cases sending
    · cases sending
  | connected ok =>
    obtain ⟨packet, guarded, x, sending, -⟩ := readerWaits_iff.mp circle.reader
    obtain ⟨packet', -, rfl⟩ := connected_cases moved
    cases ok <;> cases sending
  | insert =>
    obtain ⟨packet, guarded, x, sending, -⟩ := readerWaits_iff.mp circle.reader
    obtain ⟨packet', rest, -, -, rfl⟩ := insert_cases moved
    cases sending
  | readerSend =>
    obtain ⟨packet, guarded, x, sending, -⟩ := readerWaits_iff.mp circle.reader
    obtain ⟨packet', guarded', -, ⟨-, rfl⟩ | ⟨y, -, -, rfl⟩⟩ := readerSend_cases moved
    · cases sending
    · cases sending
  | forward a =>
    obtain ⟨x, y, before, made, rfl⟩ := onForwarder_cases moved
    obtain ⟨selecting, -, rfl⟩ := forward_cases made
    by_cases same : b = a
    · subst same
      obtain ⟨z, held, sending, -⟩ := forwarderWaits_iff.mp circle.forwarder
      rw [Finmap.lookup_insert] at held
      cases held
      exact absurd selecting (phase_of_isSending sending).1
    · exact .inl (circle.of_forwarders (by rw [lookup_insert_eq, if_neg same]))
  | expire a =>
    obtain ⟨x, before, selecting, rfl⟩ := expire_cases moved
    by_cases same : b = a
    · subst same
      obtain ⟨z, held, sending, -⟩ := forwarderWaits_iff.mp circle.forwarder
      rw [Finmap.lookup_insert] at held
      cases held
      cases sending
    · exact .inl (circle.of_forwarders (by rw [lookup_insert_eq, if_neg same]))
  | unmap a =>
    obtain ⟨rest, -, -, rfl⟩ := unmap_cases moved
    by_cases same : b = a
    · subst same
      obtain ⟨z, held, -⟩ := forwarderWaits_iff.mp circle.forwarder
      rw [Finmap.lookup_erase] at held
      cases held
    · exact .inl (circle.of_forwarders (by rw [lookup_erase_eq, if_neg same]))
  | writerReceive =>
    -- there is room in the outbound queue again
    obtain ⟨-, -, -, full⟩ := forwarderWaits_iff.mp circle.forwarder
    obtain ⟨u, rest, -, filled, rfl⟩ := writerReceive_cases moved
    have bound := within.outbound
    rw [filled, List.length_cons] at bound
    exact absurd (Nat.le_trans bound full) (Nat.not_succ_le_self _)

end Fills

section Locks

/-- A reader that waits for the lock with its guard waited before the step, or has just come to
wait behind a forwarder. -/
theorem behind_step {a : Action} {packet : UdpTraffic} {b : SocketAddr} {rest : List Waiter}
    (queued : Queued s) (moved : step c s a = some t) (reader : t.reader = .fetching packet true)
    (queue : t.queue = .forwarder b :: rest) : Jam c s ∨ locks c s a = true := by
  cases a with
  | visitor u =>
    obtain ⟨-, rfl⟩ := visitor_cases moved
    exact .inl (.behind packet b rest reader queue)
  | serverWrite =>
    obtain ⟨u, left, -, -, rfl⟩ := serverWrite_cases moved
    exact .inl (.behind packet b rest reader queue)
  | serverRead =>
    obtain ⟨cell, left, -, -, rfl⟩ := serverRead_cases moved
    exact .inl (.behind packet b rest reader queue)
  | readerRead =>
    obtain ⟨cell, left, reading, -, rfl | rfl⟩ := readerRead_cases moved
    · cases reader
    · cases reading.symm.trans reader
  | lookup =>
    obtain ⟨packet', after, arrived, first, ⟨-, rfl⟩ | ⟨held, rfl⟩⟩ := lookup_cases moved
    · cases reader
    · right
      simp only [locks, arrived, first, List.tail_cons, Bool.and_eq_true, decide_eq_true_eq]
      refine ⟨held, ?_⟩
      rintro rfl
      cases queue
  | connected ok =>
    obtain ⟨packet', -, rfl⟩ := connected_cases moved
    cases ok <;> cases reader
  | insert =>
    obtain ⟨packet', after, -, -, rfl⟩ := insert_cases moved
    cases reader
  | fetch =>
    obtain ⟨packet', guarded, after, -, -, ⟨-, rfl⟩ | ⟨-, rfl⟩⟩ := fetch_cases moved
    · cases reader
    · cases reader
  | readerSend =>
    obtain ⟨packet', guarded, -, ⟨-, rfl⟩ | ⟨x, -, -, rfl⟩⟩ := readerSend_cases moved
    · cases reader
    · cases reader
  | service a _ | forward a =>
    obtain ⟨x, y, -, -, rfl⟩ := onForwarder_cases moved
    exact .inl (.behind packet b rest reader queue)
  | expire a =>
    obtain ⟨x, -, -, rfl⟩ := expire_cases moved
    have asks : s.reader.asks = true := by rw [show s.reader = _ from reader]; rfl
    have member : .reader ∈ s.queue := queued.reader.mpr asks
    obtain ⟨w, after, filled⟩ := List.exists_cons_of_ne_nil (List.ne_nil_of_mem member)
    dsimp only at queue
    rw [filled, List.cons_append] at queue
    obtain ⟨rfl, -⟩ := List.cons.inj queue
    exact .inl (.behind packet b after reader filled)
  | forwarderSend a =>
    obtain ⟨u, inbound, -, -, rfl⟩ := forwarderSend_cases moved
    exact .inl (.behind packet b rest reader queue)
  | unmap a =>
    obtain ⟨after, -, unguarded, rfl⟩ := unmap_cases moved
    rw [show s.reader = _ from reader] at unguarded
    cases unguarded
  | writerReceive =>
    obtain ⟨u, left, -, -, rfl⟩ := writerReceive_cases moved
    exact .inl (.behind packet b rest reader queue)
  | writerWrite =>
    obtain ⟨u, left, -, -, rfl⟩ := writerWrite_cases moved
    exact .inl (.behind packet b rest reader queue)

/-- The same for a reader that waits for room at a forwarder that waits for the lock. -/
theorem full_step {a : Action} {packet : UdpTraffic} {x : Forwarder}
    (moved : step c s a = some t) (reader : t.reader = .sending packet true)
    (held : t.forwarders.lookup packet.source = some x) (closing : x.phase = .closing)
    (full : c.inbound ≤ x.inbound.length) : Jam c s ∨ locks c s a = true := by
  have elsewhere : ∀ {a : SocketAddr} {y : Forwarder}, s.reader = .sending packet true →
      y.phase ≠ .closing → (s.forwarders.insert a y).lookup packet.source = some x → Jam c s := by
    intro a y reader open_ held
    rw [lookup_insert_eq] at held
    by_cases same : packet.source = a
    · rw [if_pos same] at held
      cases held
      exact absurd closing open_
    · rw [if_neg same] at held
      exact .full packet x reader held closing full
  cases a with
  | visitor u =>
    obtain ⟨-, rfl⟩ := visitor_cases moved
    exact .inl (.full packet x reader held closing full)
  | serverWrite =>
    obtain ⟨u, left, -, -, rfl⟩ := serverWrite_cases moved
    exact .inl (.full packet x reader held closing full)
  | serverRead =>
    obtain ⟨cell, left, -, -, rfl⟩ := serverRead_cases moved
    exact .inl (.full packet x reader held closing full)
  | readerRead =>
    obtain ⟨cell, left, reading, -, rfl | rfl⟩ := readerRead_cases moved
    · cases reader
    · cases reading.symm.trans reader
  | lookup =>
    obtain ⟨packet', after, -, -, ⟨-, rfl⟩ | ⟨-, rfl⟩⟩ := lookup_cases moved
    · cases reader
    · cases reader
  | connected ok =>
    obtain ⟨packet', -, rfl⟩ := connected_cases moved
    cases ok <;> cases reader
  | insert =>
    obtain ⟨packet', after, -, -, rfl⟩ := insert_cases moved
    cases reader
  | fetch =>
    obtain ⟨packet', guarded, after, fetching, -, ⟨-, rfl⟩ | ⟨-, rfl⟩⟩ := fetch_cases moved
    · cases reader
      right
      simp only [locks, fetching, Option.any_eq_true, decide_eq_true_eq]
      exact ⟨x, held, closing, full⟩
    · cases reader
  | readerSend =>
    obtain ⟨packet', guarded, -, ⟨-, rfl⟩ | ⟨y, -, -, rfl⟩⟩ := readerSend_cases moved
    · cases reader
    · cases reader
  | service a data =>
    obtain ⟨y, z, -, made, rfl⟩ := onForwarder_cases moved
    obtain ⟨-, rfl⟩ := answer_cases made
    exact .inl (elsewhere reader (by rintro ⟨⟩) held)
  | forward a =>
    obtain ⟨y, z, -, made, rfl⟩ := onForwarder_cases moved
    obtain ⟨selecting, -, rfl⟩ := forward_cases made
    exact .inl (elsewhere reader (by rw [selecting]; rintro ⟨⟩) held)
  | expire a =>
    obtain ⟨y, before, -, rfl⟩ := expire_cases moved
    dsimp only at held
    rw [lookup_insert_eq] at held
    by_cases same : packet.source = a
    · rw [if_pos same] at held
      cases held
      right
      have waits : s.readerWaits c = some a :=
        readerWaits_iff.mpr ⟨packet, true, y, reader, same, before, full⟩
      have guarded : s.reader.guarded = true := by rw [show s.reader = _ from reader]; rfl
      simp only [locks, guarded, waits, decide_true, Bool.and_self]
    · rw [if_neg same] at held
      exact .inl (.full packet x reader held closing full)
  | forwarderSend a =>
    obtain ⟨u, inbound, -, -, rfl⟩ := forwarderSend_cases moved
    exact .inl (elsewhere reader (by rintro ⟨⟩) held)
  | unmap a =>
    obtain ⟨after, -, unguarded, rfl⟩ := unmap_cases moved
    rw [show s.reader = _ from reader] at unguarded
    cases unguarded
  | writerReceive =>
    obtain ⟨u, left, -, -, rfl⟩ := writerReceive_cases moved
    exact .inl (.full packet x reader held closing full)
  | writerWrite =>
    obtain ⟨u, left, -, -, rfl⟩ := writerWrite_cases moved
    exact .inl (.full packet x reader held closing full)

end Locks

theorem jam_step {a : Action} (within : Within c s) (queued : Queued s)
    (moved : step c s a = some t) (jam : Jam c t) :
    Jam c s ∨ fills c s a = true ∨ locks c s a = true := by
  cases jam with
  | circle b circle =>
    rcases circle_step within moved circle with before | filled
    · exact .inl (.circle b before)
    · exact .inr (.inl filled)
  | behind packet b rest reader queue =>
    rcases behind_step queued moved reader queue with before | locked
    · exact .inl before
    · exact .inr (.inr locked)
  | full packet x reader held closing full =>
    rcases full_step moved reader held closing full with before | locked
    · exact .inl before
    · exact .inr (.inr locked)

theorem not_jam_start : ¬ Jam c State.start := by
  rintro (⟨a, circle⟩ | ⟨packet, a, rest, reader, -⟩ | ⟨packet, x, reader, -⟩)
  · cases circle.server
  · cases reader
  · cases reader

/-- In every run in which no task fills the last of four buffers and the reader waits for no
forwarder that its guard keeps waiting, pending work is never stuck. -/
theorem no_circularWait_of_keeps_open (reached : (system c).Reach (KeepsOpen c) s) :
    ¬ CircularWait c s := by
  have sound : Within c s ∧ ¬ Jam c s := by
    refine reached.invariant_with (I := fun s => Within c s ∧ ¬ Jam c s)
      (fun s reached => queued_of_reach reached) ?_ ?_
    · rintro s rfl
      exact ⟨within_start, not_jam_start⟩
    · rintro s a t queued - ⟨fits, free⟩ moved ⟨within, none_⟩
      refine ⟨within.step moved, fun jam => ?_⟩
      rcases jam_step within queued moved jam with before | filled | locked
      · exact none_ before
      · cases fits.symm.trans filled
      · cases free.symm.trans locked
  exact fun wait => sound.2 (jam_of_circularWait (queued_of_reach reached) wait)

section Converse

theorem jam_of_fills {a : Action} (moved : step c s a = some t) (filled : fills c s a = true) :
    Jam c t := by
  cases a with
  | visitor u =>
    obtain ⟨-, rfl⟩ := visitor_cases moved
    simp only [fills, Bool.and_eq_true, decide_eq_true_eq, Option.any_eq_true] at filled
    obtain ⟨⟨full, writer⟩, b, reader, forwarder⟩ := filled
    exact .circle b ⟨serverWaits_iff.mpr ⟨u, _, rfl, full⟩, reader, forwarder, writer⟩
  | serverWrite =>
    obtain ⟨u, left, writing, -, rfl⟩ := serverWrite_cases moved
    cases left with
    | zero =>
      simp only [fills, writing] at filled
      cases filled
    | succ left =>
      simp only [fills, writing, Bool.and_eq_true, decide_eq_true_eq, Option.any_eq_true] at filled
      obtain ⟨⟨full, writer⟩, b, reader, forwarder⟩ := filled
      have full' : c.toClient ≤ (s.toClient ++ [(⟨u, left + 1⟩ : Cell)]).length := by
        rw [List.length_append]
        exact full
      exact .circle b ⟨serverWaits_iff.mpr ⟨u, left, rfl, full'⟩, reader, forwarder, writer⟩
  | writerWrite =>
    obtain ⟨u, left, writing, -, rfl⟩ := writerWrite_cases moved
    cases left with
    | zero =>
      simp only [fills, writing] at filled
      cases filled
    | succ left =>
      simp only [fills, writing, Bool.and_eq_true, decide_eq_true_eq, Option.any_eq_true] at filled
      obtain ⟨⟨full, server⟩, b, reader, forwarder⟩ := filled
      have full' : c.toServer ≤ (s.toServer ++ [(⟨u, left + 1⟩ : Cell)]).length := by
        rw [List.length_append]
        exact full
      exact .circle b ⟨server, reader, forwarder, writerWaits_iff.mpr ⟨u, left, rfl, full'⟩⟩
  | fetch =>
    obtain ⟨packet, guarded, rest, fetching, -, came⟩ := fetch_cases moved
    simp only [fills, fetching, Bool.and_eq_true, Option.any_eq_true, decide_eq_true_eq] at filled
    obtain ⟨⟨⟨⟨x, held, full⟩, forwarder⟩, server⟩, writer⟩ := filled
    obtain ⟨-, rfl⟩ := came.resolve_right fun absent => by cases absent.1.symm.trans held
    exact .circle packet.source ⟨server,
      readerWaits_iff.mpr ⟨packet, guarded, x, rfl, rfl, held, full⟩, forwarder, writer⟩
  | service a data =>
    obtain ⟨x, y, before, made, rfl⟩ := onForwarder_cases moved
    obtain ⟨-, rfl⟩ := answer_cases made
    simp only [fills, Bool.and_eq_true, decide_eq_true_eq] at filled
    obtain ⟨⟨⟨outbound, waits⟩, server⟩, writer⟩ := filled
    obtain ⟨packet, guarded, z, reader, named, held, full⟩ := readerWaits_iff.mp waits
    cases before.symm.trans held
    exact .circle a ⟨server,
      readerWaits_iff.mpr ⟨packet, guarded, _, reader, named, Finmap.lookup_insert _, full⟩,
      forwarderWaits_iff.mpr ⟨_, Finmap.lookup_insert _, rfl, outbound⟩, writer⟩
  | forwarderSend a =>
    obtain ⟨u, inbound, before, -, rfl⟩ := forwarderSend_cases moved
    simp only [fills, Bool.and_eq_true, decide_eq_true_eq, Option.any_eq_true] at filled
    obtain ⟨⟨⟨outbound, server⟩, writer⟩, b, waits, apart, y, kept, sending⟩ := filled
    obtain ⟨packet, guarded, x, reader, named, held, full⟩ := readerWaits_iff.mp waits
    have same : (s.forwarders.insert a ⟨.selecting, inbound⟩).lookup b = s.forwarders.lookup b := by
      rw [lookup_insert_eq, if_neg apart]
    have outbound' : c.outbound ≤ (s.outbound ++ [u]).length := by
      rw [List.length_append]
      exact outbound
    exact .circle b ⟨server,
      readerWaits_iff.mpr ⟨packet, guarded, x, reader, named, same.trans held, full⟩,
      forwarderWaits_iff.mpr ⟨y, same.trans kept, sending, outbound'⟩, writer⟩
  | _ => cases filled

theorem jam_of_locks {a : Action} (queued : Queued s) (moved : step c s a = some t)
    (locked : locks c s a = true) : Jam c t := by
  cases a with
  | lookup =>
    obtain ⟨packet, rest, arrived, first, came⟩ := lookup_cases moved
    simp only [locks, arrived, first, List.tail_cons, Bool.and_eq_true, decide_eq_true_eq] at locked
    obtain ⟨held, behind⟩ := locked
    obtain ⟨-, rfl⟩ := came.resolve_left fun absent => by rw [absent.1] at held; cases held
    have nodup := queued.nodup
    rw [first] at nodup
    cases rest with
    | nil => exact absurd rfl behind
    | cons w rest =>
      cases w with
      | reader => exact absurd List.mem_cons_self (List.nodup_cons.mp nodup).1
      | forwarder b => exact .behind packet b (rest ++ [.reader]) rfl rfl
  | fetch =>
    obtain ⟨packet, guarded, rest, fetching, -, came⟩ := fetch_cases moved
    cases guarded with
    | false =>
      simp only [locks, fetching] at locked
      cases locked
    | true =>
      simp only [locks, fetching, Option.any_eq_true, decide_eq_true_eq] at locked
      obtain ⟨x, held, closing, full⟩ := locked
      obtain ⟨-, rfl⟩ := came.resolve_right fun absent => by cases absent.1.symm.trans held
      exact .full packet x rfl held closing full
  | expire a =>
    obtain ⟨x, held, selecting, rfl⟩ := expire_cases moved
    simp only [locks, Bool.and_eq_true, decide_eq_true_eq] at locked
    obtain ⟨guarded, waits⟩ := locked
    obtain ⟨packet, held', y, reader, rfl, before, full⟩ := readerWaits_iff.mp waits
    rw [reader] at guarded
    cases guarded
    cases held.symm.trans before
    exact .full packet _ reader (Finmap.lookup_insert _) rfl full
  | _ => cases locked

/-- A step outside the condition ends the work of the reader for good. -/
theorem jam_of_breaks {a : Action} (queued : Queued s) (moved : step c s a = some t)
    (breaks : ¬ KeepsOpen c s a) : Jam c t := by
  rcases not_and_or.mp breaks with filled | locked
  · exact jam_of_fills moved (eq_true_of_ne_false filled)
  · exact jam_of_locks queued moved (eq_true_of_ne_false locked)

/-- It ends in a circular wait. -/
theorem circularWait_of_breaks {a : Action} (queued : Queued s) (moved : step c s a = some t)
    (breaks : ¬ KeepsOpen c s a)
    (filled : t.toClient ≠ [] ∨ ∀ packet, t.reader ≠ .fetching packet true) :
    ∃ as u, (system c).Run Transition.System.Free t as u ∧ CircularWait c u ∧
      u.reader = t.reader :=
  circularWait_of_jam (queued.step moved) (jam_of_breaks queued moved breaks) filled

end Converse

/-- The smallest buffers. -/
def unitCapacity : Capacity := ⟨1, 1, 1, 1, by decide, by decide, by decide, by decide⟩

/-- An empty datagram of one visitor, from the server to the reader. -/
def toReader (a : SocketAddr) : List Action :=
  .visitor ⟨a, []⟩ :: (List.replicate 13 [.serverWrite, .readerRead]).flatten

/-- The first datagram of a visitor, to its new forwarder. -/
def firstPacket (a : SocketAddr) : List Action :=
  toReader a ++ [.lookup, .connected true, .insert, .fetch, .readerSend]

/-- Two datagrams there and an answer on its way back. -/
theorem no_circularWait_one_answer : ∃ s : State, (system unitCapacity).Reach
    (KeepsOpen unitCapacity) s ∧ s.toServer ≠ [] ∧ ¬ CircularWait unitCapacity s := by
  let a : SocketAddr := .v4 1 0
  have checked : ∀ (s : State) (a : Action),
      (!fills unitCapacity s a && !locks unitCapacity s a) = true → KeepsOpen unitCapacity s a :=
    fun s a passed => by simpa [KeepsOpen] using passed
  obtain ⟨s, reached, filled⟩ := Transition.System.exists_reach (m := system unitCapacity) rfl
    (firstPacket a ++ [.forward a] ++ toReader a ++ [.lookup, .fetch, .readerSend, .forward a,
      .service a [7], .forwarderSend a, .writerReceive, .writerWrite])
    (fun s => s.toServer ≠ []) (fun s a => !fills unitCapacity s a && !locks unitCapacity s a)
    checked (by decide +kernel)
  exact ⟨s, reached, of_decide_eq_true filled, no_circularWait_of_keeps_open reached⟩

/-- The server writes while the client writes: every buffer is full. -/
theorem circularWait_all_full :
    ¬ ∀ (c : Capacity) (s : State), (system c).Reachable s → ¬ CircularWait c s := by
  intro free
  let a : SocketAddr := .v4 1 0
  obtain ⟨s, reached, filled⟩ := Transition.System.exists_reachable (m := system unitCapacity) rfl
    (firstPacket a ++ toReader a ++
      [.lookup, .fetch, .service a [], .forwarderSend a, .writerReceive, .writerWrite,
        .service a [], .forwarderSend a, .service a [], .visitor ⟨a, []⟩])
    (fun s => fills unitCapacity s .serverWrite && (step unitCapacity s .serverWrite).any fun t =>
      t.toClient ≠ [])
    (by decide +kernel)
  obtain ⟨filled, enabled⟩ := Bool.and_eq_true_iff.mp filled
  obtain ⟨t, moved, coming⟩ := (Option.any_eq_true _ _).mp enabled
  have breaks : ¬ KeepsOpen unitCapacity s .serverWrite := fun keeps => by
    cases keeps.1.symm.trans filled
  obtain ⟨as, u, run, wait, -⟩ := circularWait_of_breaks (queued_of_reach reached) moved breaks
    (.inl (of_decide_eq_true coming))
  have next : (system unitCapacity).Reachable t := reached.next (a := .serverWrite) trivial moved
  exact free unitCapacity u (next.run run) wait

/-- No queue but the stream to the client is full: the forwarder of `b` times out while the
reader, which has a packet for `a`, waits to look it up. -/
theorem circularWait_behind_lock : ∃ s : State, (system unitCapacity).Reachable s ∧
    CircularWait unitCapacity s ∧ ∀ a, ¬ Circle unitCapacity s a := by
  let a : SocketAddr := .v4 1 0
  let b : SocketAddr := .v4 2 0
  obtain ⟨s, reached, held⟩ := Transition.System.exists_reachable (m := system unitCapacity) rfl
    (firstPacket a ++ [.forward a] ++ firstPacket b ++ [.forward b] ++ toReader a ++
      [.expire b, .visitor ⟨a, []⟩, .serverWrite])
    (fun s => locks unitCapacity s .lookup && (step unitCapacity s .lookup).any fun t =>
      t.toClient ≠ [] ∧ t.reader = .fetching ⟨a, []⟩ true)
    (by decide +kernel)
  obtain ⟨locked, enabled⟩ := Bool.and_eq_true_iff.mp held
  obtain ⟨t, moved, after⟩ := (Option.any_eq_true _ _).mp enabled
  obtain ⟨coming, fetching⟩ := of_decide_eq_true after
  have breaks : ¬ KeepsOpen unitCapacity s .lookup := fun keeps => by
    cases keeps.2.symm.trans locked
  obtain ⟨as, u, run, wait, same⟩ := circularWait_of_breaks (queued_of_reach reached) moved breaks
    (.inl coming)
  have next : (system unitCapacity).Reachable t := reached.next (a := .lookup) trivial moved
  refine ⟨u, next.run run, wait, fun d circle => ?_⟩
  obtain ⟨packet, guarded, x, sending, -⟩ := readerWaits_iff.mp circle.reader
  cases (same.trans fetching).symm.trans sending

end Rathole.Udp
