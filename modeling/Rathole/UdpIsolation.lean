import Rathole.UdpClient

set_option autoImplicit false

/- A visitor's datagrams go through the forwarder its entry in the port map belongs to, and
through no other. -/
namespace Rathole.UdpClient

open Udp (UdpTraffic udpBufferSize)

/-- A forwarder for `a` was spawned, and has not removed its entry. -/
def Live (s : State) (i : Nat) (a : SocketAddr) : Prop :=
  ∃ x, s.forwarders.lookup i = some x ∧ x.source = a ∧ x.phase ≠ .ended

/-- The datagrams of one visitor. -/
def dataOf (a : SocketAddr) (packets : List UdpTraffic) : List (List UInt8) :=
  (packets.filter fun packet => packet.source = a).map UdpTraffic.data

/-- The datagrams that came from the socket of one forwarder. -/
def answersOf (i : Nat) (items : List Outbound) : List (List UInt8) :=
  (items.filter fun item => item.forwarder = i).map fun item => item.traffic.data

/-- The packet in the hand of the reader. -/
def Reader.packet : Reader → Option UdpTraffic
  | .arrived packet | .connecting packet | .inserting packet | .fetching packet _
  | .sending packet _ _ => some packet
  | .reading | .ended => none

/-- The packets of the turns before. -/
def State.before (s : State) : List UdpTraffic :=
  if s.reader.packet = none then s.packets else s.packets.dropLast

/-- The item in the hand of the writer. -/
def Writer.item : Writer → List Outbound
  | .writing item => [item]
  | _ => []

/-- The outbound packets, in the order they are written. -/
def State.items (s : State) : List Outbound := s.written ++ s.writer.item ++ s.outbound

/-- The datagram that waits for room in the outbound queue. -/
def Forwarder.pending (x : Forwarder) : List (List UInt8) :=
  match x.phase with
  | .sending t => [t.data]
  | _ => []

/-- What the socket hears, as far as the buffer takes it. -/
def Forwarder.taken (x : Forwarder) : List (List UInt8) := x.heard.map (List.take udpBufferSize)

def Phase.isEnded : Phase → Bool
  | .ended => true
  | _ => false

/-- The visitor of a forwarder, and whether it has ended. -/
def State.owner (s : State) (i : Nat) : Option (SocketAddr × Bool) :=
  (s.forwarders.lookup i).map fun x => (x.source, x.phase.isEnded)

/-- The entries of the port map belong to the forwarders that are still to remove them. -/
structure Owned (s : State) : Prop where
  entry : ∀ a i, s.portMap.lookup a = some i ↔ s.owner i = some (a, false)
  fresh : ∀ i, s.spawned ≤ i → s.owner i = none
  vacant : ∀ packet, s.reader = .connecting packet ∨ s.reader = .inserting packet →
    s.portMap.lookup packet.source = none
  target : ∀ packet i guarded, s.reader = .sending packet i guarded →
    ∃ ended, s.owner i = some (packet.source, ended)

/-- Datagrams of a visitor reach the local socket in the order they were read. -/
structure Ordered (s : State) : Prop where
  hand : ∀ packet ∈ s.reader.packet, s.packets = s.before ++ [packet]
  order : ∀ i x, s.forwarders.lookup i = some x →
    (x.delivered ++ x.inbound).Sublist (dataOf x.source s.before)

/-- Outbound packets carry the address of the forwarder that heard them. -/
structure Tagged (s : State) : Prop where
  source : ∀ item ∈ s.items, ∃ ended, s.owner item.forwarder = some (item.traffic.source, ended)
  sending : ∀ i x t, s.forwarders.lookup i = some x → x.phase = .sending t → t.source = x.source
  heard : ∀ i x, s.forwarders.lookup i = some x →
    (answersOf i s.items ++ x.pending).Sublist x.taken

structure Sound (s : State) : Prop where
  owned : Owned s
  ordered : Ordered s
  tagged : Tagged s

section Lists

variable {a : SocketAddr} {packets more : List UdpTraffic} {packet : UdpTraffic}

theorem dataOf_append : dataOf a (packets ++ more) = dataOf a packets ++ dataOf a more := by
  simp [dataOf]

theorem dataOf_self : dataOf packet.source [packet] = [packet.data] := by
  simp [dataOf]

theorem answersOf_append {i : Nat} {items others : List Outbound} :
    answersOf i (items ++ others) = answersOf i items ++ answersOf i others := by
  simp [answersOf]

theorem sublist_answersOf {i : Nat} {items others : List Outbound} (less : items.Sublist others) :
    (answersOf i items).Sublist (answersOf i others) :=
  (less.filter _).map _

/-- A turn of the reader leaves the packets read before it alone. -/
theorem sublist_before {s : State} : s.before.Sublist s.packets := by
  unfold State.before
  split
  · exact List.Sublist.refl _
  · exact List.dropLast_sublist _

end Lists

section Owners

variable {s t : State}

theorem live_iff {i : Nat} {a : SocketAddr} : Live s i a ↔ s.owner i = some (a, false) := by
  unfold Live State.owner
  cases found : s.forwarders.lookup i with
  | none => simp
  | some x =>
    cases phase : x.phase <;> simp [phase, Phase.isEnded]

theorem owner_insert {forwarders : HashMap Nat Forwarder} {i : Nat} {x : Forwarder}
    (inserted : t.forwarders = forwarders.insert i x) (j : Nat) :
    t.owner j = if j = i then some (x.source, x.phase.isEnded) else
      (forwarders.lookup j).map fun x => (x.source, x.phase.isEnded) := by
  rw [State.owner, inserted, lookup_insert_eq]
  split <;> rfl

theorem owner_of_lookup {i : Nat} {x : Forwarder} (found : s.forwarders.lookup i = some x) :
    s.owner i = some (x.source, x.phase.isEnded) := by
  rw [State.owner, found, Option.map_some]

theorem owner_update {i : Nat} {x y : Forwarder} (found : s.forwarders.lookup i = some x)
    (forwarders : t.forwarders = s.forwarders.insert i y) (source : y.source = x.source)
    (ended : y.phase.isEnded = x.phase.isEnded) (j : Nat) : t.owner j = s.owner j := by
  rw [owner_insert forwarders j]
  split
  · next same => rw [same, owner_of_lookup found, source, ended]
  · rfl

/-- A step that leaves the owners and the port map alone. -/
theorem Owned.keep (owned : Owned s) (owner : ∀ i, t.owner i = s.owner i)
    (portMap : t.portMap = s.portMap) (spawned : t.spawned = s.spawned)
    (vacant : ∀ packet, t.reader = .connecting packet ∨ t.reader = .inserting packet →
      s.portMap.lookup packet.source = none)
    (target : ∀ packet i guarded, t.reader = .sending packet i guarded →
      ∃ ended, s.owner i = some (packet.source, ended)) : Owned t := by
  refine ⟨fun a i => ?_, fun i unused => ?_, ?_, ?_⟩
  · rw [portMap, owner]
    exact owned.entry a i
  · rw [owner]
    exact owned.fresh i (spawned ▸ unused)
  · rw [portMap]
    exact vacant
  · intro packet i guarded sending
    rw [owner]
    exact target packet i guarded sending

/-- The reader's turn is where it was. -/
theorem Owned.same (owned : Owned s) (owner : ∀ i, t.owner i = s.owner i)
    (portMap : t.portMap = s.portMap) (spawned : t.spawned = s.spawned)
    (reader : t.reader = s.reader) : Owned t :=
  owned.keep owner portMap spawned (by rw [reader]; exact owned.vacant)
    (by rw [reader]; exact owned.target)

end Owners

/-- A step of a forwarder before it ends. -/
structure Forwarder.Keeps (x y : Forwarder) : Prop where
  source : y.source = x.source
  ended : y.phase.isEnded = x.phase.isEnded
  inbound : (y.delivered ++ y.inbound).Sublist (x.delivered ++ x.inbound)
  sending : ∀ u, y.phase = .sending u → u.source = y.source
  heard : ∀ l, (l ++ x.pending).Sublist x.taken → (l ++ y.pending).Sublist y.taken

section Parts

variable {s t : State}

theorem before_same (packets : t.packets = s.packets) (packet : t.reader.packet = s.reader.packet) :
    t.before = s.before := by
  rw [State.before, State.before, packets, packet]

theorem Ordered.keep (ordered : Ordered s)
    (hand : ∀ packet ∈ t.reader.packet, t.packets = t.before ++ [packet])
    (before : s.before.Sublist t.before)
    (less : ∀ i y, t.forwarders.lookup i = some y → ∃ x, s.forwarders.lookup i = some x ∧
      y.source = x.source ∧ (y.delivered ++ y.inbound).Sublist (x.delivered ++ x.inbound)) :
    Ordered t := by
  refine ⟨hand, fun i y found => ?_⟩
  obtain ⟨x, held, source, sublist⟩ := less i y found
  rw [source]
  exact (sublist.trans (ordered.order i x held)).trans ((before.filter _).map _)

theorem Ordered.same (ordered : Ordered s) (forwarders : t.forwarders = s.forwarders)
    (hand : ∀ packet ∈ t.reader.packet, t.packets = t.before ++ [packet])
    (before : s.before.Sublist t.before) : Ordered t :=
  ordered.keep hand before fun _ y found =>
    ⟨y, forwarders ▸ found, rfl, List.Sublist.refl _⟩

/-- The reader goes on with the packet in its hand. -/
theorem Ordered.hold (ordered : Ordered s) (packets : t.packets = s.packets)
    (packet : t.reader.packet = s.reader.packet)
    (less : ∀ i y, t.forwarders.lookup i = some y → ∃ x, s.forwarders.lookup i = some x ∧
      y.source = x.source ∧ (y.delivered ++ y.inbound).Sublist (x.delivered ++ x.inbound)) :
    Ordered t := by
  have before := before_same packets packet
  refine ordered.keep (fun p held => ?_) (before ▸ List.Sublist.refl _) less
  rw [packets, before]
  exact ordered.hand p (packet ▸ held)

theorem Tagged.keep (tagged : Tagged s) (owner : ∀ i, t.owner i = s.owner i)
    (items : t.items.Sublist s.items)
    (sending : ∀ i y u, t.forwarders.lookup i = some y → y.phase = .sending u → u.source = y.source)
    (heard : ∀ i y, t.forwarders.lookup i = some y → ∃ x, s.forwarders.lookup i = some x ∧
      ∀ l, (l ++ x.pending).Sublist x.taken → (l ++ y.pending).Sublist y.taken) : Tagged t := by
  refine ⟨fun item member => ?_, sending, fun i y found => ?_⟩
  · rw [owner]
    exact tagged.source item (items.subset member)
  · obtain ⟨x, held, grows⟩ := heard i y found
    refine grows _ (List.Sublist.trans ?_ (tagged.heard i x held))
    exact (sublist_answersOf items).append (List.Sublist.refl _)

theorem Tagged.same (tagged : Tagged s) (forwarders : t.forwarders = s.forwarders)
    (items : t.items.Sublist s.items) : Tagged t := by
  refine tagged.keep (fun i => ?_) items ?_ fun i y found => ⟨y, forwarders ▸ found, fun _ => id⟩
  · rw [State.owner, forwarders, State.owner]
  · rw [forwarders]
    exact tagged.sending

/-- A step of the reader alone. -/
theorem Sound.turn (sound : Sound s) {reader : Reader} {packets : List UdpTraffic}
    (vacant : ∀ packet, reader = .connecting packet ∨ reader = .inserting packet →
      s.portMap.lookup packet.source = none)
    (target : ∀ packet i guarded, reader = .sending packet i guarded →
      ∃ ended, s.owner i = some (packet.source, ended))
    (hand : ∀ packet ∈ reader.packet,
      packets = State.before { s with reader := reader, packets := packets } ++ [packet])
    (before : s.before.Sublist (State.before { s with reader := reader, packets := packets })) :
    Sound { s with reader := reader, packets := packets } :=
  ⟨sound.owned.keep (fun _ => rfl) rfl rfl vacant target,
    sound.ordered.same rfl hand before, sound.tagged.same rfl (List.Sublist.refl _)⟩

/-- The reader goes on with its packet. -/
theorem Sound.proceed (sound : Sound s) {reader : Reader} (packet : reader.packet = s.reader.packet)
    (vacant : ∀ packet, reader = .connecting packet ∨ reader = .inserting packet →
      s.portMap.lookup packet.source = none)
    (target : ∀ packet i guarded, reader = .sending packet i guarded →
      ∃ ended, s.owner i = some (packet.source, ended)) : Sound { s with reader := reader } := by
  have before : State.before { s with reader := reader } = s.before := before_same rfl packet
  refine sound.turn vacant target (fun p held => ?_) (before ▸ List.Sublist.refl _)
  rw [before]
  exact sound.ordered.hand p (packet ▸ held)

/-- The reader is through with its packet. -/
theorem Sound.finish (sound : Sound s) : Sound { s with reader := .reading } :=
  sound.turn (by simp) (by simp) (by simp [Reader.packet]) sublist_before

theorem lookup_update {forwarders : HashMap Nat Forwarder} {i j : Nat} {y z : Forwarder}
    (inserted : t.forwarders = forwarders.insert i y) (found : t.forwarders.lookup j = some z) :
    (j = i ∧ z = y) ∨ forwarders.lookup j = some z := by
  rw [inserted, lookup_insert_eq] at found
  split at found
  · next same => exact .inl ⟨same, (Option.some.inj found).symm⟩
  · exact .inr found

/-- A forwarder goes on, and its visitor's datagrams stay in their order. -/
theorem Sound.update (sound : Sound s) {i : Nat} {x y : Forwarder}
    (found : s.forwarders.lookup i = some x) (forwarders : t.forwarders = s.forwarders.insert i y)
    (keeps : x.Keeps y) (reader : t.reader = s.reader) (packets : t.packets = s.packets)
    (portMap : t.portMap = s.portMap) (spawned : t.spawned = s.spawned)
    (items : t.items = s.items) : Sound t := by
  have owner := owner_update found forwarders keeps.source keeps.ended
  refine ⟨sound.owned.same owner portMap spawned reader,
    sound.ordered.hold packets (by rw [reader]) fun j z there => ?_,
    sound.tagged.keep owner (items ▸ List.Sublist.refl _) (fun j z u there => ?_)
      fun j z there => ?_⟩
  · rcases lookup_update forwarders there with ⟨rfl, rfl⟩ | held
    · exact ⟨x, found, keeps.source, keeps.inbound⟩
    · exact ⟨z, held, rfl, List.Sublist.refl _⟩
  · rcases lookup_update forwarders there with ⟨rfl, rfl⟩ | held
    · exact keeps.sending u
    · exact sound.tagged.sending j z u held
  · rcases lookup_update forwarders there with ⟨rfl, rfl⟩ | held
    · exact ⟨x, found, keeps.heard⟩
    · exact ⟨z, held, fun _ => id⟩

end Parts

section Forwarders

variable {x y : Forwarder}

/-- A forwarder at its `select!` has no datagram for the server in hand. -/
theorem pending_of_selecting (selecting : x.phase = .selecting) : x.pending = [] := by
  rw [Forwarder.pending, selecting]

theorem keeps_forward (moved : x.forward = some y) : x.Keeps y := by
  unfold Forwarder.forward at moved
  split at moved
  · next data rest selecting queue =>
    cases moved
    refine ⟨rfl, rfl, ?_, by simp [selecting], fun _ => id⟩
    simp [queue]
  · cases moved

theorem keeps_drop (moved : x.drop = some y) : x.Keeps y := by
  unfold Forwarder.drop at moved
  split at moved
  · next data rest selecting queue =>
    cases moved
    refine ⟨rfl, by simp [selecting, Phase.isEnded], ?_, by simp, fun l heard => ?_⟩
    · simp [queue]
    · rwa [pending_of_selecting selecting] at heard
  · cases moved

theorem keeps_close (moved : x.close = some y) : x.Keeps y := by
  obtain ⟨selecting, ⟨⟩⟩ := Option.ite_none_right_eq_some.mp moved
  refine ⟨rfl, by simp [selecting, Phase.isEnded], List.Sublist.refl _, by simp, fun l heard => ?_⟩
  rwa [pending_of_selecting selecting] at heard

theorem keeps_answer {data : List UInt8} (moved : x.answer data = some y) : x.Keeps y := by
  obtain ⟨selecting, ⟨⟩⟩ := Option.ite_none_right_eq_some.mp moved
  refine ⟨rfl, by simp [selecting, Phase.isEnded], List.Sublist.refl _, ?_, fun l heard => ?_⟩
  · rintro u ⟨⟩
    rfl
  · rw [pending_of_selecting selecting, List.append_nil] at heard
    simpa [Forwarder.taken, Forwarder.pending] using heard

end Forwarders

section Steps

variable {s t : State}

theorem Sound.onForwarder (sound : Sound s) {i : Nat} {f : Forwarder → Option Forwarder}
    (keeps : ∀ x y, f x = some y → x.Keeps y) (moved : s.onForwarder i f = some t) : Sound t := by
  obtain ⟨y, made, rfl⟩ := Option.map_eq_some_iff.mp moved
  obtain ⟨x, found, made⟩ := Option.bind_eq_some_iff.mp made
  exact sound.update found rfl (keeps x y made) rfl rfl rfl rfl rfl

theorem Sound.leave (sound : Sound s) {i : Nat} {f : Forwarder → Option Forwarder}
    (keeps : ∀ x y, f x = some y → x.Keeps y) (moved : s.leave i f = some t) : Sound t := by
  obtain ⟨u, left, rfl⟩ := Option.map_eq_some_iff.mp moved
  obtain ⟨y, bound, rfl⟩ := Option.map_eq_some_iff.mp left
  obtain ⟨x, found, made⟩ := Option.bind_eq_some_iff.mp bound
  exact sound.update found rfl (keeps x y made) rfl rfl rfl rfl rfl

theorem Sound.receive (sound : Sound s) {packet : UdpTraffic} (moved : s.receive packet = some t) :
    Sound t := by
  obtain ⟨reading, ⟨⟩⟩ := Option.ite_none_right_eq_some.mp moved
  have before : s.before = s.packets := by simp [State.before, reading, Reader.packet]
  have after : State.before { s with
      reader := .arrived packet, packets := s.packets ++ [packet] } = s.packets := by
    simp [State.before, Reader.packet]
  refine sound.turn (by simp) (by simp) (fun p held => ?_) ?_
  · rw [after]
    simpa [Reader.packet] using held
  · rw [before, after]

theorem Sound.lookup (sound : Sound s) (moved : s.lookup = some t) : Sound t := by
  unfold State.lookup at moved
  split at moved
  · next packet arrived =>
    split at moved
    · next vacant =>
      cases moved
      refine sound.proceed (by rw [arrived]; rfl) ?_ (by simp)
      rintro p (same | same)
      · cases same
        exact Option.isNone_iff_eq_none.mp vacant
      · cases same
    · cases moved
      exact sound.proceed (by rw [arrived]; rfl) (by simp) (by simp)
  · cases moved

theorem Sound.connect (sound : Sound s) {ok : Bool} (moved : s.connect ok = some t) : Sound t := by
  unfold State.connect at moved
  split at moved
  · next packet connecting =>
    cases moved
    have vacant := sound.owned.vacant packet (.inl connecting)
    cases ok with
    | true =>
      refine sound.proceed (by rw [connecting]; rfl) ?_ (by simp)
      rintro p (same | same)
      · cases same
      · cases same
        exact vacant
    | false => exact sound.proceed (by rw [connecting]; rfl) (by simp) (by simp)
  · cases moved

/-- The sender that is cloned belongs to a forwarder for the visitor of the packet. -/
theorem Sound.fetch (sound : Sound s) (moved : s.fetch = some t) : Sound t := by
  unfold State.fetch at moved
  split at moved
  · next packet guarded fetching =>
    obtain ⟨-, moved⟩ := Option.ite_none_left_eq_some.mp moved
    split at moved
    · next i entry =>
      cases moved
      refine sound.proceed (by rw [fetching]; rfl) (by simp) ?_
      rintro p j g ⟨⟩
      exact ⟨false, (sound.owned.entry _ _).mp entry⟩
    · cases moved
      exact sound.finish
  · cases moved

/-- The packet joins the queue of its visitor's forwarder as the last one. -/
theorem Sound.send (sound : Sound s) (moved : s.send = some t) : Sound t := by
  unfold State.send at moved
  split at moved
  · next packet i guarded sending =>
    split at moved
    · next x found =>
      split at moved
      · cases moved
        exact sound.finish
      · obtain ⟨-, ⟨⟩⟩ := Option.ite_none_right_eq_some.mp moved
        obtain ⟨ended, owner⟩ := sound.owned.target packet i guarded sending
        rw [owner_of_lookup found, Option.some.injEq, Prod.mk.injEq] at owner
        have packets := sound.ordered.hand packet (by simp [sending, Reader.packet])
        have queued := sound.ordered.order i x found
        have owners := fun j => owner_update (s := s) (t := { s with
          reader := .reading
          forwarders := s.forwarders.insert i { x with inbound := x.inbound ++ [packet.data] } })
          found rfl rfl rfl j
        refine ⟨sound.owned.keep owners rfl rfl (by simp) (by simp), ⟨?_, fun j z there => ?_⟩,
          sound.tagged.keep owners (List.Sublist.refl _) (fun j z u there => ?_)
            fun j z there => ?_⟩
        · simp [Reader.packet]
        · show (z.delivered ++ z.inbound).Sublist (dataOf z.source s.packets)
          rcases lookup_update rfl there with ⟨rfl, rfl⟩ | held
          · rw [packets, dataOf_append, ← List.append_assoc]
            refine queued.append ?_
            rw [owner.1, dataOf_self]
          · exact (sound.ordered.order j z held).trans ((sublist_before.filter _).map _)
        · rcases lookup_update rfl there with ⟨rfl, rfl⟩ | held
          · exact sound.tagged.sending j x u found
          · exact sound.tagged.sending j z u held
        · rcases lookup_update rfl there with ⟨rfl, rfl⟩ | held
          · exact ⟨x, found, fun _ => id⟩
          · exact ⟨z, held, fun _ => id⟩
    · cases moved
      exact sound.finish
  · cases moved

/-- The reader is the only one to insert, so the address has no entry until it does. -/
theorem Owned.insert (owned : Owned s) {packet : UdpTraffic}
    (inserting : s.reader = .inserting packet)
    (reader : ∀ p, t.reader ≠ .connecting p ∧ t.reader ≠ .inserting p)
    (fetching : ∀ p i g, t.reader ≠ .sending p i g)
    (portMap : t.portMap = s.portMap.insert packet.source s.spawned)
    (forwarders : t.forwarders =
      s.forwarders.insert s.spawned ⟨packet.source, .selecting, [], [], []⟩)
    (spawned : t.spawned = s.spawned + 1) : Owned t := by
  have vacant := owned.vacant packet (.inr inserting)
  have unused := owned.fresh s.spawned le_rfl
  have owner : ∀ i, t.owner i =
      if i = s.spawned then some (packet.source, false) else s.owner i := owner_insert forwarders
  refine ⟨fun a i => ?_, fun i unspawned => ?_, fun p stands => ?_, fun p i g sending => ?_⟩
  · rw [portMap, lookup_insert_eq, owner]
    by_cases address : a = packet.source <;> by_cases index : i = s.spawned
    · simp [address, index]
    · -- the address had no entry, and so no other forwarder is for it
      have other : s.owner i ≠ some (packet.source, false) := by
        rw [Ne, ← owned.entry, vacant]
        simp
      simp [address, index, other, Ne.symm index]
    · have other : s.portMap.lookup a ≠ some s.spawned := by
        rw [Ne, owned.entry, unused]
        simp
      simp [address, index, other, Ne.symm address]
    · simp [address, index, owned.entry]
  · rw [owner, if_neg (by omega)]
    exact owned.fresh i (by omega)
  · rcases stands with connecting | inserting
    · exact absurd connecting (reader p).1
    · exact absurd inserting (reader p).2
  · exact absurd sending (fetching p i g)

theorem Sound.insert (sound : Sound s) (moved : s.insert = some t) : Sound t := by
  unfold State.insert at moved
  split at moved
  · next packet inserting =>
    cases moved
    have unused : ∀ i x, s.forwarders.lookup i = some x → i ≠ s.spawned := by
      rintro i x found rfl
      have fresh := sound.owned.fresh s.spawned le_rfl
      rw [owner_of_lookup found] at fresh
      cases fresh
    have owned : Owned { s with
        reader := .fetching packet false
        portMap := s.portMap.insert packet.source s.spawned
        forwarders := s.forwarders.insert s.spawned ⟨packet.source, .selecting, [], [], []⟩
        spawned := s.spawned + 1 } :=
      sound.owned.insert inserting (by simp) (by simp) rfl rfl rfl
    have before : s.before = State.before { s with
        reader := .fetching packet false
        portMap := s.portMap.insert packet.source s.spawned
        forwarders := s.forwarders.insert s.spawned ⟨packet.source, .selecting, [], [], []⟩
        spawned := s.spawned + 1 } := before_same rfl (by rw [inserting]; rfl)
    have none_heard : answersOf s.spawned s.items = [] := by
      rw [answersOf, List.map_eq_nil_iff, List.filter_eq_nil_iff]
      intro item member same
      obtain ⟨ended, owner⟩ := sound.tagged.source item member
      have fresh := sound.owned.fresh s.spawned le_rfl
      rw [← of_decide_eq_true same, owner] at fresh
      cases fresh
    refine ⟨owned, ⟨fun p held => ?_, fun i x found => ?_⟩, ⟨fun item member => ?_,
      fun i x u found => ?_, fun i x found => ?_⟩⟩
    · rw [← before]
      exact sound.ordered.hand p (by rw [inserting]; exact held)
    · rw [← before]
      rcases lookup_update rfl found with ⟨-, rfl⟩ | held
      · exact List.nil_sublist _
      · exact sound.ordered.order i x held
    · obtain ⟨ended, owner⟩ := sound.tagged.source item member
      refine ⟨ended, ?_⟩
      obtain ⟨x, found, same⟩ := Option.map_eq_some_iff.mp owner
      rw [owner_insert rfl, if_neg (unused _ x found), found, Option.map_some, same]
    · rcases lookup_update rfl found with ⟨-, rfl⟩ | held
      · simp
      · exact sound.tagged.sending i x u held
    · rcases lookup_update rfl found with ⟨rfl, rfl⟩ | held
      · show (answersOf s.spawned s.items ++ []).Sublist []
        rw [none_heard]
        exact List.Sublist.refl _
      · exact sound.tagged.heard i x held
  · cases moved

/-- The entry that is removed is the forwarder's own. -/
theorem Owned.remove (owned : Owned s) {i : Nat} {x y : Forwarder}
    (found : s.forwarders.lookup i = some x) (live : x.phase.isEnded = false)
    (forwarders : t.forwarders = s.forwarders.insert i y) (source : y.source = x.source)
    (ended : y.phase.isEnded = true) (portMap : t.portMap = s.portMap.erase x.source)
    (spawned : t.spawned = s.spawned) (reader : t.reader = s.reader) : Owned t := by
  have own : s.owner i = some (x.source, false) := live ▸ owner_of_lookup found
  have entry := (owned.entry x.source i).mpr own
  have owner : ∀ j, t.owner j = if j = i then some (x.source, true) else s.owner j := by
    intro j
    rw [owner_insert forwarders, source, ended]
    rfl
  refine ⟨fun a j => ?_, fun j unspawned => ?_, fun p stands => ?_, fun p j g sending => ?_⟩
  · rw [portMap, lookup_erase_eq, owner]
    by_cases address : a = x.source <;> by_cases index : j = i
    · simp [address, index]
    · have other : s.owner j ≠ some (x.source, false) := by
        rw [Ne, ← owned.entry, entry]
        simpa using Ne.symm index
      simp [address, index, other]
    · have other : s.portMap.lookup a ≠ some i := by
        rw [Ne, owned.entry, own]
        simpa using Ne.symm address
      simp [address, index, other]
    · simp [address, index, owned.entry]
  · have other : j ≠ i := by
      rintro rfl
      rw [owned.fresh j (spawned ▸ unspawned)] at own
      cases own
    rw [owner, if_neg other]
    exact owned.fresh j (spawned ▸ unspawned)
  · rw [portMap, lookup_erase_eq]
    split
    · rfl
    · exact owned.vacant p (reader ▸ stands)
  · obtain ⟨past, target⟩ := owned.target p j g (reader ▸ sending)
    rw [owner]
    split
    · next same =>
      rw [same, own, Option.some.injEq, Prod.mk.injEq] at target
      exact ⟨true, by rw [target.1]⟩
    · exact ⟨past, target⟩

theorem Sound.remove (sound : Sound s) {i : Nat} (moved : s.remove i = some t) : Sound t := by
  unfold State.remove at moved
  split at moved
  · next x found =>
    obtain ⟨⟨closing, -⟩, ⟨⟩⟩ := Option.ite_none_right_eq_some.mp moved
    have live : x.phase.isEnded = false := by
      rw [closing]
      rfl
    refine ⟨sound.owned.remove found live rfl rfl rfl rfl rfl rfl,
      sound.ordered.hold rfl rfl fun j z there => ?_, ⟨fun item member => ?_, fun j z u there => ?_,
        fun j z there => ?_⟩⟩
    · rcases lookup_update rfl there with ⟨rfl, rfl⟩ | held
      · refine ⟨x, found, rfl, ?_⟩
        simp
      · exact ⟨z, held, rfl, List.Sublist.refl _⟩
    · obtain ⟨ended, owner⟩ := sound.tagged.source item member
      rw [owner_insert rfl]
      split
      · next same =>
        rw [same, owner_of_lookup found, Option.some.injEq, Prod.mk.injEq] at owner
        exact ⟨true, by rw [← owner.1]; rfl⟩
      · exact ⟨ended, owner⟩
    · rcases lookup_update rfl there with ⟨rfl, rfl⟩ | held
      · simp
      · exact sound.tagged.sending j z u held
    · rcases lookup_update rfl there with ⟨rfl, rfl⟩ | held
      · have heard := sound.tagged.heard j x found
        rw [Forwarder.pending, closing] at heard
        exact heard
      · exact sound.tagged.heard j z held
  · cases moved

/-- The packet of a forwarder joins the outbound queue as the last one. -/
theorem Sound.push (sound : Sound s) {i : Nat} (moved : s.push i = some t) : Sound t := by
  unfold State.push at moved
  split at moved
  · next x found =>
    split at moved
    · next u sending =>
      have live : x.phase.isEnded = false := by
        rw [sending]
        rfl
      split at moved
      · cases moved
        refine sound.update found rfl
          ⟨rfl, live.symm, List.Sublist.refl _, by simp, fun l heard => ?_⟩ rfl rfl rfl rfl rfl
        rw [Forwarder.pending, sending] at heard
        exact (List.Sublist.append_left (List.nil_sublist _) l).trans heard
      · obtain ⟨-, ⟨⟩⟩ := Option.ite_none_right_eq_some.mp moved
        have owner := owner_update (s := s) (t := { s with
          forwarders := s.forwarders.insert i { x with phase := .selecting }
          outbound := s.outbound ++ [⟨i, u⟩] }) found rfl rfl live.symm
        have items : State.items { s with
            forwarders := s.forwarders.insert i { x with phase := .selecting }
            outbound := s.outbound ++ [⟨i, u⟩] } = s.items ++ [⟨i, u⟩] := by
          simp [State.items]
        have tag := sound.tagged.sending i x u found sending
        refine ⟨sound.owned.same owner rfl rfl rfl, sound.ordered.hold rfl rfl fun j z there => ?_,
          ⟨fun item member => ?_, fun j z u there => ?_, fun j z there => ?_⟩⟩
        · rcases lookup_update rfl there with ⟨rfl, rfl⟩ | held
          · exact ⟨x, found, rfl, List.Sublist.refl _⟩
          · exact ⟨z, held, rfl, List.Sublist.refl _⟩
        · rw [items, List.mem_append, List.mem_singleton] at member
          rw [owner]
          rcases member with member | rfl
          · exact sound.tagged.source item member
          · exact ⟨_, by rw [owner_of_lookup found, tag]⟩
        · rcases lookup_update rfl there with ⟨rfl, rfl⟩ | held
          · simp
          · exact sound.tagged.sending j z u held
        · rw [items, answersOf_append]
          rcases lookup_update rfl there with ⟨rfl, rfl⟩ | held
          · have heard := sound.tagged.heard j x found
            rw [Forwarder.pending, sending] at heard
            simpa [answersOf, Forwarder.pending, Forwarder.taken] using heard
          · have heard := sound.tagged.heard j z held
            have other : i ≠ j := by
              rintro rfl
              rw [lookup_insert_eq, if_pos rfl] at there
              rw [found] at held
              have phase := congrArg Forwarder.phase ((Option.some.inj there).trans
                (Option.some.inj held).symm)
              simp [sending] at phase
            simpa [answersOf, other] using heard
    · cases moved
  · cases moved

theorem Sound.takeOutbound (sound : Sound s) (moved : s.takeOutbound = some t) : Sound t := by
  unfold State.takeOutbound at moved
  split at moved
  · next item rest receiving queue =>
    cases moved
    refine ⟨sound.owned.same (fun _ => rfl) rfl rfl rfl,
      sound.ordered.same rfl sound.ordered.hand (List.Sublist.refl _), sound.tagged.same rfl ?_⟩
    simp [State.items, Writer.item, receiving, queue]
  · cases moved

theorem Sound.wrote (sound : Sound s) {ok : Bool} (moved : s.wrote ok = some t) : Sound t := by
  unfold State.wrote at moved
  split at moved
  · next item writing =>
    cases ok <;> cases moved
    all_goals
      refine ⟨sound.owned.same (fun _ => rfl) rfl rfl rfl,
        sound.ordered.same rfl sound.ordered.hand (List.Sublist.refl _), sound.tagged.same rfl ?_⟩
      simp [State.items, Writer.item, writing]
  · cases moved

theorem Sound.step {a : Action} (moved : step s a = some t) (sound : Sound s) : Sound t := by
  cases a with
  | receive packet => exact sound.receive moved
  | readError =>
    obtain ⟨reading, ⟨⟩⟩ := Option.ite_none_right_eq_some.mp moved
    exact sound.turn (by simp) (by simp) (by simp [Reader.packet]) sublist_before
  | lookup => exact sound.lookup moved
  | connect ok => exact sound.connect moved
  | insert => exact sound.insert moved
  | fetch => exact sound.fetch moved
  | send => exact sound.send moved
  | forward i ok =>
    cases ok with
    | true => exact sound.onForwarder (fun _ _ => keeps_forward) moved
    | false => exact sound.leave (fun _ _ => keeps_drop) moved
  | closed i =>
    refine sound.leave (fun x y made => ?_) moved
    exact keeps_close (Option.ite_none_right_eq_some.mp made).2
  | answer i data => exact sound.onForwarder (fun _ _ => keeps_answer) moved
  | recvError i => exact sound.leave (fun _ _ => keeps_close) moved
  | expire i => exact sound.leave (fun _ _ => keeps_close) moved
  | push i => exact sound.push moved
  | remove i => exact sound.remove moved
  | takeOutbound => exact sound.takeOutbound moved
  | wrote ok => exact sound.wrote moved

/-- What a step does to the forwarders: nothing, or one of them goes on, or one is spawned. -/
inductive Changes (s t : State) (a : Action) : Prop
  | none (forwarders : t.forwarders = s.forwarders)
  | one {i : Nat} {x y : Forwarder} (found : s.forwarders.lookup i = some x)
      (forwarders : t.forwarders = s.forwarders.insert i y) (source : y.source = x.source)
      (heard : y.heard = x.heard ∨ ∃ data, a = .answer i data ∧ y.heard = x.heard ++ [data])
  | spawned {packet : UdpTraffic} (inserting : s.reader = .inserting packet)
      (forwarders : t.forwarders =
        s.forwarders.insert s.spawned ⟨packet.source, .selecting, [], [], []⟩)

theorem changes_onForwarder {a : Action} {i : Nat} {f : Forwarder → Option Forwarder}
    (kept : ∀ x y, f x = some y → y.source = x.source ∧
      (y.heard = x.heard ∨ ∃ data, a = .answer i data ∧ y.heard = x.heard ++ [data]))
    (moved : s.onForwarder i f = some t) : Changes s t a := by
  obtain ⟨y, bound, rfl⟩ := Option.map_eq_some_iff.mp moved
  obtain ⟨x, found, made⟩ := Option.bind_eq_some_iff.mp bound
  obtain ⟨source, heard⟩ := kept x y made
  exact .one found rfl source heard

theorem changes_leave {a : Action} {i : Nat} {f : Forwarder → Option Forwarder}
    (kept : ∀ x y, f x = some y → y.source = x.source ∧ y.heard = x.heard)
    (moved : s.leave i f = some t) : Changes s t a := by
  obtain ⟨u, left, rfl⟩ := Option.map_eq_some_iff.mp moved
  obtain ⟨y, bound, rfl⟩ := Option.map_eq_some_iff.mp left
  obtain ⟨x, found, made⟩ := Option.bind_eq_some_iff.mp bound
  obtain ⟨source, heard⟩ := kept x y made
  exact .one found rfl source (.inl heard)

theorem kept_close {x y : Forwarder} (made : x.close = some y) :
    y.source = x.source ∧ y.heard = x.heard := by
  obtain ⟨-, ⟨⟩⟩ := Option.ite_none_right_eq_some.mp made
  exact ⟨rfl, rfl⟩

theorem changes_forward {i : Nat} {ok : Bool} (moved : s.forward i ok = some t) :
    Changes s t (.forward i ok) := by
  cases ok with
  | true =>
    refine changes_onForwarder (fun x y made => ?_) moved
    unfold Forwarder.forward at made
    split at made <;> cases made
    exact ⟨rfl, .inl rfl⟩
  | false =>
    refine changes_leave (fun x y made => ?_) moved
    unfold Forwarder.drop at made
    split at made <;> cases made
    exact ⟨rfl, rfl⟩

theorem changes_send (moved : s.send = some t) : Changes s t .send := by
  unfold State.send at moved
  split at moved
  · split at moved
    · next x found =>
      split at moved
      · cases moved
        exact .none rfl
      · obtain ⟨-, ⟨⟩⟩ := Option.ite_none_right_eq_some.mp moved
        exact .one found rfl rfl (.inl rfl)
    · cases moved
      exact .none rfl
  · cases moved

theorem changes_push {i : Nat} (moved : s.push i = some t) : Changes s t (.push i) := by
  unfold State.push at moved
  split at moved
  · next x found =>
    split at moved
    · split at moved
      · cases moved
        exact .one found rfl rfl (.inl rfl)
      · obtain ⟨-, ⟨⟩⟩ := Option.ite_none_right_eq_some.mp moved
        exact .one found rfl rfl (.inl rfl)
    · cases moved
  · cases moved

theorem changes_remove {i : Nat} (moved : s.remove i = some t) : Changes s t (.remove i) := by
  unfold State.remove at moved
  split at moved
  · next x found =>
    obtain ⟨-, ⟨⟩⟩ := Option.ite_none_right_eq_some.mp moved
    exact .one found rfl rfl (.inl rfl)
  · cases moved

theorem changes_insert (moved : s.insert = some t) : Changes s t .insert := by
  unfold State.insert at moved
  split at moved
  · next packet inserting =>
    cases moved
    exact .spawned inserting rfl
  · cases moved

theorem changes_of_step {a : Action} (moved : step s a = some t) : Changes s t a := by
  cases a with
  | receive packet =>
    obtain ⟨-, ⟨⟩⟩ := Option.ite_none_right_eq_some.mp moved
    exact .none rfl
  | readError =>
    obtain ⟨-, ⟨⟩⟩ := Option.ite_none_right_eq_some.mp moved
    exact .none rfl
  | lookup =>
    change s.lookup = some t at moved
    unfold State.lookup at moved
    split at moved
    · split at moved <;> cases moved <;> exact .none rfl
    · cases moved
  | connect ok =>
    change s.connect ok = some t at moved
    unfold State.connect at moved
    split at moved <;> cases moved
    exact .none rfl
  | insert => exact changes_insert moved
  | fetch =>
    change s.fetch = some t at moved
    unfold State.fetch at moved
    split at moved
    · obtain ⟨-, moved⟩ := Option.ite_none_left_eq_some.mp moved
      split at moved <;> cases moved <;> exact .none rfl
    · cases moved
  | send => exact changes_send moved
  | forward i ok => exact changes_forward moved
  | closed i =>
    refine changes_leave (fun x y made => ?_) moved
    exact kept_close (Option.ite_none_right_eq_some.mp made).2
  | answer i data =>
    refine changes_onForwarder (fun x y made => ?_) moved
    obtain ⟨-, ⟨⟩⟩ := Option.ite_none_right_eq_some.mp made
    exact ⟨rfl, .inr ⟨data, rfl, rfl⟩⟩
  | recvError i => exact changes_leave (fun _ _ => kept_close) moved
  | expire i => exact changes_leave (fun _ _ => kept_close) moved
  | push i => exact changes_push moved
  | remove i => exact changes_remove moved
  | takeOutbound =>
    change s.takeOutbound = some t at moved
    unfold State.takeOutbound at moved
    split at moved <;> cases moved
    exact .none rfl
  | wrote ok =>
    change s.wrote ok = some t at moved
    unfold State.wrote at moved
    split at moved
    · cases ok <;> cases moved <;> exact .none rfl
    · cases moved

theorem Sound.start : Sound .start := by
  refine ⟨⟨?_, fun _ _ => rfl, by simp [State.start], by simp [State.start]⟩,
    ⟨by simp [State.start, Reader.packet], by simp [State.start]⟩, ⟨?_, ?_, ?_⟩⟩
  · simp [State.start, State.owner]
  · simp [State.start, State.items, Writer.item]
  · simp [State.start]
  · simp [State.start]

theorem sound_of_reachable (reached : system.Reachable s) : Sound s :=
  reached.invariant (by rintro s rfl; exact .start) fun _ _ _ _ moved => .step moved

end Steps

/-- No visitor's datagrams cross those of another. -/
structure Isolated (s : State) : Prop where
  /-- an address has an entry when one forwarder for it is still to remove it -/
  entry : ∀ a, (s.portMap.lookup a).isSome ↔ ∃! i, Live s i a
  sender : ∀ a i, s.portMap.lookup a = some i → Live s i a
  /-- a forwarder removes its own entry, and no later one -/
  removed : ∀ i t, s.remove i = some t → ∃ x, s.forwarders.lookup i = some x ∧
    s.portMap.lookup x.source = some i ∧ t.portMap = s.portMap.erase x.source
  /-- the local socket gets datagrams of the forwarder's visitor, in the order they were read -/
  delivered : ∀ i x, s.forwarders.lookup i = some x →
    (x.delivered ++ x.inbound).Sublist (dataOf x.source s.packets)
  /-- outbound packets carry the address of the forwarder that sends them -/
  tagged : ∀ item ∈ s.items, ∃ x, s.forwarders.lookup item.forwarder = some x ∧
    item.traffic.source = x.source
  /-- and what its socket heard, in this order -/
  heard : ∀ i x, s.forwarders.lookup i = some x → (answersOf i s.items).Sublist x.taken

theorem isolated_of_reachable {s : State} (reached : system.Reachable s) : Isolated s := by
  have sound := sound_of_reachable reached
  refine ⟨fun a => ⟨fun held => ?_, fun owned => ?_⟩, fun a i held => ?_,
    fun i t removed => ?_, fun i x found => ?_, fun item member => ?_, fun i x found => ?_⟩
  · obtain ⟨i, entry⟩ := Option.isSome_iff_exists.mp held
    refine ⟨i, live_iff.mpr ((sound.owned.entry a i).mp entry), fun j live => ?_⟩
    have other := (sound.owned.entry a j).mpr (live_iff.mp live)
    rw [entry] at other
    exact (Option.some.inj other).symm
  · obtain ⟨i, live, -⟩ := owned
    rw [(sound.owned.entry a i).mpr (live_iff.mp live)]
    rfl
  · exact live_iff.mpr ((sound.owned.entry a i).mp held)
  · unfold State.remove at removed
    split at removed
    · next x found =>
      obtain ⟨⟨closing, -⟩, ⟨⟩⟩ := Option.ite_none_right_eq_some.mp removed
      have live : x.phase.isEnded = false := by
        rw [closing]
        rfl
      exact ⟨x, found, (sound.owned.entry x.source i).mpr (live ▸ owner_of_lookup found), rfl⟩
    · cases removed
  · exact (sound.ordered.order i x found).trans ((sublist_before.filter _).map _)
  · obtain ⟨ended, owner⟩ := sound.tagged.source item member
    obtain ⟨x, found, same⟩ := Option.map_eq_some_iff.mp owner
    rw [Prod.mk.injEq] at same
    exact ⟨x, found, same.1.symm⟩
  · exact (List.sublist_append_left _ _).trans (sound.tagged.heard i x found)

/-- A visitor gets a second forwarder once its first one has expired. -/
theorem isolated_after_expiry : ∃ s, system.Reachable s ∧
    (s.portMap.lookup (.v4 1 7) = some 1 ∧ s.items = [⟨0, .v4 1 7, [9]⟩]) ∧ Isolated s := by
  let packet : UdpTraffic := ⟨.v4 1 7, [5]⟩
  let turn : List Action := [.receive packet, .lookup, .connect true, .insert, .fetch, .send]
  obtain ⟨s, reached, held⟩ := Transition.System.exists_reachable (m := system) rfl
    (turn ++ [.forward 0 true, .answer 0 [9], .push 0, .expire 0, .remove 0] ++ turn)
    (fun s => s.portMap.lookup (.v4 1 7) = some 1 ∧ s.items = [⟨0, .v4 1 7, [9]⟩])
    (by decide +kernel)
  exact ⟨s, reached, of_decide_eq_true held, isolated_of_reachable reached⟩

end Rathole.UdpClient
