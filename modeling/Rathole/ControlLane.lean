import Rathole.ControlSession

set_option autoImplicit false

/- What stands on a control channel, and what the two sides have made of it. -/
namespace Rathole.ControlSession

open Protocol (Digest Hello Auth Ack ControlChannelCmd Packet Kind format readPacket readHello
  readAuth readAck readControlCmd)

section Lane

variable {digest : List UInt8 → Digest} {written taken : List Packet} {channel left : List UInt8}

/-- What was written and not read stands on the channel, up to the bytes that are left to write. -/
def Lane (digest : List UInt8 → Digest) (written taken : List Packet) (channel left : List UInt8) :
    Prop :=
  ∃ pending, written = taken ++ pending ∧ (format digest).writeAll pending = channel ++ left ∧
    ∀ p ∈ pending, p.current

theorem writeAll_cons (p : Packet) (pending : List Packet) :
    (format digest).writeAll (p :: pending) = p.serialize ++ (format digest).writeAll pending := rfl

theorem writeAll_append (first second : List Packet) : (format digest).writeAll (first ++ second) =
    (format digest).writeAll first ++ (format digest).writeAll second := by
  unfold Framing.Format.writeAll
  rw [List.map_append, List.flatten_append]

theorem length_serialize (digest : List UInt8 → Digest) (p : Packet) :
    p.serialize.length = p.kind.packetLen digest := by
  cases p <;> simp [Packet.serialize, Packet.kind, Kind.packetLen, Protocol.packetLength]

theorem packetLen_pos (digest : List UInt8 → Digest) (kind : Kind) : 0 < kind.packetLen digest := by
  cases kind <;> simp [Kind.packetLen, Protocol.packetLength]

theorem Lane.prefix_ (lane : Lane digest written taken channel left) : taken <+: written := by
  obtain ⟨pending, same, -⟩ := lane
  exact ⟨pending, same.symm⟩

theorem Lane.write (lane : Lane digest written taken channel left) (count : Nat) :
    Lane digest written taken (channel ++ left.take count) (left.drop count) := by
  obtain ⟨pending, same, bytes, current⟩ := lane
  refine ⟨pending, same, ?_, current⟩
  rw [bytes, List.append_assoc, List.take_append_drop]

theorem Lane.put (lane : Lane digest written taken channel []) {p : Packet} (current : p.current) :
    Lane digest (written ++ [p]) taken channel p.serialize := by
  obtain ⟨pending, same, bytes, each⟩ := lane
  rw [List.append_nil] at bytes
  refine ⟨pending ++ [p], by rw [same, List.append_assoc], ?_, ?_⟩
  · rw [writeAll_append, bytes, writeAll_cons]
    exact congrArg _ (List.append_nil _)
  · intro q member
    rcases List.mem_append.mp member with old | new
    · exact each q old
    · rwa [List.mem_singleton.mp new]

/-- Nothing is left when everything was read. -/
theorem Lane.done (lane : Lane digest written written channel left) :
    channel = [] ∧ left = [] := by
  obtain ⟨pending, same, bytes, -⟩ := lane
  rw [List.self_eq_append_right.mp same] at bytes
  exact List.append_eq_nil_iff.mp bytes.symm

/-- The next packet is read, and nothing of what follows it. -/
theorem Lane.read {kind : Kind} {p : Packet} {rest : List UInt8}
    (lane : Lane digest written taken channel left)
    (kinds : ∀ m, written[taken.length]? = some m → m.kind = kind)
    (got : readPacket digest kind channel = .ok (p, rest)) :
    Lane digest written (taken ++ [p]) rest left := by
  obtain ⟨pending, same, bytes, current⟩ := lane
  obtain ⟨front, stream, width, -⟩ := Protocol.readPacket_ok digest got
  cases pending with
  | nil =>
    have none_ := (List.append_eq_nil_iff.mp bytes.symm).1
    rw [stream] at none_
    have short := (List.append_eq_nil_iff.mp none_).1
    rw [short, List.length_nil] at width
    exact absurd width (packetLen_pos digest kind).ne
  | cons m pending =>
    have next : written[taken.length]? = some m := by
      rw [same, List.getElem?_append_right (Nat.le_refl _), Nat.sub_self]
      rfl
    have like := kinds m next
    rw [writeAll_cons, stream, List.append_assoc] at bytes
    have wide : m.serialize.length = front.length := by
      rw [length_serialize digest, like, width]
    obtain ⟨whole, later⟩ := List.append_inj bytes wide
    have exact_ := Protocol.exact_of_current digest (current m List.mem_cons_self) rest
    change readPacket digest m.kind (m.serialize ++ rest) = .ok (m, rest) at exact_
    rw [like, whole, ← stream, got] at exact_
    cases exact_
    refine ⟨pending, ?_, later, fun q member => current q (List.mem_cons_of_mem _ member)⟩
    rw [same, List.append_assoc]
    rfl

end Lane

section Packets

def helloPacket (d : Digest) : Packet := .hello (controlHello d)

def Client.written (x : Setup) : Client → List Packet
  | .greeting _ | .readingHello => [helloPacket x.serviceDigest]
  | .authenticating _ key _ | .readingAck _ key | .rejected _ key _ | .connected _ key _ =>
    [helloPacket x.serviceDigest, .auth ⟨key⟩]

def Client.read : Client → List Packet
  | .greeting _ | .readingHello => []
  | .authenticating nonce _ _ | .readingAck nonce _ => [helloPacket nonce]
  | .rejected nonce _ ack => [helloPacket nonce, .ack ack]
  | .connected nonce _ cmds => [helloPacket nonce, .ack .ok] ++ cmds.map .controlCmd

def Client.left : Client → List UInt8
  | .greeting left | .authenticating _ _ left => left
  | _ => []

def Server.written : Server → List Packet
  | .readingHello | .dataChannel => []
  | .greeting _ nonce _ | .lookup _ nonce | .readingAuth _ nonce _ _ => [helloPacket nonce]
  | .rejecting _ nonce _ => [helloPacket nonce, .ack .serviceNotExist]
  | .refusing _ nonce _ _ _ _ => [helloPacket nonce, .ack .authFailed]
  | .accepting _ nonce _ _ _ _ | .registering _ nonce _ _ _ => [helloPacket nonce, .ack .ok]
  | .running _ nonce _ _ _ cmds _ => [helloPacket nonce, .ack .ok] ++ cmds.map .controlCmd

def Server.read : Server → List Packet
  | .readingHello | .dataChannel => []
  | .greeting service _ _ | .lookup service _ | .rejecting service _ _
  | .readingAuth service _ _ _ => [helloPacket service]
  | .refusing service _ _ _ auth _ | .accepting service _ _ _ auth _
  | .registering service _ _ _ auth | .running service _ _ _ auth _ _ =>
    [helloPacket service, .auth auth]

def Server.left : Server → List UInt8
  | .greeting _ _ left | .rejecting _ _ left | .refusing _ _ _ _ _ left
  | .accepting _ _ _ _ _ left | .running _ _ _ _ _ _ left => left
  | _ => []

/-- The client writes a hello and an auth. -/
theorem Client.kinds (x : Setup) (c : Client) :
    (∀ m, (c.written x)[0]? = some m → m.kind = .hello) ∧
      ∀ m, (c.written x)[1]? = some m → m.kind = .auth := by
  cases c with
  | greeting | readingHello =>
    refine ⟨?_, ?_⟩
    · rintro m ⟨⟩
      rfl
    · rintro m ⟨⟩
  | _ =>
    refine ⟨?_, ?_⟩
    · rintro m ⟨⟩
      rfl
    · rintro m ⟨⟩
      rfl

/-- The server writes a hello, an ack and commands. -/
theorem Server.kinds (s : Server) : (∀ m, s.written[0]? = some m → m.kind = .hello) ∧
    (∀ m, s.written[1]? = some m → m.kind = .ack) ∧
      ∀ i m, s.written[i + 2]? = some m → m.kind = .controlCmd := by
  have commands : ∀ (cmds : List ControlChannelCmd) (i : Nat) (m : Packet),
      (cmds.map Packet.controlCmd)[i]? = some m → m.kind = .controlCmd := by
    intro cmds i m found
    rw [List.getElem?_map] at found
    obtain ⟨cmd, -, rfl⟩ := Option.map_eq_some_iff.mp found
    rfl
  cases s with
  | readingHello | dataChannel => exact ⟨by rintro m ⟨⟩, by rintro m ⟨⟩, by rintro i m ⟨⟩⟩
  | greeting | lookup | readingAuth =>
    refine ⟨?_, by rintro m ⟨⟩, by rintro i m ⟨⟩⟩
    rintro m ⟨⟩
    rfl
  | rejecting | refusing | accepting | registering =>
    refine ⟨?_, ?_, by rintro i m ⟨⟩⟩
    · rintro m ⟨⟩
      rfl
    · rintro m ⟨⟩
      rfl
  | running service nonce found token auth cmds left =>
    refine ⟨?_, ?_, fun i m found => commands cmds i m found⟩
    · rintro m ⟨⟩
      rfl
    · rintro m ⟨⟩
      rfl

end Packets

end Rathole.ControlSession
