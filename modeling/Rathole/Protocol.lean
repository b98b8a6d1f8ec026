import Rathole.Bytes
import Rathole.Framing
import Rathole.Text

set_option autoImplicit false

/- The messages of the control protocol, their binary form, and their readers. -/
namespace Rathole.Protocol

open Bytes (leBytes ofLeBytes split)

def hashWidthInBytes : Nat := 32

def protoV1 : UInt8 := 1

def currentProtoVersion : UInt8 := protoV1

structure Digest where
  bytes : List UInt8
  width : bytes.length = hashWidthInBytes

inductive Hello
  | controlChannelHello (version : UInt8) (digest : Digest)
  | dataChannelHello (version : UInt8) (digest : Digest)

structure Auth where
  digest : Digest

inductive Ack
  | ok | serviceNotExist | authFailed

inductive ControlChannelCmd
  | createDataChannel | heartBeat

inductive DataChannelCmd
  | startForwardTcp | startForwardUdp

/-- The index of a variant, as a `u32`. -/
def serializeVariant (index : Nat) : List UInt8 := leBytes 4 index

def deserializeVariant (bytes : List UInt8) : Option (Nat × List UInt8) :=
  (split 4 bytes).map fun parts => (ofLeBytes parts.1, parts.2)

def deserializeDigest (bytes : List UInt8) : Option Digest :=
  match split hashWidthInBytes bytes with
  | none => none
  | some (front, _) =>
    if width : front.length = hashWidthInBytes then some ⟨front, width⟩ else none

def Hello.serialize : Hello → List UInt8
  | controlChannelHello version digest => serializeVariant 0 ++ version :: digest.bytes
  | dataChannelHello version digest => serializeVariant 1 ++ version :: digest.bytes

def Hello.version : Hello → UInt8
  | controlChannelHello version _ => version
  | dataChannelHello version _ => version

/-- Bytes behind the value are ignored, here and below. -/
def Hello.deserialize (bytes : List UInt8) : Option Hello :=
  match deserializeVariant bytes with
  | some (0, version :: rest) => (deserializeDigest rest).map (controlChannelHello version)
  | some (1, version :: rest) => (deserializeDigest rest).map (dataChannelHello version)
  | _ => none

def Auth.serialize (a : Auth) : List UInt8 := a.digest.bytes

def Auth.deserialize (bytes : List UInt8) : Option Auth := (deserializeDigest bytes).map Auth.mk

def Ack.serialize : Ack → List UInt8
  | ok => serializeVariant 0
  | serviceNotExist => serializeVariant 1
  | authFailed => serializeVariant 2

def Ack.deserialize (bytes : List UInt8) : Option Ack :=
  match deserializeVariant bytes with
  | some (0, _) => some ok
  | some (1, _) => some serviceNotExist
  | some (2, _) => some authFailed
  | _ => none

def ControlChannelCmd.serialize : ControlChannelCmd → List UInt8
  | createDataChannel => serializeVariant 0
  | heartBeat => serializeVariant 1

def ControlChannelCmd.deserialize (bytes : List UInt8) : Option ControlChannelCmd :=
  match deserializeVariant bytes with
  | some (0, _) => some createDataChannel
  | some (1, _) => some heartBeat
  | _ => none

def DataChannelCmd.serialize : DataChannelCmd → List UInt8
  | startForwardTcp => serializeVariant 0
  | startForwardUdp => serializeVariant 1

def DataChannelCmd.deserialize (bytes : List UInt8) : Option DataChannelCmd :=
  match deserializeVariant bytes with
  | some (0, _) => some startForwardTcp
  | some (1, _) => some startForwardUdp
  | _ => none

structure PacketLength where
  hello : Nat
  ack : Nat
  auth : Nat
  cCmd : Nat
  dCmd : Nat

section Readers

variable (digest : List UInt8 → Digest)

/-- Every length is that of one sample. -/
def PacketLength.new : PacketLength :=
  let d := digest (asBytes "default")
  { hello := (Hello.controlChannelHello currentProtoVersion d).serialize.length
    ack := Ack.ok.serialize.length
    auth := (Auth.mk d).serialize.length
    cCmd := ControlChannelCmd.createDataChannel.serialize.length
    dCmd := DataChannelCmd.startForwardTcp.serialize.length }

/-- `read_exact` of one message, and what is left on the stream. -/
def readMessage {A : Type} (len : Nat) (what value : String)
    (deserialize : List UInt8 → Option A) (stream : List UInt8) :
    Except String (A × List UInt8) :=
  match split len stream with
  | none => .error s!"Failed to read {what}"
  | some (buf, rest) =>
    match deserialize buf with
    | none => .error s!"Failed to deserialize {value}"
    | some a => .ok (a, rest)

def readHello (stream : List UInt8) : Except String (Hello × List UInt8) := do
  let (hello, rest) ←
    readMessage (PacketLength.new digest).hello "hello" "hello" Hello.deserialize stream
  if hello.version = currentProtoVersion then .ok (hello, rest)
  else .error (s!"Protocol version mismatched. Expected {currentProtoVersion}, got " ++
    s!"{hello.version}. Please update `rathole`.")

def readAuth (stream : List UInt8) : Except String (Auth × List UInt8) :=
  readMessage (PacketLength.new digest).auth "auth" "auth" Auth.deserialize stream

def readAck (stream : List UInt8) : Except String (Ack × List UInt8) :=
  readMessage (PacketLength.new digest).ack "ack" "ack" Ack.deserialize stream

def readControlCmd (stream : List UInt8) : Except String (ControlChannelCmd × List UInt8) :=
  readMessage (PacketLength.new digest).cCmd "cmd" "control cmd" ControlChannelCmd.deserialize
    stream

def readDataCmd (stream : List UInt8) : Except String (DataChannelCmd × List UInt8) :=
  readMessage (PacketLength.new digest).dCmd "cmd" "data cmd" DataChannelCmd.deserialize stream

end Readers

section Widths

variable (digest : List UInt8 → Digest)

theorem length_serializeVariant (index : Nat) : (serializeVariant index).length = 4 :=
  Bytes.length_leBytes 4 index

@[simp] theorem Hello.length_serialize (hello : Hello) : hello.serialize.length = 37 := by
  cases hello with
  | _ version d =>
    rw [Hello.serialize, List.length_append, List.length_cons, d.width, length_serializeVariant]
    rfl

@[simp] theorem Auth.length_serialize (a : Auth) : a.serialize.length = 32 := a.digest.width

@[simp] theorem Ack.length_serialize (a : Ack) : a.serialize.length = 4 := by
  cases a <;> exact length_serializeVariant _

@[simp] theorem ControlChannelCmd.length_serialize (cmd : ControlChannelCmd) :
    cmd.serialize.length = 4 := by
  cases cmd <;> exact length_serializeVariant _

@[simp] theorem DataChannelCmd.length_serialize (cmd : DataChannelCmd) :
    cmd.serialize.length = 4 := by
  cases cmd <;> exact length_serializeVariant _

/-- The sample stands for every value of its type. -/
theorem packetLength : PacketLength.new digest = ⟨37, 4, 32, 4, 4⟩ := by
  simp [PacketLength.new]

end Widths

section RoundTrip

theorem deserializeVariant_serialize {index : Nat} (small : index < 3) (rest : List UInt8) :
    deserializeVariant (serializeVariant index ++ rest) = some (index, rest) := by
  have fits : index < 256 ^ 4 := by omega
  rw [deserializeVariant, Bytes.split_append (length_serializeVariant index), Option.map_some,
    serializeVariant, Bytes.ofLeBytes_of_lt fits]

theorem deserializeDigest_bytes (d : Digest) : deserializeDigest d.bytes = some d := by
  have taken : split hashWidthInBytes d.bytes = some (d.bytes, []) := by
    have whole : split hashWidthInBytes (d.bytes ++ []) = some (d.bytes, []) :=
      Bytes.split_append d.width
    rwa [List.append_nil] at whole
  simp only [deserializeDigest, taken, d.width, ↓reduceDIte]

theorem Hello.deserialize_serialize (hello : Hello) :
    Hello.deserialize hello.serialize = some hello := by
  cases hello <;>
    simp [Hello.deserialize, Hello.serialize, deserializeVariant_serialize,
      deserializeDigest_bytes]

theorem Auth.deserialize_serialize (a : Auth) : Auth.deserialize a.serialize = some a := by
  simp [Auth.deserialize, Auth.serialize, deserializeDigest_bytes]

theorem deserializeVariant_alone {index : Nat} (small : index < 3) :
    deserializeVariant (serializeVariant index) = some (index, []) := by
  have whole := deserializeVariant_serialize small []
  rwa [List.append_nil] at whole

theorem Ack.deserialize_serialize (a : Ack) : Ack.deserialize a.serialize = some a := by
  cases a <;> simp [Ack.deserialize, Ack.serialize, deserializeVariant_alone]

theorem ControlChannelCmd.deserialize_serialize (cmd : ControlChannelCmd) :
    ControlChannelCmd.deserialize cmd.serialize = some cmd := by
  cases cmd <;> simp [ControlChannelCmd.deserialize, ControlChannelCmd.serialize,
    deserializeVariant_alone]

theorem DataChannelCmd.deserialize_serialize (cmd : DataChannelCmd) :
    DataChannelCmd.deserialize cmd.serialize = some cmd := by
  cases cmd <;> simp [DataChannelCmd.deserialize, DataChannelCmd.serialize,
    deserializeVariant_alone]

end RoundTrip

/-- The messages of a connection, and what a reader expects. -/
inductive Packet
  | hello (hello : Hello)
  | auth (a : Auth)
  | ack (a : Ack)
  | controlCmd (cmd : ControlChannelCmd)
  | dataCmd (cmd : DataChannelCmd)

inductive Kind
  | hello | auth | ack | controlCmd | dataCmd
  deriving DecidableEq

namespace Packet

def kind : Packet → Kind
  | .hello _ => .hello
  | .auth _ => .auth
  | .ack _ => .ack
  | .controlCmd _ => .controlCmd
  | .dataCmd _ => .dataCmd

def serialize : Packet → List UInt8
  | .hello h => h.serialize
  | .auth a => a.serialize
  | .ack a => a.serialize
  | .controlCmd cmd => cmd.serialize
  | .dataCmd cmd => cmd.serialize

/-- Both programs write the current version. -/
def current : Packet → Prop
  | .hello h => h.version = currentProtoVersion
  | _ => True

end Packet

section Reading

variable (digest : List UInt8 → Digest)

def Kind.packetLen : Kind → Nat
  | .hello => (PacketLength.new digest).hello
  | .auth => (PacketLength.new digest).auth
  | .ack => (PacketLength.new digest).ack
  | .controlCmd => (PacketLength.new digest).cCmd
  | .dataCmd => (PacketLength.new digest).dCmd

def readPacket (kind : Kind) (stream : List UInt8) : Except String (Packet × List UInt8) :=
  match kind with
  | .hello => (readHello digest stream).map fun r => (.hello r.1, r.2)
  | .auth => (readAuth digest stream).map fun r => (.auth r.1, r.2)
  | .ack => (readAck digest stream).map fun r => (.ack r.1, r.2)
  | .controlCmd => (readControlCmd digest stream).map fun r => (.controlCmd r.1, r.2)
  | .dataCmd => (readDataCmd digest stream).map fun r => (.dataCmd r.1, r.2)

def format : Framing.Format Kind Packet String where
  kind := Packet.kind
  write := Packet.serialize
  read := readPacket digest

end Reading

/-- What one side writes on a connection, in order. -/
inductive Script
  /-- `ControlChannel::run` of the client -/
  | controlClient (service : Digest) (sessionKey : Digest)
  /-- `do_control_channel_handshake`, and then `ControlChannel::run` of the server -/
  | controlServer (nonce : Digest) (ack : Ack) (cmds : List ControlChannelCmd)
  /-- the start of a data channel -/
  | dataClient (sessionKey : Digest)
  | dataServer (cmd : DataChannelCmd)

def Script.packets : Script → List Packet
  | controlClient service sessionKey =>
    [.hello (.controlChannelHello currentProtoVersion service), .auth ⟨sessionKey⟩]
  | controlServer nonce ack cmds =>
    .hello (.controlChannelHello currentProtoVersion nonce) :: .ack ack :: cmds.map .controlCmd
  | dataClient sessionKey => [.hello (.dataChannelHello currentProtoVersion sessionKey)]
  | dataServer cmd => [.dataCmd cmd]

section Exact

variable (digest : List UInt8 → Digest)

theorem readMessage_append {A : Type} {len : Nat} {what value : String}
    {deserialize : List UInt8 → Option A} {front : List UInt8} {a : A}
    (width : front.length = len) (read : deserialize front = some a) (rest : List UInt8) :
    readMessage len what value deserialize (front ++ rest) = .ok (a, rest) := by
  simp only [readMessage, Bytes.split_append width, read]

/-- A reader takes its bytes off the stream and no others. -/
theorem readMessage_ok {A : Type} {len : Nat} {what value : String}
    {deserialize : List UInt8 → Option A} {stream rest : List UInt8} {a : A}
    (read : readMessage len what value deserialize stream = .ok (a, rest)) :
    ∃ front, stream = front ++ rest ∧ front.length = len ∧ deserialize front = some a := by
  unfold readMessage at read
  split at read
  · cases read
  · next front tail taken =>
    obtain ⟨same, width⟩ := Bytes.split_spec taken
    split at read
    · cases read
    · next b value =>
      cases read
      exact ⟨front, same, width, value⟩

theorem readHello_append {hello : Hello} (current : hello.version = currentProtoVersion)
    (rest : List UInt8) : readHello digest (hello.serialize ++ rest) = .ok (hello, rest) := by
  have width : hello.serialize.length = (PacketLength.new digest).hello := by simp [packetLength]
  simp only [readHello, readMessage_append width hello.deserialize_serialize]
  exact if_pos current

theorem readHello_ok {stream rest : List UInt8} {hello : Hello}
    (read : readHello digest stream = .ok (hello, rest)) :
    readMessage (PacketLength.new digest).hello "hello" "hello" Hello.deserialize stream =
      .ok (hello, rest) ∧ hello.version = currentProtoVersion := by
  unfold readHello at read
  cases message : readMessage (PacketLength.new digest).hello "hello" "hello" Hello.deserialize
      stream with
  | error reason =>
    rw [message] at read
    cases read
  | ok result =>
    rw [message] at read
    by_cases current : result.1.version = currentProtoVersion
    · have same : Except.ok (result.1, result.2) = Except.ok (hello, rest) :=
        (if_pos current).symm.trans read
      cases same
      exact ⟨rfl, current⟩
    · have failed := (if_neg current).symm.trans read
      cases failed

theorem exact_of_current {p : Packet} (current : p.current) : (format digest).Exact p := by
  intro rest
  cases p with
  | hello hello =>
    show (readHello digest (hello.serialize ++ rest)).map _ = _
    rw [readHello_append digest current]
    rfl
  | auth a =>
    show (readAuth digest (a.serialize ++ rest)).map _ = _
    rw [readAuth, readMessage_append (by simp [packetLength]) a.deserialize_serialize]
    rfl
  | ack a =>
    show (readAck digest (a.serialize ++ rest)).map _ = _
    rw [readAck, readMessage_append (by simp [packetLength]) a.deserialize_serialize]
    rfl
  | controlCmd cmd =>
    show (readControlCmd digest (cmd.serialize ++ rest)).map _ = _
    rw [readControlCmd, readMessage_append (by simp [packetLength]) cmd.deserialize_serialize]
    rfl
  | dataCmd cmd =>
    show (readDataCmd digest (cmd.serialize ++ rest)).map _ = _
    rw [readDataCmd, readMessage_append (by simp [packetLength]) cmd.deserialize_serialize]
    rfl

theorem readPacket_ok {kind : Kind} {stream rest : List UInt8} {p : Packet}
    (read : readPacket digest kind stream = .ok (p, rest)) :
    ∃ front, stream = front ++ rest ∧ front.length = kind.packetLen digest ∧ p.kind = kind := by
  have mapped : ∀ {A : Type} {x : Except String (A × List UInt8)} {f : A → Packet},
      x.map (fun r => (f r.1, r.2)) = .ok (p, rest) → ∃ a, x = .ok (a, rest) ∧ p = f a := by
    intro A x f same
    cases x with
    | error reason => cases same
    | ok r =>
      cases same
      exact ⟨r.1, rfl, rfl⟩
  cases kind with
  | hello =>
    obtain ⟨hello, same, whole⟩ := mapped read
    obtain ⟨front, stream, width, -⟩ := readMessage_ok (readHello_ok digest same).1
    exact ⟨front, stream, width, by rw [whole]; rfl⟩
  | auth =>
    obtain ⟨a, same, whole⟩ := mapped read
    obtain ⟨front, stream, width, -⟩ := readMessage_ok same
    exact ⟨front, stream, width, by rw [whole]; rfl⟩
  | ack =>
    obtain ⟨a, same, whole⟩ := mapped read
    obtain ⟨front, stream, width, -⟩ := readMessage_ok same
    exact ⟨front, stream, width, by rw [whole]; rfl⟩
  | controlCmd =>
    obtain ⟨cmd, same, whole⟩ := mapped read
    obtain ⟨front, stream, width, -⟩ := readMessage_ok same
    exact ⟨front, stream, width, by rw [whole]; rfl⟩
  | dataCmd =>
    obtain ⟨cmd, same, whole⟩ := mapped read
    obtain ⟨front, stream, width, -⟩ := readMessage_ok same
    exact ⟨front, stream, width, by rw [whole]; rfl⟩

end Exact

section Hello

/-- The tag, the version and the digest. -/
theorem hello_parts {bytes : List UInt8} (width : bytes.length = 37) :
    ∃ (tag : List UInt8) (version : UInt8) (d : Digest),
      bytes = tag ++ version :: d.bytes ∧ tag.length = 4 ∧ bytes.take 4 = tag ∧
      bytes[4]? = some version := by
  have tag : (bytes.take 4).length = 4 := by simp [width]
  have behind : (bytes.drop 4).length = 33 := by simp [width]
  obtain ⟨version, rest, same⟩ := List.exists_cons_of_length_pos
    (show 0 < (bytes.drop 4).length by omega)
  have short : rest.length = hashWidthInBytes := by
    rw [same, List.length_cons] at behind
    exact Nat.succ.inj behind
  refine ⟨bytes.take 4, version, ⟨rest, short⟩, ?_, tag, rfl, ?_⟩
  · rw [← same, List.take_append_drop]
  · have head : (bytes.drop 4)[0]? = some version := by rw [same]; rfl
    rwa [List.getElem?_drop] at head

theorem Hello.deserialize_parts {tag : List UInt8} (width : tag.length = 4) (version : UInt8)
    (d : Digest) : Hello.deserialize (tag ++ version :: d.bytes) =
      if ofLeBytes tag = 0 then some (controlChannelHello version d)
      else if ofLeBytes tag = 1 then some (dataChannelHello version d) else none := by
  have variant : deserializeVariant (tag ++ version :: d.bytes) =
      some (ofLeBytes tag, version :: d.bytes) := by
    rw [deserializeVariant, Bytes.split_append width, Option.map_some]
  unfold Hello.deserialize
  rw [variant]
  match ofLeBytes tag with
  | 0 => simp [deserializeDigest_bytes]
  | 1 => simp [deserializeDigest_bytes]
  | n + 2 => simp

/-- What was read is what the bytes say. -/
theorem Hello.serialize_of_deserialize {bytes : List UInt8} {hello : Hello}
    (width : bytes.length = 37) (read : Hello.deserialize bytes = some hello) :
    hello.serialize = bytes := by
  obtain ⟨tag, version, d, same, four, -⟩ := hello_parts width
  have written : leBytes 4 (ofLeBytes tag) = tag := four ▸ Bytes.leBytes_ofLeBytes tag
  rw [same, deserialize_parts four] at read
  split at read
  · next zero =>
    cases read
    rw [serialize, serializeVariant, ← zero, written, same]
  · split at read
    · next one =>
      cases read
      rw [serialize, serializeVariant, ← one, written, same]
    · cases read

theorem readHello_whole (digest : List UInt8 → Digest) {bytes : List UInt8}
    (width : bytes.length = 37) {hello : Hello} {rest : List UInt8} :
    readHello digest bytes = .ok (hello, rest) ↔
      Hello.deserialize bytes = some hello ∧ hello.version = currentProtoVersion ∧ rest = [] := by
  constructor
  · intro read
    obtain ⟨message, current⟩ := readHello_ok digest read
    obtain ⟨front, same, taken, value⟩ := readMessage_ok message
    have nothing : rest = [] := by
      have total := congrArg List.length same
      rw [List.length_append, taken, width, packetLength] at total
      exact List.length_eq_zero_iff.mp (by simpa using total)
    subst nothing
    rw [List.append_nil] at same
    exact ⟨same ▸ value, current, rfl⟩
  · intro parts
    obtain ⟨value, current, nothing⟩ := parts
    have written := Hello.serialize_of_deserialize width value
    have read := readHello_append digest current []
    rwa [List.append_nil, written, ← nothing] at read

/-- A hello is accepted by its tag and its version. -/
theorem readHello_iff (digest : List UInt8 → Digest) {bytes : List UInt8}
    (width : bytes.length = 37) :
    (∃ hello rest, readHello digest bytes = .ok (hello, rest)) ↔
      (ofLeBytes (bytes.take 4) = 0 ∨ ofLeBytes (bytes.take 4) = 1) ∧
        bytes[4]? = some currentProtoVersion := by
  obtain ⟨tag, version, d, same, four, front, byte⟩ := hello_parts width
  have parts := Hello.deserialize_parts four version d
  simp only [readHello_whole digest width, front, byte, Option.some.injEq]
  rw [same, parts]
  constructor
  · intro read
    obtain ⟨hello, rest, value, current, -⟩ := read
    split at value
    · next zero =>
      cases value
      exact ⟨Or.inl zero, current⟩
    · split at value
      · next one =>
        cases value
        exact ⟨Or.inr one, current⟩
      · cases value
  · intro accepted
    obtain ⟨zero | one, current⟩ := accepted
    · exact ⟨_, [], if_pos zero, current, rfl⟩
    · have nonzero : ofLeBytes tag ≠ 0 := by omega
      exact ⟨_, [], (if_neg nonzero).trans (if_pos one), current, rfl⟩

end Hello

/-- What the readers make of what the two programs write, and of any bytes. -/
structure Framed (digest : List UInt8 → Digest) : Prop where
  /-- the messages of one side come back in their order, and what follows them is left -/
  script : ∀ (s : Script) (rest : List UInt8),
    (format digest).readAll (s.packets.map Packet.kind)
      ((format digest).writeAll s.packets ++ rest) = .ok (s.packets, rest)
  /-- so do they in any other order -/
  sequence : ∀ (packets : List Packet) (rest : List UInt8), (∀ p ∈ packets, p.current) →
    (format digest).readAll (packets.map Packet.kind)
      ((format digest).writeAll packets ++ rest) = .ok (packets, rest)
  consumed : ∀ (kind : Kind) (stream rest : List UInt8) (p : Packet),
    readPacket digest kind stream = .ok (p, rest) →
      ∃ front, stream = front ++ rest ∧ front.length = kind.packetLen digest ∧ p.kind = kind
  accepted : ∀ bytes : List UInt8, bytes.length = (PacketLength.new digest).hello →
    ((∃ hello rest, readHello digest bytes = .ok (hello, rest)) ↔
      (ofLeBytes (bytes.take 4) = 0 ∨ ofLeBytes (bytes.take 4) = 1) ∧
        bytes[4]? = some currentProtoVersion)
  canonical : ∀ (bytes rest : List UInt8) (hello : Hello),
    bytes.length = (PacketLength.new digest).hello →
    readHello digest bytes = .ok (hello, rest) → rest = [] ∧ hello.serialize = bytes

theorem current_of_script (s : Script) : ∀ p ∈ s.packets, p.current := by
  intro p member
  cases s with
  | controlClient service sessionKey =>
    simp only [Script.packets, List.mem_cons, List.not_mem_nil, or_false] at member
    rcases member with rfl | rfl
    · rfl
    · trivial
  | controlServer nonce ack cmds =>
    simp only [Script.packets, List.mem_cons, List.mem_map] at member
    rcases member with rfl | rfl | ⟨cmd, -, rfl⟩
    · rfl
    · trivial
    · trivial
  | dataClient sessionKey =>
    rw [List.mem_singleton.mp member]
    rfl
  | dataServer cmd =>
    rw [List.mem_singleton.mp member]
    trivial

/-- The fixed lengths frame every message, whatever the digest function is. -/
theorem framed (digest : List UInt8 → Digest) : Framed digest where
  script s rest := by
    apply (format digest).readAll_writeAll
    intro p member
    exact exact_of_current digest (current_of_script s p member)
  sequence packets rest current := by
    apply (format digest).readAll_writeAll
    intro p member
    exact exact_of_current digest (current p member)
  consumed kind stream rest p read := readPacket_ok digest read
  accepted bytes width := readHello_iff digest (by rw [width, packetLength])
  canonical bytes rest hello width read := by
    have width : bytes.length = 37 := by rw [width, packetLength]
    obtain ⟨value, -, nothing⟩ := (readHello_whole digest width).mp read
    exact ⟨nothing, Hello.serialize_of_deserialize width value⟩

end Rathole.Protocol
