import Rathole.ControlLane

set_option autoImplicit false

/- The client and the server of a control channel agree, whatever fails. -/
namespace Rathole.ControlSession

open Transition.System (Run Free Reachable)
open Protocol (Digest Hello Auth Ack ControlChannelCmd Packet Kind format readPacket readHello
  readAuth readAck readControlCmd PacketLength currentProtoVersion)

variable {x : Setup} {s t : State}

/-- The service that the server finds has a token. -/
def Setup.Finds (x : Setup) (d : Digest) (found : ServerServiceConfig) (token : MaskedString) :
    Prop :=
  x.services d = some found ∧ found.token = some token

/-- The key is that of the client's own token. -/
def Setup.Own (x : Setup) (nonce key : Digest) : Prop :=
  ∃ own, x.service.token = some own ∧ x.key own nonce = key

def Client.Checked (x : Setup) : Client → Prop
  | .greeting left => left ≠ []
  | .readingHello => True
  | .authenticating nonce key left => x.Own nonce key ∧ left ≠ []
  | .readingAck nonce key => x.Own nonce key
  | .rejected nonce key ack => x.Own nonce key ∧ ack ≠ .ok
  | .connected nonce key _ => x.Own nonce key

def Server.Checked (x : Setup) : Server → Prop
  | .readingHello | .lookup _ _ => True
  | .dataChannel => False
  | .greeting _ _ left => left ≠ []
  | .rejecting service _ _ => x.services service = none
  | .readingAuth service _ found token => x.Finds service found token
  | .refusing service nonce found token auth _ =>
    x.Finds service found token ∧ x.key token nonce ≠ auth.digest
  | .accepting service nonce found token auth left =>
    (x.Finds service found token ∧ x.key token nonce = auth.digest) ∧ left ≠ []
  | .registering service nonce found token auth | .running service nonce found token auth _ _ =>
    x.Finds service found token ∧ x.key token nonce = auth.digest

structure Sound (x : Setup) (s : State) : Prop where
  up : Lane x.digest (s.client.written x) s.server.read s.up s.client.left
  down : Lane x.digest s.server.written s.client.read s.down s.server.left
  client : s.client.Checked x
  server : s.server.Checked x

section Steps

theorem sound_start (x : Setup) : Sound x x.start := by
  refine ⟨⟨[helloPacket x.serviceDigest], rfl, ?_, ?_⟩, ⟨[], rfl, rfl, ?_⟩, ?_, trivial⟩
  · exact List.append_nil _
  · intro p member
    rw [List.mem_singleton.mp member]
    rfl
  · intro p member
    exact absurd member List.not_mem_nil
  · exact List.ne_nil_of_length_pos (by rw [Hello.length_serialize]; decide)

theorem Sound.clientEnd (sound : Sound x s) : Sound x s.clientEnd :=
  ⟨sound.up, sound.down, sound.client, sound.server⟩

theorem Sound.serverEnd (sound : Sound x s) : Sound x s.serverEnd :=
  ⟨sound.up, sound.down, sound.client, sound.server⟩

theorem Sound.clientBroken {len : Nat} (sound : Sound x s) (moved : s.clientBroken len = some t) :
    Sound x t := by
  obtain ⟨-, ⟨⟩⟩ := Option.ite_none_left_eq_some.mp moved
  exact sound.clientEnd

theorem Sound.serverBroken {len : Nat} (sound : Sound x s) (moved : s.serverBroken len = some t) :
    Sound x t := by
  obtain ⟨-, ⟨⟩⟩ := Option.ite_none_left_eq_some.mp moved
  exact sound.serverEnd

theorem Sound.clientWrite {count : Nat} (sound : Sound x s)
    (moved : s.clientWrite count = some t) : Sound x t := by
  obtain ⟨client, clientOpen, server, serverOpen, up, down⟩ := s
  obtain ⟨upward, downward, mine, other⟩ := sound
  obtain ⟨-, moved⟩ := Option.ite_none_right_eq_some.mp moved
  have later := upward.write count
  cases client with
  | greeting left =>
    obtain ⟨-, ⟨⟩⟩ := Option.ite_none_right_eq_some.mp moved
    by_cases all : left.drop count = []
    · simp only [if_pos all]
      simp only [Client.left, all] at later
      exact ⟨later, downward, trivial, other⟩
    · simp only [if_neg all]
      exact ⟨later, downward, all, other⟩
  | authenticating nonce key left =>
    obtain ⟨-, ⟨⟩⟩ := Option.ite_none_right_eq_some.mp moved
    by_cases all : left.drop count = []
    · simp only [if_pos all]
      simp only [Client.left, all] at later
      exact ⟨later, downward, mine.1, other⟩
    · simp only [if_neg all]
      exact ⟨later, downward, ⟨mine.1, all⟩, other⟩
  | _ => cases moved

theorem Sound.serverWrite {count : Nat} (sound : Sound x s)
    (moved : s.serverWrite count = some t) : Sound x t := by
  obtain ⟨client, clientOpen, server, serverOpen, up, down⟩ := s
  obtain ⟨upward, downward, other, mine⟩ := sound
  obtain ⟨-, moved⟩ := Option.ite_none_right_eq_some.mp moved
  have later := downward.write count
  cases server with
  | greeting service nonce left =>
    obtain ⟨-, ⟨⟩⟩ := Option.ite_none_right_eq_some.mp moved
    by_cases all : left.drop count = []
    · simp only [if_pos all]
      simp only [Server.left, all] at later
      exact ⟨upward, later, other, trivial⟩
    · simp only [if_neg all]
      exact ⟨upward, later, other, all⟩
  | rejecting service nonce left =>
    obtain ⟨-, ⟨⟩⟩ := Option.ite_none_right_eq_some.mp moved
    exact ⟨upward, later, other, mine⟩
  | refusing service nonce found token auth left =>
    obtain ⟨-, ⟨⟩⟩ := Option.ite_none_right_eq_some.mp moved
    exact ⟨upward, later, other, mine⟩
  | accepting service nonce found token auth left =>
    obtain ⟨-, ⟨⟩⟩ := Option.ite_none_right_eq_some.mp moved
    by_cases all : left.drop count = []
    · simp only [if_pos all]
      simp only [Server.left, all] at later
      exact ⟨upward, later, other, mine.1⟩
    · simp only [if_neg all]
      exact ⟨upward, later, other, mine.1, all⟩
  | running service nonce found token auth cmds left =>
    obtain ⟨-, ⟨⟩⟩ := Option.ite_none_right_eq_some.mp moved
    exact ⟨upward, later, other, mine⟩
  | _ => cases moved

/-- The first packet of the server carries its nonce. -/
theorem Server.head {server : Server} {p : Packet} (head : [p] <+: server.written) :
    ∃ nonce, p = helloPacket nonce := by
  cases server with
  | readingHello | dataChannel => exact absurd (List.prefix_nil.mp head) (List.cons_ne_nil _ _)
  | _ => exact ⟨_, (List.cons_prefix_cons.mp head).1⟩

theorem Client.head {client : Client} {p : Packet} (head : [p] <+: client.written x) :
    p = helloPacket x.serviceDigest := by
  cases client <;> exact (List.cons_prefix_cons.mp head).1

theorem Sound.serverHello {nonce : Digest} (sound : Sound x s)
    (moved : s.serverHello x nonce = some t) : Sound x t := by
  obtain ⟨client, clientOpen, server, serverOpen, up, down⟩ := s
  have broken := fun len => @Sound.serverBroken x _ t len sound
  obtain ⟨upward, downward, other, mine⟩ := sound
  obtain ⟨-, moved⟩ := Option.ite_none_right_eq_some.mp moved
  cases server with
  | readingHello =>
    cases got : readHello x.digest up with
    | error message =>
      simp only [got] at moved
      exact broken _ moved
    | ok result =>
      obtain ⟨hello, rest⟩ := result
      have packet : readPacket x.digest .hello up = .ok (.hello hello, rest) := by
        simp only [readPacket, got]
        rfl
      have later := upward.read (Client.kinds x client).1 packet
      have first := Client.head later.prefix_
      cases hello with
      | dataChannelHello version d => cases first
      | controlChannelHello version d =>
        cases first
        simp only [got] at moved
        cases moved
        refine ⟨later, downward.put (p := helloPacket nonce) rfl, other, ?_⟩
        exact List.ne_nil_of_length_pos (by rw [Hello.length_serialize]; decide)
  | _ => cases moved

theorem Sound.clientRead (sound : Sound x s) (moved : s.clientRead x = some t) : Sound x t := by
  obtain ⟨client, clientOpen, server, serverOpen, up, down⟩ := s
  have broken := fun len => @Sound.clientBroken x _ t len sound
  have ended := sound.clientEnd
  obtain ⟨upward, downward, mine, other⟩ := sound
  obtain ⟨-, moved⟩ := Option.ite_none_right_eq_some.mp moved
  cases client with
  | readingHello =>
    cases got : readHello x.digest down with
    | error message =>
      simp only [got] at moved
      exact broken _ moved
    | ok result =>
      obtain ⟨hello, rest⟩ := result
      have packet : readPacket x.digest .hello down = .ok (.hello hello, rest) := by
        simp only [readPacket, got]
        rfl
      have later := downward.read (Server.kinds server).1 packet
      obtain ⟨nonce', first⟩ := Server.head later.prefix_
      cases hello with
      | dataChannelHello version d => cases first
      | controlChannelHello version nonce =>
        cases first
        simp only [got] at moved
        cases given : x.service.token with
        | none =>
          rw [given] at moved
          cases moved
          exact ended
        | some own =>
          rw [given] at moved
          cases moved
          refine ⟨upward.put (p := .auth ⟨x.key own nonce'⟩) trivial, later,
            ⟨⟨own, given, rfl⟩, ?_⟩, other⟩
          exact List.ne_nil_of_length_pos (by rw [Auth.length_serialize]; decide)
  | readingAck nonce key =>
    cases got : readAck x.digest down with
    | error message =>
      simp only [got] at moved
      exact broken _ moved
    | ok result =>
      obtain ⟨ack, rest⟩ := result
      have packet : readPacket x.digest .ack down = .ok (.ack ack, rest) := by
        simp only [readPacket, got]
        rfl
      have later := downward.read (Server.kinds server).2.1 packet
      cases ack with
      | ok =>
        simp only [got] at moved
        cases moved
        exact ⟨upward, later, mine, other⟩
      | serviceNotExist | authFailed =>
        simp only [got] at moved
        cases moved
        exact ⟨upward, later, ⟨mine, Ack.noConfusion⟩, other⟩
  | connected nonce key cmds =>
    cases got : readControlCmd x.digest down with
    | error message =>
      simp only [got] at moved
      exact broken _ moved
    | ok result =>
      obtain ⟨cmd, rest⟩ := result
      have packet : readPacket x.digest .controlCmd down = .ok (.controlCmd cmd, rest) := by
        simp only [readPacket, got]
        rfl
      simp only [got] at moved
      cases moved
      refine ⟨upward, ?_, mine, other⟩
      have later := downward.read (fun m found => (Server.kinds server).2.2 cmds.length m (by
        simpa [Client.read] using found)) packet
      simpa [Client.read] using later
  | _ => cases moved

theorem Sound.serverLookup (sound : Sound x s) (moved : s.serverLookup x = some t) :
    Sound x t := by
  obtain ⟨client, clientOpen, server, serverOpen, up, down⟩ := s
  have ended := sound.serverEnd
  obtain ⟨upward, downward, other, mine⟩ := sound
  obtain ⟨-, moved⟩ := Option.ite_none_right_eq_some.mp moved
  cases server with
  | lookup d nonce =>
    cases held : x.services d with
    | none =>
      simp only [held] at moved
      cases moved
      exact ⟨upward, downward.put (p := .ack .serviceNotExist) trivial, other, held⟩
    | some found =>
      simp only [held] at moved
      cases given : found.token with
      | none =>
        simp only [given] at moved
        cases moved
        exact ended
      | some token =>
        simp only [given] at moved
        cases moved
        exact ⟨upward, downward, other, held, given⟩
  | _ => cases moved

theorem digestEq_key {key : Digest} {auth : Auth} :
    Server.digestEq key.bytes auth.digest.bytes = true ↔ key = auth.digest := by
  rw [Server.digestEq_iff (key.width.trans auth.digest.width.symm)]
  constructor
  · intro same
    cases key
    cases auth with
    | mk d =>
      cases d
      cases same
      rfl
  · rintro rfl
    rfl

theorem Sound.serverAuth (sound : Sound x s) (moved : s.serverAuth x = some t) : Sound x t := by
  obtain ⟨client, clientOpen, server, serverOpen, up, down⟩ := s
  have broken := fun len => @Sound.serverBroken x _ t len sound
  obtain ⟨upward, downward, other, mine⟩ := sound
  obtain ⟨-, moved⟩ := Option.ite_none_right_eq_some.mp moved
  cases server with
  | readingAuth service nonce found token =>
    cases got : readAuth x.digest up with
    | error message =>
      simp only [got] at moved
      exact broken _ moved
    | ok result =>
      obtain ⟨auth, rest⟩ := result
      have packet : readPacket x.digest .auth up = .ok (.auth auth, rest) := by
        simp only [readPacket, got]
        rfl
      have later := upward.read (Client.kinds x client).2 packet
      simp only [got] at moved
      by_cases same : Server.digestEq (x.key token nonce).bytes auth.digest.bytes = true
      · rw [if_pos same] at moved
        cases moved
        refine ⟨later, downward.put (p := .ack .ok) trivial, other,
          ⟨mine, digestEq_key.mp same⟩, ?_⟩
        exact List.ne_nil_of_length_pos (by rw [Ack.length_serialize]; decide)
      · rw [if_neg same] at moved
        cases moved
        exact ⟨later, downward.put (p := .ack .authFailed) trivial, other, mine,
          mt digestEq_key.mpr same⟩
  | _ => cases moved

theorem Sound.register (sound : Sound x s) (moved : s.register = some t) : Sound x t := by
  obtain ⟨client, clientOpen, server, serverOpen, up, down⟩ := s
  obtain ⟨upward, downward, other, mine⟩ := sound
  obtain ⟨-, moved⟩ := Option.ite_none_right_eq_some.mp moved
  cases server with
  | registering service nonce found token auth =>
    cases moved
    exact ⟨upward, downward, other, mine⟩
  | _ => cases moved

theorem Sound.command {cmd : ControlChannelCmd} (sound : Sound x s)
    (moved : s.command cmd = some t) : Sound x t := by
  obtain ⟨client, clientOpen, server, serverOpen, up, down⟩ := s
  obtain ⟨upward, downward, other, mine⟩ := sound
  obtain ⟨-, moved⟩ := Option.ite_none_right_eq_some.mp moved
  cases server with
  | running service nonce found token auth cmds left =>
    cases left with
    | cons byte left => cases moved
    | nil =>
      cases moved
      refine ⟨upward, ?_, other, mine⟩
      have later := downward.put (p := .controlCmd cmd) trivial
      change Lane x.digest ([helloPacket nonce, .ack .ok] ++ (cmds ++ [cmd]).map .controlCmd) _ _ _
      rw [List.map_append, ← List.append_assoc]
      exact later
  | _ => cases moved

theorem sound_step {a : Action} (sound : Sound x s) (moved : step x s a = some t) : Sound x t := by
  cases a with
  | clientWrite count => exact sound.clientWrite moved
  | clientRead => exact sound.clientRead moved
  | serverWrite count => exact sound.serverWrite moved
  | serverHello nonce => exact sound.serverHello moved
  | serverLookup => exact sound.serverLookup moved
  | serverAuth => exact sound.serverAuth moved
  | register => exact sound.register moved
  | command cmd => exact sound.command moved
  | clientFail =>
    obtain ⟨-, ⟨⟩⟩ := Option.ite_none_right_eq_some.mp moved
    exact sound.clientEnd
  | serverFail =>
    obtain ⟨-, ⟨⟩⟩ := Option.ite_none_right_eq_some.mp moved
    exact sound.serverEnd

theorem sound_of_run {ok : State → Action → Prop} {as : List Action}
    (run : (system x).Run ok x.start as s) : Sound x s :=
  run.invariant (I := Sound x) (fun _ _ _ _ moved sound => sound_step sound moved) (sound_start x)

end Steps

/-- The server has found the service of the client, and both have the same session key. -/
structure Setup.Admits (x : Setup) (nonce key : Digest) (found : ServerServiceConfig)
    (token : MaskedString) : Prop where
  finds : x.Finds x.serviceDigest found token
  same : x.key token nonce = key
  own : x.Own nonce key

/-- The service is missing, or its token leads to another session key. -/
def Setup.Refuses (x : Setup) (nonce key : Digest) : Ack → Prop
  | .ok => False
  | .serviceNotExist => x.services x.serviceDigest = none
  | .authFailed => ∃ found token, x.Finds x.serviceDigest found token ∧ x.key token nonce ≠ key

/-- What each side may conclude from where it stands. -/
structure Agrees (x : Setup) (s : State) : Prop where
  connected : ∀ nonce key cmds, s.client = .connected nonce key cmds →
    ∃ found token, x.Admits nonce key found token ∧
      (s.server = .registering x.serviceDigest nonce found token ⟨key⟩ ∧ cmds = [] ∨
        ∃ written left, s.server = .running x.serviceDigest nonce found token ⟨key⟩ written left ∧
          cmds <+: written)
  running : ∀ d nonce found token auth written left,
    s.server = .running d nonce found token auth written left →
      d = x.serviceDigest ∧ x.Admits nonce auth.digest found token ∧
        (s.client = .readingAck nonce auth.digest ∨
          ∃ cmds, s.client = .connected nonce auth.digest cmds ∧ cmds <+: written)
  rejected : ∀ nonce key ack, s.client = .rejected nonce key ack →
    x.Own nonce key ∧ x.Refuses nonce key ack

section Agreement

theorem helloPacket_inj {d e : Digest} (same : helloPacket d = helloPacket e) : d = e := by
  cases same
  rfl

/-- Commands that were read are a front of those that were written. -/
theorem prefix_of_packets {cmds written : List ControlChannelCmd}
    (front : cmds.map Packet.controlCmd <+: written.map Packet.controlCmd) : cmds <+: written := by
  obtain ⟨rest, same⟩ := front
  obtain ⟨first, second, rfl, left, -⟩ := List.map_eq_append_iff.mp same.symm
  have injective : Function.Injective Packet.controlCmd := fun a b same => by
    cases same
    rfl
  rw [← List.map_injective_iff.mpr injective left]
  exact List.prefix_append _ _

/-- A server that has read an auth has read that of the client, for its service. -/
theorem Sound.authenticated {d : Digest} {auth : Auth} (sound : Sound x s)
    (read : s.server.read = [helloPacket d, .auth auth]) :
    d = x.serviceDigest ∧ s.client.written x = [helloPacket x.serviceDigest, .auth auth] ∧
      s.client.left = [] := by
  have front := sound.up.prefix_
  have lane := sound.up
  rw [read] at front lane
  cases phase : s.client with
  | greeting left | readingHello =>
    rw [phase] at front
    exact absurd (List.cons_prefix_cons.mp front).2 (by simp)
  | _ =>
    rw [phase] at front lane
    obtain ⟨first, second⟩ := List.cons_prefix_cons.mp front
    obtain ⟨second, -⟩ := List.cons_prefix_cons.mp second
    cases helloPacket_inj first
    cases second
    exact ⟨rfl, rfl, lane.done.2⟩

theorem Sound.client_of_auth {auth : Auth} (sound : Sound x s)
    (written : s.client.written x = [helloPacket x.serviceDigest, .auth auth])
    (left : s.client.left = []) : ∃ nonce, x.Own nonce auth.digest ∧
      (s.client = .readingAck nonce auth.digest ∨ (∃ ack, ack ≠ .ok ∧
        s.client = .rejected nonce auth.digest ack) ∨
          ∃ cmds, s.client = .connected nonce auth.digest cmds) := by
  have checked := sound.client
  cases phase : s.client with
  | greeting left | readingHello =>
    rw [phase] at written
    exact absurd (congrArg List.length written) (by simp [Client.written])
  | authenticating nonce key rest =>
    rw [phase] at left checked
    exact absurd left checked.2
  | readingAck nonce key =>
    rw [phase] at written checked
    cases written
    exact ⟨nonce, checked, .inl rfl⟩
  | rejected nonce key ack =>
    rw [phase] at written checked
    cases written
    exact ⟨nonce, checked.1, .inr (.inl ⟨ack, checked.2, rfl⟩)⟩
  | connected nonce key cmds =>
    rw [phase] at written checked
    cases written
    exact ⟨nonce, checked, .inr (.inr ⟨cmds, rfl⟩)⟩

theorem Sound.connected {nonce key : Digest} {cmds : List ControlChannelCmd} (sound : Sound x s)
    (phase : s.client = .connected nonce key cmds) :
    ∃ found token, x.Admits nonce key found token ∧
      (s.server = .registering x.serviceDigest nonce found token ⟨key⟩ ∧ cmds = [] ∨
        ∃ written left, s.server = .running x.serviceDigest nonce found token ⟨key⟩ written left ∧
          cmds <+: written) := by
  have own := sound.client
  have front := sound.down.prefix_
  have lane := sound.down
  rw [phase] at own front lane
  have checked := sound.server
  have read := fun d auth => @Sound.authenticated x s d auth sound
  cases other : s.server with
  | readingHello | dataChannel =>
    rw [other] at front
    exact absurd (List.prefix_nil.mp front) (by simp [Client.read])
  | greeting | lookup | readingAuth =>
    rw [other] at front
    exact absurd (List.cons_prefix_cons.mp front).2 (by simp)
  | rejecting | refusing =>
    rw [other] at front
    cases (List.cons_prefix_cons.mp (List.cons_prefix_cons.mp front).2).1
  | accepting d nonce' found token auth left =>
    rw [other] at front lane checked
    have short := front.length_le
    simp only [Client.read, Server.written, List.length_append, List.length_map, List.length_cons,
      List.length_nil] at short
    cases List.length_eq_zero_iff.mp (show cmds.length = 0 by omega)
    cases helloPacket_inj (List.cons_prefix_cons.mp front).1
    exact absurd lane.done.2 checked.2
  | registering d nonce' found token auth =>
    rw [other] at front checked read
    have short := front.length_le
    simp only [Client.read, Server.written, List.length_append, List.length_map, List.length_cons,
      List.length_nil] at short
    cases List.length_eq_zero_iff.mp (show cmds.length = 0 by omega)
    cases helloPacket_inj (List.cons_prefix_cons.mp front).1
    obtain ⟨rfl, written, -⟩ := read _ _ rfl
    rw [phase] at written
    cases written
    exact ⟨found, token, ⟨checked.1, checked.2, own⟩, .inl ⟨rfl, rfl⟩⟩
  | running d nonce' found token auth written left =>
    rw [other] at front checked read
    obtain ⟨first, second⟩ := List.cons_prefix_cons.mp front
    cases helloPacket_inj first
    obtain ⟨rfl, auths, -⟩ := read _ _ rfl
    rw [phase] at auths
    cases auths
    exact ⟨found, token, ⟨checked.1, checked.2, own⟩,
      .inr ⟨written, left, rfl, prefix_of_packets (List.cons_prefix_cons.mp second).2⟩⟩

theorem Sound.running {d nonce : Digest} {found : ServerServiceConfig} {token : MaskedString}
    {auth : Auth} {written : List ControlChannelCmd} {left : List UInt8} (sound : Sound x s)
    (phase : s.server = .running d nonce found token auth written left) :
    d = x.serviceDigest ∧ x.Admits nonce auth.digest found token ∧
      (s.client = .readingAck nonce auth.digest ∨
        ∃ cmds, s.client = .connected nonce auth.digest cmds ∧ cmds <+: written) := by
  have checked := sound.server
  have front := sound.down.prefix_
  rw [phase] at checked front
  obtain ⟨rfl, auths, nothing⟩ := @Sound.authenticated x s d auth sound (by rw [phase]; rfl)
  obtain ⟨nonce', own, reading | ⟨ack, other, rejected⟩ | ⟨cmds, connected⟩⟩ :=
    sound.client_of_auth auths nothing
  · rw [reading] at front
    cases helloPacket_inj (List.cons_prefix_cons.mp front).1
    exact ⟨rfl, ⟨checked.1, checked.2, own⟩, .inl reading⟩
  · rw [rejected] at front
    cases (List.cons_prefix_cons.mp (List.cons_prefix_cons.mp front).2).1
    exact absurd rfl other
  · rw [connected] at front
    obtain ⟨first, second⟩ := List.cons_prefix_cons.mp front
    cases helloPacket_inj first
    exact ⟨rfl, ⟨checked.1, checked.2, own⟩,
      .inr ⟨cmds, connected, prefix_of_packets (List.cons_prefix_cons.mp second).2⟩⟩

theorem Sound.rejected {nonce key : Digest} {ack : Ack} (sound : Sound x s)
    (phase : s.client = .rejected nonce key ack) : x.Own nonce key ∧ x.Refuses nonce key ack := by
  have own := sound.client
  have front := sound.down.prefix_
  rw [phase] at own front
  have checked := sound.server
  have read := fun d auth => @Sound.authenticated x s d auth sound
  have up := sound.up.prefix_
  refine ⟨own.1, ?_⟩
  cases other : s.server with
  | readingHello | dataChannel =>
    rw [other] at front
    exact absurd (List.prefix_nil.mp front) (by simp [Client.read])
  | greeting | lookup | readingAuth =>
    rw [other] at front
    exact absurd (List.cons_prefix_cons.mp front).2 (by simp)
  | accepting | registering | running =>
    rw [other] at front
    cases (List.cons_prefix_cons.mp (List.cons_prefix_cons.mp front).2).1
    exact absurd rfl own.2
  | rejecting d nonce' left =>
    rw [other] at front checked up
    cases (List.cons_prefix_cons.mp (List.cons_prefix_cons.mp front).2).1
    cases Client.head up
    exact checked
  | refusing d nonce' found token auth left =>
    rw [other] at front checked read
    obtain ⟨first, second⟩ := List.cons_prefix_cons.mp front
    cases helloPacket_inj first
    cases (List.cons_prefix_cons.mp second).1
    obtain ⟨rfl, auths, -⟩ := read _ _ rfl
    rw [phase] at auths
    cases auths
    exact ⟨found, token, checked⟩

/-- A client that is connected has the session key of a control channel that the server has let in
for its service, and has read the commands of this channel in order; a client that was rejected
was rejected rightly. Any error may end either side at any point. -/
theorem sessions_agree (x : Setup) (s : State) (reached : (system x).Reachable s) :
    Agrees x s := by
  obtain ⟨start, as, rfl, run⟩ := reached
  have sound := sound_of_run run
  exact ⟨fun _ _ _ => sound.connected, fun _ _ _ _ _ _ _ => sound.running,
    fun _ _ _ => sound.rejected⟩

end Agreement

end Rathole.ControlSession
