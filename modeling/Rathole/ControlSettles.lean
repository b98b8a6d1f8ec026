import Rathole.ControlAgreement

set_option autoImplicit false

/- Without errors a control channel comes to rest, and its end is the one that the tokens decide. -/
namespace Rathole.ControlSession

open Protocol (Digest Hello Auth Ack ControlChannelCmd Packet Kind format readPacket readHello
  readAuth readAck readControlCmd PacketLength)

variable {x : Setup} {s t : State} {a : Action}

/-- Neither a command nor an error, which come from outside. -/
def Action.isOwn : Action → Bool
  | .command _ | .clientFail | .serverFail => false
  | _ => true

def Action.isFail : Action → Bool
  | .clientFail | .serverFail => true
  | _ => false

def Smooth : State → Action → Prop := fun _ a => a.isFail = false

def Resting (x : Setup) (s : State) : Prop := ∀ a : Action, a.isOwn = true → step x s a = none

section Work

def Client.work : Client → Nat
  | .greeting left => 66 + 2 * left.length
  | .readingHello => 66
  | .authenticating _ _ left => 1 + 2 * left.length
  | .readingAck _ _ => 1
  | _ => 0

def Server.work : Server → Nat
  | .readingHello => 87
  | .greeting _ _ left => 12 + 2 * left.length
  | .lookup _ _ => 11
  | .readingAuth _ _ _ _ => 10
  | .accepting _ _ _ _ _ left => 1 + 2 * left.length
  | .registering _ _ _ _ _ => 1
  | .rejecting _ _ left | .refusing _ _ _ _ _ left | .running _ _ _ _ _ _ left => 2 * left.length
  | .dataChannel => 0

/-- What is left to do before the next command. -/
def State.work (s : State) : Nat :=
  s.client.work + s.clientOpen.toNat + s.server.work + s.serverOpen.toNat + s.up.length +
    s.down.length

theorem rest_lt {digest : List UInt8 → Digest} {kind : Kind} {stream rest : List UInt8} {p : Packet}
    (got : readPacket digest kind stream = .ok (p, rest)) : rest.length < stream.length := by
  obtain ⟨front, rfl, width, -⟩ := Protocol.readPacket_ok digest got
  have pos := packetLen_pos digest kind
  rw [List.length_append]
  omega

theorem length_all {left : List UInt8} {count : Nat} (all : left.drop count = []) :
    left.length ≤ count := List.drop_eq_nil_iff.mp all

theorem clientBroken_work {len : Nat} (open_ : s.clientOpen = true)
    (moved : s.clientBroken len = some t) : t.work < s.work := by
  obtain ⟨-, ⟨⟩⟩ := Option.ite_none_left_eq_some.mp moved
  simp only [State.work, State.clientEnd, open_, Bool.toNat_false, Bool.toNat_true]
  omega

theorem serverBroken_work {len : Nat} (open_ : s.serverOpen = true)
    (moved : s.serverBroken len = some t) : t.work < s.work := by
  obtain ⟨-, ⟨⟩⟩ := Option.ite_none_left_eq_some.mp moved
  simp only [State.work, State.serverEnd, open_, Bool.toNat_false, Bool.toNat_true]
  omega

theorem clientWrite_work {count : Nat} (moved : s.clientWrite count = some t) :
    t.work < s.work := by
  obtain ⟨client, clientOpen, server, serverOpen, up, down⟩ := s
  obtain ⟨-, moved⟩ := Option.ite_none_right_eq_some.mp moved
  cases client with
  | greeting left =>
    obtain ⟨bound, ⟨⟩⟩ := Option.ite_none_right_eq_some.mp moved
    by_cases all : left.drop count = []
    · have short := length_all all
      simp only [if_pos all, State.work, Client.work, List.length_append, List.length_take]
      omega
    · simp only [if_neg all, State.work, Client.work, List.length_append, List.length_take,
        List.length_drop]
      omega
  | authenticating nonce key left =>
    obtain ⟨bound, ⟨⟩⟩ := Option.ite_none_right_eq_some.mp moved
    by_cases all : left.drop count = []
    · have short := length_all all
      simp only [if_pos all, State.work, Client.work, List.length_append, List.length_take]
      omega
    · simp only [if_neg all, State.work, Client.work, List.length_append, List.length_take,
        List.length_drop]
      omega
  | _ => cases moved

theorem serverWrite_work {count : Nat} (moved : s.serverWrite count = some t) :
    t.work < s.work := by
  obtain ⟨client, clientOpen, server, serverOpen, up, down⟩ := s
  obtain ⟨open_, moved⟩ := Option.ite_none_right_eq_some.mp moved
  cases open_
  cases server with
  | greeting service nonce left =>
    obtain ⟨bound, ⟨⟩⟩ := Option.ite_none_right_eq_some.mp moved
    by_cases all : left.drop count = []
    · have short := length_all all
      simp only [if_pos all, State.work, Server.work, List.length_append, List.length_take]
      omega
    · simp only [if_neg all, State.work, Server.work, List.length_append, List.length_take,
        List.length_drop]
      omega
  | accepting service nonce found token auth left =>
    obtain ⟨bound, ⟨⟩⟩ := Option.ite_none_right_eq_some.mp moved
    by_cases all : left.drop count = []
    · have short := length_all all
      simp only [if_pos all, State.work, Server.work, List.length_append, List.length_take]
      omega
    · simp only [if_neg all, State.work, Server.work, List.length_append, List.length_take,
        List.length_drop]
      omega
  | rejecting service nonce left | refusing service nonce found token auth left =>
    obtain ⟨bound, ⟨⟩⟩ := Option.ite_none_right_eq_some.mp moved
    have flag := Bool.toNat_le (decide (left.drop count ≠ []))
    simp only [State.work, Server.work, List.length_append, List.length_take, List.length_drop,
      Bool.toNat_true]
    omega
  | running service nonce found token auth cmds left =>
    obtain ⟨bound, ⟨⟩⟩ := Option.ite_none_right_eq_some.mp moved
    simp only [State.work, Server.work, List.length_append, List.length_take, List.length_drop]
    omega
  | _ => cases moved

theorem clientRead_work (moved : s.clientRead x = some t) : t.work < s.work := by
  obtain ⟨client, clientOpen, server, serverOpen, up, down⟩ := s
  obtain ⟨open_, moved⟩ := Option.ite_none_right_eq_some.mp moved
  cases open_
  cases client with
  | readingHello =>
    cases got : readHello x.digest down with
    | error message =>
      simp only [got] at moved
      exact clientBroken_work rfl moved
    | ok result =>
      obtain ⟨hello, rest⟩ := result
      have packet : readPacket x.digest .hello down = .ok (.hello hello, rest) := by
        simp only [readPacket, got]
        rfl
      have short := rest_lt packet
      cases hello with
      | dataChannelHello version d =>
        simp only [got] at moved
        cases moved
        simp only [State.work, State.clientEnd, Bool.toNat_false, Bool.toNat_true]
        omega
      | controlChannelHello version nonce =>
        simp only [got] at moved
        cases given : x.service.token with
        | none =>
          rw [given] at moved
          cases moved
          simp only [State.work, State.clientEnd, Bool.toNat_false, Bool.toNat_true]
          omega
        | some own =>
          rw [given] at moved
          cases moved
          simp only [State.work, Client.work, Auth.length_serialize]
          omega
  | readingAck nonce key =>
    cases got : readAck x.digest down with
    | error message =>
      simp only [got] at moved
      exact clientBroken_work rfl moved
    | ok result =>
      obtain ⟨ack, rest⟩ := result
      have packet : readPacket x.digest .ack down = .ok (.ack ack, rest) := by
        simp only [readPacket, got]
        rfl
      have short := rest_lt packet
      cases ack with
      | ok =>
        simp only [got] at moved
        cases moved
        simp only [State.work, Client.work]
        omega
      | serviceNotExist | authFailed =>
        simp only [got] at moved
        cases moved
        simp only [State.work, Client.work, Bool.toNat_false, Bool.toNat_true]
        omega
  | connected nonce key cmds =>
    cases got : readControlCmd x.digest down with
    | error message =>
      simp only [got] at moved
      exact clientBroken_work rfl moved
    | ok result =>
      obtain ⟨cmd, rest⟩ := result
      have packet : readPacket x.digest .controlCmd down = .ok (.controlCmd cmd, rest) := by
        simp only [readPacket, got]
        rfl
      have short := rest_lt packet
      simp only [got] at moved
      cases moved
      simp only [State.work, Client.work]
      omega
  | _ => cases moved

theorem serverHello_work {nonce : Digest} (moved : s.serverHello x nonce = some t) :
    t.work < s.work := by
  obtain ⟨client, clientOpen, server, serverOpen, up, down⟩ := s
  obtain ⟨open_, moved⟩ := Option.ite_none_right_eq_some.mp moved
  cases open_
  cases server with
  | readingHello =>
    cases got : readHello x.digest up with
    | error message =>
      simp only [got] at moved
      exact serverBroken_work rfl moved
    | ok result =>
      obtain ⟨hello, rest⟩ := result
      have packet : readPacket x.digest .hello up = .ok (.hello hello, rest) := by
        simp only [readPacket, got]
        rfl
      have short := rest_lt packet
      cases hello with
      | dataChannelHello version d =>
        simp only [got] at moved
        cases moved
        simp only [State.work, Server.work]
        omega
      | controlChannelHello version d =>
        simp only [got] at moved
        cases moved
        simp only [State.work, Server.work, Hello.length_serialize]
        omega
  | _ => cases moved

theorem serverLookup_work (moved : s.serverLookup x = some t) : t.work < s.work := by
  obtain ⟨client, clientOpen, server, serverOpen, up, down⟩ := s
  obtain ⟨open_, moved⟩ := Option.ite_none_right_eq_some.mp moved
  cases open_
  cases server with
  | lookup d nonce =>
    cases held : x.services d with
    | none =>
      simp only [held] at moved
      cases moved
      simp only [State.work, Server.work, Ack.length_serialize]
      omega
    | some found =>
      simp only [held] at moved
      cases given : found.token with
      | none =>
        simp only [given] at moved
        cases moved
        simp only [State.work, State.serverEnd, Bool.toNat_false, Bool.toNat_true]
        omega
      | some token =>
        simp only [given] at moved
        cases moved
        simp only [State.work, Server.work]
        omega
  | _ => cases moved

theorem serverAuth_work (moved : s.serverAuth x = some t) : t.work < s.work := by
  obtain ⟨client, clientOpen, server, serverOpen, up, down⟩ := s
  obtain ⟨open_, moved⟩ := Option.ite_none_right_eq_some.mp moved
  cases open_
  cases server with
  | readingAuth service nonce found token =>
    cases got : readAuth x.digest up with
    | error message =>
      simp only [got] at moved
      exact serverBroken_work rfl moved
    | ok result =>
      obtain ⟨auth, rest⟩ := result
      have packet : readPacket x.digest .auth up = .ok (.auth auth, rest) := by
        simp only [readPacket, got]
        rfl
      have short := rest_lt packet
      simp only [got] at moved
      split at moved
      · cases moved
        simp only [State.work, Server.work, Ack.length_serialize]
        omega
      · cases moved
        simp only [State.work, Server.work, Ack.length_serialize]
        omega
  | _ => cases moved

/-- Every step of its own takes the channel nearer to rest. -/
theorem work_step (own : a.isOwn = true) (moved : step x s a = some t) : t.work < s.work := by
  cases a with
  | clientWrite count => exact clientWrite_work moved
  | clientRead => exact clientRead_work moved
  | serverWrite count => exact serverWrite_work moved
  | serverHello nonce => exact serverHello_work moved
  | serverLookup => exact serverLookup_work moved
  | serverAuth => exact serverAuth_work moved
  | register =>
    obtain ⟨client, clientOpen, server, serverOpen, up, down⟩ := s
    obtain ⟨-, moved⟩ := Option.ite_none_right_eq_some.mp moved
    cases server with
    | registering service nonce found token auth =>
      cases moved
      simp [State.work, Server.work]
    | _ => cases moved
  | command cmd => cases own
  | clientFail => cases own
  | serverFail => cases own

theorem command_work {cmd : ControlChannelCmd} (moved : s.command cmd = some t) :
    t.work = s.work + 8 := by
  obtain ⟨client, clientOpen, server, serverOpen, up, down⟩ := s
  obtain ⟨-, moved⟩ := Option.ite_none_right_eq_some.mp moved
  cases server with
  | running service nonce found token auth cmds left =>
    cases left with
    | cons byte left => cases moved
    | nil =>
      cases moved
      simp only [State.work, Server.work, ControlChannelCmd.length_serialize, List.length_nil]
      omega
  | _ => cases moved

/-- The steps of a run are bounded by the commands in it. -/
theorem steps_le {as : List Action} (run : (system x).Run Smooth s as t) :
    (as.filter Action.isOwn).length + t.work ≤
      s.work + 8 * (as.filter fun a => !a.isOwn).length := by
  induction run with
  | nil => simp
  | @cons s u t a as allowed moved rest ih =>
    cases own : a.isOwn with
    | true =>
      have less := work_step own moved
      rw [List.filter_cons_of_pos own, List.filter_cons_of_neg (by simp [own]), List.length_cons]
      omega
    | false =>
      rw [List.filter_cons_of_neg (by simp [own]), List.filter_cons_of_pos (by simp [own]),
        List.length_cons]
      cases a with
      | command cmd =>
        have more := command_work moved
        omega
      | clientFail => cases allowed
      | serverFail => cases allowed
      | _ => cases own

end Work

section Orderly

/-- The run of the client is over with an error. -/
def Client.over : Client → Bool
  | .rejected .. => true
  | _ => false

/-- The last ack is written. -/
def Server.over : Server → Bool
  | .rejecting _ _ [] | .refusing _ _ _ _ _ [] => true
  | _ => false

/-- A side drops the connection only when it is done with it. -/
structure Orderly (s : State) : Prop where
  client : s.clientOpen = !s.client.over
  server : s.serverOpen = !s.server.over

/-- Both sides have tokens, as every validated configuration has. -/
structure Setup.Usable (x : Setup) : Prop where
  client : x.service.token.isSome = true
  server : ∀ d found, x.services d = some found → found.token.isSome = true

theorem over_rejecting (service nonce : Digest) (left : List UInt8) :
    (Server.rejecting service nonce left).over = decide (left = []) := by
  cases left <;> rfl

theorem over_refusing (service nonce : Digest) (found : ServerServiceConfig) (token : MaskedString)
    (auth : Auth) (left : List UInt8) :
    (Server.refusing service nonce found token auth left).over = decide (left = []) := by
  cases left <;> rfl

/-- A packet that stands on the channel, or whose writer is done, can be read. -/
theorem Lane.readable {digest : List UInt8 → Digest} {written taken : List Packet}
    {channel left : List UInt8} {kind : Kind} (lane : Lane digest written taken channel left)
    (kinds : ∀ m, written[taken.length]? = some m → m.kind = kind)
    (enough : kind.packetLen digest ≤ channel.length ∨ (left = [] ∧ taken ≠ written)) :
    ∃ m rest, readPacket digest kind channel = .ok (m, rest) := by
  obtain ⟨pending, same, bytes, current⟩ := lane
  cases pending with
  | nil =>
    rcases enough with long | ⟨-, more⟩
    · rw [(List.append_eq_nil_iff.mp bytes.symm).1] at long
      exact absurd long (Nat.not_le.mpr (packetLen_pos digest kind))
    · exact absurd (same.trans (List.append_nil _)).symm more
  | cons m pending =>
    have next : written[taken.length]? = some m := by
      rw [same, List.getElem?_append_right (Nat.le_refl _), Nat.sub_self]
      rfl
    have like := kinds m next
    rw [writeAll_cons] at bytes
    have long : m.serialize.length ≤ channel.length := by
      rcases enough with long | ⟨none_, -⟩
      · rwa [length_serialize digest, like]
      · have total := congrArg List.length bytes
        rw [none_, List.append_nil, List.length_append] at total
        omega
    have front : m.serialize <+: channel := by
      have whole : m.serialize <+: channel ++ left := ⟨_, bytes⟩
      exact List.prefix_of_prefix_length_le whole (List.prefix_append _ _) long
    obtain ⟨rest, rfl⟩ := front
    have exact_ := Protocol.exact_of_current digest (current m List.mem_cons_self) rest
    change readPacket digest m.kind (m.serialize ++ rest) = .ok (m, rest) at exact_
    rw [like] at exact_
    exact ⟨m, rest, exact_⟩

/-- A client that waits for a packet waits for a server that is still there. -/
theorem Sound.clientWaits {kind : Kind} {message : String} (sound : Sound x s) (orderly : Orderly s)
    (phase : kind = .hello ∧ s.client = .readingHello ∨
      kind = .ack ∧ (∃ nonce key, s.client = .readingAck nonce key) ∨
      kind = .controlCmd ∧ ∃ nonce key cmds, s.client = .connected nonce key cmds)
    (failed : readPacket x.digest kind s.down = .error message) :
    s.down.length < kind.packetLen x.digest ∧ s.serverOpen = true := by
  have kinds : ∀ m, s.server.written[s.client.read.length]? = some m → m.kind = kind := by
    obtain ⟨hello, ack, commands⟩ := Server.kinds s.server
    rcases phase with ⟨rfl, reading⟩ | ⟨rfl, nonce, key, reading⟩ | ⟨rfl, nonce, key, cmds, reading⟩
    · rw [reading]
      exact hello
    · rw [reading]
      exact ack
    · rw [reading]
      intro m found
      exact commands cmds.length m (by simpa [Client.read] using found)
  have stuck : ¬ (kind.packetLen x.digest ≤ s.down.length ∨
      (s.server.left = [] ∧ s.client.read ≠ s.server.written)) := by
    intro enough
    obtain ⟨m, rest, got⟩ := sound.down.readable kinds enough
    rw [failed] at got
    cases got
  obtain ⟨short, rest⟩ := not_or.mp stuck
  refine ⟨Nat.not_le.mp short, ?_⟩
  by_contra closed
  have finished := orderly.server
  rw [Bool.eq_false_of_not_eq_true closed] at finished
  apply rest
  rcases phase with ⟨-, reading⟩ | ⟨-, nonce, key, reading⟩ | ⟨-, nonce, key, cmds, reading⟩
  all_goals
    rw [reading]
    cases other : s.server with
    | rejecting service nonce' left | refusing service nonce' found token auth left =>
      rw [other] at finished
      cases left with
      | nil => exact ⟨rfl, by simp [Client.read, Server.written, helloPacket]⟩
      | cons byte left => cases finished
    | _ =>
      rw [other] at finished
      cases finished

/-- A server that waits for a packet waits for a client that is still there. -/
theorem Sound.serverWaits {kind : Kind} {message : String} (sound : Sound x s) (orderly : Orderly s)
    (phase : kind = .hello ∧ s.server = .readingHello ∨
      kind = .auth ∧ ∃ d nonce found token, s.server = .readingAuth d nonce found token)
    (failed : readPacket x.digest kind s.up = .error message) :
    s.up.length < kind.packetLen x.digest ∧ s.clientOpen = true := by
  have kinds : ∀ m, (s.client.written x)[s.server.read.length]? = some m → m.kind = kind := by
    obtain ⟨hello, auth⟩ := Client.kinds x s.client
    rcases phase with ⟨rfl, reading⟩ | ⟨rfl, d, nonce, found, token, reading⟩
    · rw [reading]
      exact hello
    · rw [reading]
      exact auth
  have stuck : ¬ (kind.packetLen x.digest ≤ s.up.length ∨
      (s.client.left = [] ∧ s.server.read ≠ s.client.written x)) := by
    intro enough
    obtain ⟨m, rest, got⟩ := sound.up.readable kinds enough
    rw [failed] at got
    cases got
  obtain ⟨short, rest⟩ := not_or.mp stuck
  refine ⟨Nat.not_le.mp short, ?_⟩
  by_contra closed
  have finished := orderly.client
  rw [Bool.eq_false_of_not_eq_true closed] at finished
  apply rest
  cases other : s.client with
  | rejected nonce key ack =>
    rcases phase with ⟨-, reading⟩ | ⟨-, d, nonce', found, token, reading⟩
    · rw [reading]
      exact ⟨rfl, by simp [Server.read, Client.written]⟩
    · rw [reading]
      exact ⟨rfl, by simp [Server.read, Client.written]⟩
  | _ =>
    rw [other] at finished
    cases finished

theorem Orderly.clientRead (sound : Sound x s) (usable : x.Usable) (orderly : Orderly s)
    (moved : s.clientRead x = some t) : Orderly t := by
  obtain ⟨client, clientOpen, server, serverOpen, up, down⟩ := s
  have waits := fun kind message => @Sound.clientWaits x _ kind message sound orderly
  have first := fun hello rest => @Lane.read x.digest _ _ _ _ .hello (.hello hello) rest sound.down
  obtain ⟨mine, other⟩ := orderly
  obtain ⟨-, moved⟩ := Option.ite_none_right_eq_some.mp moved
  cases client with
  | readingHello =>
    cases got : readHello x.digest down with
    | error message =>
      have packet : readPacket x.digest .hello down = .error message := by
        simp only [readPacket, got]
        rfl
      simp only [got] at moved
      have broken := (if_pos (waits _ _ (.inl ⟨rfl, rfl⟩) packet)).symm.trans moved
      cases broken
    | ok result =>
      obtain ⟨hello, rest⟩ := result
      have packet : readPacket x.digest .hello down = .ok (.hello hello, rest) := by
        simp only [readPacket, got]
        rfl
      obtain ⟨nonce', head⟩ :=
        Server.head (first hello rest (Server.kinds server).1 packet).prefix_
      cases hello with
      | dataChannelHello version d => cases head
      | controlChannelHello version nonce =>
        obtain ⟨own, given⟩ := Option.isSome_iff_exists.mp usable.client
        simp only [got, given] at moved
        cases moved
        exact ⟨mine, other⟩
  | readingAck nonce key =>
    cases got : readAck x.digest down with
    | error message =>
      have packet : readPacket x.digest .ack down = .error message := by
        simp only [readPacket, got]
        rfl
      simp only [got] at moved
      have broken := (if_pos (waits _ _ (.inr (.inl ⟨rfl, nonce, key, rfl⟩)) packet)).symm.trans
        moved
      cases broken
    | ok result =>
      obtain ⟨ack, rest⟩ := result
      cases ack with
      | ok =>
        simp only [got] at moved
        cases moved
        exact ⟨mine, other⟩
      | serviceNotExist | authFailed =>
        simp only [got] at moved
        cases moved
        exact ⟨rfl, other⟩
  | connected nonce key cmds =>
    cases got : readControlCmd x.digest down with
    | error message =>
      have packet : readPacket x.digest .controlCmd down = .error message := by
        simp only [readPacket, got]
        rfl
      simp only [got] at moved
      have broken := (if_pos (waits _ _ (.inr (.inr ⟨rfl, nonce, key, cmds, rfl⟩))
        packet)).symm.trans moved
      cases broken
    | ok result =>
      simp only [got] at moved
      cases moved
      exact ⟨mine, other⟩
  | _ => cases moved

theorem Orderly.clientWrite {count : Nat} (orderly : Orderly s)
    (moved : s.clientWrite count = some t) : Orderly t := by
  obtain ⟨client, clientOpen, server, serverOpen, up, down⟩ := s
  obtain ⟨mine, other⟩ := orderly
  obtain ⟨-, moved⟩ := Option.ite_none_right_eq_some.mp moved
  cases client with
  | greeting left | authenticating nonce key left =>
    obtain ⟨-, ⟨⟩⟩ := Option.ite_none_right_eq_some.mp moved
    refine ⟨?_, other⟩
    dsimp only
    split
    · exact mine
    · exact mine
  | _ => cases moved

theorem Orderly.serverWrite {count : Nat} (orderly : Orderly s)
    (moved : s.serverWrite count = some t) : Orderly t := by
  obtain ⟨client, clientOpen, server, serverOpen, up, down⟩ := s
  obtain ⟨other, mine⟩ := orderly
  obtain ⟨open_, moved⟩ := Option.ite_none_right_eq_some.mp moved
  cases server with
  | greeting service nonce left | accepting service nonce found token auth left =>
    obtain ⟨-, ⟨⟩⟩ := Option.ite_none_right_eq_some.mp moved
    refine ⟨other, ?_⟩
    dsimp only
    split
    · exact mine
    · exact mine
  | rejecting service nonce left =>
    obtain ⟨-, ⟨⟩⟩ := Option.ite_none_right_eq_some.mp moved
    refine ⟨other, ?_⟩
    rw [over_rejecting]
    exact decide_not
  | refusing service nonce found token auth left =>
    obtain ⟨-, ⟨⟩⟩ := Option.ite_none_right_eq_some.mp moved
    refine ⟨other, ?_⟩
    rw [over_refusing]
    exact decide_not
  | running service nonce found token auth cmds left =>
    obtain ⟨-, ⟨⟩⟩ := Option.ite_none_right_eq_some.mp moved
    exact ⟨other, mine⟩
  | _ => cases moved

theorem Orderly.serverHello {nonce : Digest} (sound : Sound x s) (orderly : Orderly s)
    (moved : s.serverHello x nonce = some t) : Orderly t := by
  obtain ⟨client, clientOpen, server, serverOpen, up, down⟩ := s
  have waits := fun kind message => @Sound.serverWaits x _ kind message sound orderly
  obtain ⟨other, mine⟩ := orderly
  obtain ⟨-, moved⟩ := Option.ite_none_right_eq_some.mp moved
  cases server with
  | readingHello =>
    cases got : readHello x.digest up with
    | error message =>
      have packet : readPacket x.digest .hello up = .error message := by
        simp only [readPacket, got]
        rfl
      simp only [got] at moved
      have broken := (if_pos (waits _ _ (.inl ⟨rfl, rfl⟩) packet)).symm.trans moved
      cases broken
    | ok result =>
      obtain ⟨hello, rest⟩ := result
      cases hello with
      | dataChannelHello version d | controlChannelHello version d =>
        simp only [got] at moved
        cases moved
        exact ⟨other, mine⟩
  | _ => cases moved

theorem Orderly.serverLookup (usable : x.Usable) (orderly : Orderly s)
    (moved : s.serverLookup x = some t) : Orderly t := by
  obtain ⟨client, clientOpen, server, serverOpen, up, down⟩ := s
  obtain ⟨other, mine⟩ := orderly
  obtain ⟨-, moved⟩ := Option.ite_none_right_eq_some.mp moved
  cases server with
  | lookup d nonce =>
    cases held : x.services d with
    | none =>
      simp only [held] at moved
      cases moved
      exact ⟨other, mine⟩
    | some found =>
      obtain ⟨token, given⟩ := Option.isSome_iff_exists.mp (usable.server d found held)
      simp only [held, given] at moved
      cases moved
      exact ⟨other, mine⟩
  | _ => cases moved

theorem Orderly.serverAuth (sound : Sound x s) (orderly : Orderly s)
    (moved : s.serverAuth x = some t) : Orderly t := by
  obtain ⟨client, clientOpen, server, serverOpen, up, down⟩ := s
  have waits := fun kind message => @Sound.serverWaits x _ kind message sound orderly
  obtain ⟨other, mine⟩ := orderly
  obtain ⟨-, moved⟩ := Option.ite_none_right_eq_some.mp moved
  cases server with
  | readingAuth service nonce found token =>
    cases got : readAuth x.digest up with
    | error message =>
      have packet : readPacket x.digest .auth up = .error message := by
        simp only [readPacket, got]
        rfl
      simp only [got] at moved
      have broken := (if_pos (waits _ _ (.inr ⟨rfl, service, nonce, found, token, rfl⟩)
        packet)).symm.trans moved
      cases broken
    | ok result =>
      simp only [got] at moved
      split at moved
      · cases moved
        exact ⟨other, mine⟩
      · cases moved
        exact ⟨other, mine⟩
  | _ => cases moved

theorem orderly_step (sound : Sound x s) (usable : x.Usable) (smooth : Smooth s a)
    (orderly : Orderly s) (moved : step x s a = some t) : Orderly t := by
  cases a with
  | clientWrite count => exact orderly.clientWrite moved
  | clientRead => exact orderly.clientRead sound usable moved
  | serverWrite count => exact orderly.serverWrite moved
  | serverHello nonce => exact orderly.serverHello sound moved
  | serverLookup => exact orderly.serverLookup usable moved
  | serverAuth => exact orderly.serverAuth sound moved
  | register =>
    obtain ⟨client, clientOpen, server, serverOpen, up, down⟩ := s
    obtain ⟨-, moved⟩ := Option.ite_none_right_eq_some.mp moved
    cases server with
    | registering service nonce found token auth =>
      cases moved
      exact ⟨orderly.client, orderly.server⟩
    | _ => cases moved
  | command cmd =>
    obtain ⟨client, clientOpen, server, serverOpen, up, down⟩ := s
    obtain ⟨-, moved⟩ := Option.ite_none_right_eq_some.mp moved
    cases server with
    | running service nonce found token auth cmds left =>
      cases left with
      | cons byte left => cases moved
      | nil =>
        cases moved
        exact ⟨orderly.client, orderly.server⟩
    | _ => cases moved
  | clientFail => cases smooth
  | serverFail => cases smooth

theorem orderly_of_run {as : List Action} (usable : x.Usable)
    (run : (system x).Run Smooth x.start as s) : Sound x s ∧ Orderly s := by
  have keep : ∀ s a t, Smooth s a → (system x).step s a = some t → Sound x s ∧ Orderly s →
      Sound x t ∧ Orderly t := fun s a t smooth moved both =>
    ⟨sound_step both.1 moved, orderly_step both.1 usable smooth both.2 moved⟩
  exact run.invariant keep ⟨sound_start x, rfl, rfl⟩

end Orderly

/-- How a control channel without errors ends, or goes on. -/
inductive Outcome (x : Setup) (s : State) : Prop
  | missing (nonce key : Digest) (absent : x.services x.serviceDigest = none)
    (client : s.client = .rejected nonce key .serviceNotExist)
  | refused (nonce key : Digest) (found : ServerServiceConfig) (token : MaskedString)
    (finds : x.Finds x.serviceDigest found token) (own : x.Own nonce key)
    (different : x.key token nonce ≠ key) (client : s.client = .rejected nonce key .authFailed)
  | connected (nonce key : Digest) (found : ServerServiceConfig) (token : MaskedString)
    (cmds : List ControlChannelCmd) (admits : x.Admits nonce key found token)
    (client : s.client = .connected nonce key cmds)
    (server : s.server = .running x.serviceDigest nonce found token ⟨key⟩ cmds [])

section Rest

theorem readPacket_hello {p : Packet} {stream rest : List UInt8}
    (got : readPacket x.digest .hello stream = .ok (p, rest)) :
    ∃ hello, readHello x.digest stream = .ok (hello, rest) := by
  unfold readPacket at got
  cases read : readHello x.digest stream with
  | error message =>
    rw [read] at got
    cases got
  | ok result =>
    rw [read] at got
    cases got
    exact ⟨result.1, rfl⟩

/-- A client that can read is not at rest. -/
theorem Resting.caughtUp (resting : Resting x s) (sound : Sound x s) (orderly : Orderly s)
    (nothing : s.server.left = [])
    (phase : s.client = .readingHello ∨ (∃ nonce key, s.client = .readingAck nonce key) ∨
      ∃ nonce key cmds, s.client = .connected nonce key cmds) :
    s.client.read = s.server.written := by
  obtain ⟨client, clientOpen, server, serverOpen, up, down⟩ := s
  have lane := sound.down
  obtain ⟨hello, ack, commands⟩ := Server.kinds server
  have mine := orderly.client
  have still := resting .clientRead rfl
  by_contra behind
  rcases phase with rfl | ⟨nonce, key, rfl⟩ | ⟨nonce, key, cmds, rfl⟩
  all_goals cases mine
  · obtain ⟨m, rest, got⟩ := lane.readable hello (.inr ⟨nothing, behind⟩)
    obtain ⟨read, got⟩ := readPacket_hello got
    cases read with
    | dataChannelHello version d => simp [step, State.clientRead, got] at still
    | controlChannelHello version d =>
      cases given : x.service.token with
      | _ => simp [step, State.clientRead, got, given] at still
  · obtain ⟨m, rest, got⟩ := lane.readable ack (.inr ⟨nothing, behind⟩)
    unfold readPacket at got
    cases read : readAck x.digest down with
    | error message =>
      rw [read] at got
      cases got
    | ok result =>
      obtain ⟨ack, rest⟩ := result
      cases ack with
      | _ => simp [step, State.clientRead, read] at still
  · have kinds : ∀ m, server.written[(Client.connected nonce key cmds).read.length]? = some m →
        m.kind = .controlCmd := by
      intro m found
      exact commands cmds.length m (by simpa [Client.read] using found)
    obtain ⟨m, rest, got⟩ := lane.readable kinds (.inr ⟨nothing, behind⟩)
    unfold readPacket at got
    cases read : readControlCmd x.digest down with
    | error message =>
      rw [read] at got
      cases got
    | ok result => simp [step, State.clientRead, read] at still

/-- A client at rest has nothing left to write. -/
theorem Resting.client (resting : Resting x s) (sound : Sound x s) (orderly : Orderly s) :
    s.client = .readingHello ∨ (∃ nonce key, s.client = .readingAck nonce key) ∨
      (∃ nonce key ack, s.client = .rejected nonce key ack) ∨
        ∃ nonce key cmds, s.client = .connected nonce key cmds := by
  obtain ⟨client, clientOpen, server, serverOpen, up, down⟩ := s
  have mine := orderly.client
  have checked := sound.client
  have still := resting (.clientWrite 1) rfl
  cases client with
  | greeting left =>
    cases mine
    change left ≠ [] at checked
    simp [step, State.clientWrite, Nat.succ_le_iff, List.length_pos_iff, checked] at still
  | authenticating nonce key left =>
    cases mine
    simp [step, State.clientWrite, Nat.succ_le_iff, List.length_pos_iff, checked.2] at still
  | readingHello => exact .inl rfl
  | readingAck nonce key => exact .inr (.inl ⟨nonce, key, rfl⟩)
  | rejected nonce key ack => exact .inr (.inr (.inl ⟨nonce, key, ack, rfl⟩))
  | connected nonce key cmds => exact .inr (.inr (.inr ⟨nonce, key, cmds, rfl⟩))

/-- A server at rest has nothing left to write, and waits for a packet or for a command. -/
theorem Resting.server (resting : Resting x s) (sound : Sound x s) (usable : x.Usable)
    (orderly : Orderly s) : s.server.left = [] ∧
      (s.server = .readingHello ∨ (∃ d nonce, s.server = .rejecting d nonce []) ∨
        (∃ d nonce found token, s.server = .readingAuth d nonce found token) ∨
        (∃ d nonce found token auth, s.server = .refusing d nonce found token auth []) ∨
        ∃ d nonce found token auth cmds, s.server = .running d nonce found token auth cmds []) := by
  obtain ⟨client, clientOpen, server, serverOpen, up, down⟩ := s
  have mine := orderly.server
  have checked := sound.server
  have still := resting (.serverWrite 1) rfl
  cases server with
  | readingHello => exact ⟨rfl, .inl rfl⟩
  | dataChannel => exact absurd checked id
  | greeting d nonce left =>
    cases mine
    change left ≠ [] at checked
    simp [step, State.serverWrite, Nat.succ_le_iff, List.length_pos_iff, checked] at still
  | lookup d nonce =>
    cases mine
    have looks := resting .serverLookup rfl
    cases held : x.services d with
    | none =>
      simp [step, State.serverLookup, held] at looks
    | some found =>
      obtain ⟨token, given⟩ := Option.isSome_iff_exists.mp (usable.server d found held)
      simp [step, State.serverLookup, held, given] at looks
  | rejecting d nonce left =>
    cases left with
    | nil => exact ⟨rfl, .inr (.inl ⟨d, nonce, rfl⟩)⟩
    | cons byte left =>
      cases mine
      simp [step, State.serverWrite] at still
  | readingAuth d nonce found token => exact ⟨rfl, .inr (.inr (.inl ⟨d, nonce, found, token, rfl⟩))⟩
  | refusing d nonce found token auth left =>
    cases left with
    | nil => exact ⟨rfl, .inr (.inr (.inr (.inl ⟨d, nonce, found, token, auth, rfl⟩)))⟩
    | cons byte left =>
      cases mine
      simp [step, State.serverWrite] at still
  | accepting d nonce found token auth left =>
    cases mine
    simp [step, State.serverWrite, Nat.succ_le_iff, List.length_pos_iff, checked.2] at still
  | registering d nonce found token auth =>
    cases mine
    have registers := resting .register rfl
    simp [step, State.register] at registers
  | running d nonce found token auth cmds left =>
    cases left with
    | nil => exact ⟨rfl, .inr (.inr (.inr (.inr ⟨d, nonce, found, token, auth, cmds, rfl⟩)))⟩
    | cons byte left =>
      cases mine
      simp [step, State.serverWrite] at still

/-- A server that waits for a packet of the client gets it. -/
theorem Resting.serverServed (resting : Resting x s) (sound : Sound x s) (orderly : Orderly s)
    (nothing : s.client.left = [])
    (phase : s.server = .readingHello ∨
      ∃ d nonce found token, s.server = .readingAuth d nonce found token) :
    s.server.read = s.client.written x := by
  obtain ⟨client, clientOpen, server, serverOpen, up, down⟩ := s
  have lane := sound.up
  obtain ⟨hello, auth⟩ := Client.kinds x client
  have mine := orderly.server
  by_contra behind
  rcases phase with rfl | ⟨d, nonce, found, token, rfl⟩
  · cases mine
    obtain ⟨m, rest, got⟩ := lane.readable hello (.inr ⟨nothing, behind⟩)
    obtain ⟨read, got⟩ := readPacket_hello got
    have still := resting (.serverHello x.serviceDigest) rfl
    cases read with
    | _ => simp [step, State.serverHello, got] at still
  · cases mine
    obtain ⟨m, rest, got⟩ := lane.readable auth (.inr ⟨nothing, behind⟩)
    have still := resting .serverAuth rfl
    unfold readPacket at got
    cases read : readAuth x.digest up with
    | error message =>
      rw [read] at got
      cases got
    | ok result =>
      by_cases same : Server.digestEq (x.key token nonce).bytes result.1.digest.bytes = true
      · simp [step, State.serverAuth, read, same] at still
      · simp [step, State.serverAuth, read, same] at still

theorem Resting.outcome (resting : Resting x s) (sound : Sound x s) (usable : x.Usable)
    (orderly : Orderly s) : Outcome x s := by
  have caught := fun nothing => resting.caughtUp sound orderly nothing
  have served := fun nothing => resting.serverServed sound orderly nothing
  obtain ⟨nothing, servers⟩ := resting.server sound usable orderly
  have front := sound.down.prefix_
  rcases resting.client sound orderly with reading | ⟨nonce, key, reading⟩ |
    ⟨nonce, key, ack, rejected⟩ | ⟨nonce, key, cmds, connected⟩
  · have same := caught nothing (.inl reading)
    rw [reading] at same
    rcases servers with waiting | ⟨d, nonce, other⟩ | ⟨d, nonce, found, token, other⟩ |
      ⟨d, nonce, found, token, auth, other⟩ | ⟨d, nonce, found, token, auth, cmds, other⟩
    · have upward := served (by rw [reading]; rfl) (.inl waiting)
      rw [waiting, reading] at upward
      cases upward
    all_goals
      rw [other] at same
      cases same
  · have same := caught nothing (.inr (.inl ⟨nonce, key, reading⟩))
    rw [reading] at same
    rcases servers with waiting | ⟨d, nonce', other⟩ | ⟨d, nonce', found, token, other⟩ |
      ⟨d, nonce', found, token, auth, other⟩ | ⟨d, nonce', found, token, auth, cmds, other⟩
    · rw [waiting] at same
      cases same
    · rw [other] at same
      cases same
    · have upward := served (by rw [reading]; rfl) (.inr ⟨d, nonce', found, token, other⟩)
      rw [other, reading] at upward
      cases upward
    · rw [other] at same
      cases same
    · rw [other] at same
      cases same
  · obtain ⟨own, refuses⟩ := sound.rejected rejected
    cases ack with
    | ok => exact absurd refuses id
    | serviceNotExist => exact .missing nonce key refuses rejected
    | authFailed =>
      obtain ⟨found, token, finds, different⟩ := refuses
      exact .refused nonce key found token finds own different rejected
  · obtain ⟨found, token, admits, ⟨registering, -⟩ | ⟨written, left, running, -⟩⟩ :=
      sound.connected connected
    · rw [registering] at servers
      simp at servers
    · have same := caught nothing (.inr (.inr ⟨nonce, key, cmds, connected⟩))
      rw [running] at nothing same
      cases nothing
      rw [connected] at same
      have commands : cmds.map Packet.controlCmd = written.map .controlCmd :=
        List.append_cancel_left same
      have injective : Function.Injective Packet.controlCmd := fun a b same => by
        cases same
        rfl
      rw [← List.map_injective_iff.mpr injective commands] at running
      exact .connected nonce key found token cmds admits connected running

/-- Without errors, the steps of a control channel are bounded by its commands, and at rest the
service and the tokens have decided: the client was told that there is no such service, or that its
token is wrong, or both sides are connected and every command was read. -/
theorem session_settles {as : List Action} (usable : x.Usable)
    (run : (system x).Run Smooth x.start as s) :
    (as.filter Action.isOwn).length ≤ 229 + 8 * (as.filter fun a => !a.isOwn).length ∧
      (Resting x s → Outcome x s) := by
  obtain ⟨sound, orderly⟩ := orderly_of_run usable run
  have bound := steps_le run
  have start : x.start.work = 229 := by
    simp [Setup.start, State.work, Client.work, Server.work]
  exact ⟨by omega, fun resting => resting.outcome sound usable orderly⟩

end Rest

/-- Bytes that are cut off or filled up. -/
def padded (bytes : List UInt8) : Digest where
  bytes := (bytes ++ List.replicate Protocol.hashWidthInBytes 0).take Protocol.hashWidthInBytes
  width := by simp [Protocol.hashWidthInBytes]

/-- The service `web`, with the same token on both sides. -/
def webSession : Setup where
  digest := padded
  service := ⟨.tcp, "web", "127.0.0.1:80", false, some "secret", none, some 1⟩
  services _ := some ⟨.tcp, "web", "0.0.0.0:8080", some "secret", none⟩

/-- A handshake and one heartbeat. -/
def webSchedule : List Action :=
  [.clientWrite 37, .serverHello (padded [1, 2, 3]), .serverWrite 37, .serverLookup, .clientRead,
    .clientWrite 32, .serverAuth, .serverWrite 4, .register, .command .heartBeat, .serverWrite 4,
    .clientRead, .clientRead]

def State.beats (s : State) : Bool :=
  match s.client with
  | .connected _ _ [.heartBeat] => true
  | _ => false

theorem webSession_beats : ((system webSession).exec (fun _ a => !a.isFail) webSession.start
    webSchedule).any State.beats = true := by decide +kernel

theorem webSession_usable : webSession.Usable where
  client := rfl
  server d found held := by
    cases held
    rfl

theorem webSession_agrees : ∃ s, s.beats = true ∧ Agrees webSession s := by
  obtain ⟨s, executed, beats⟩ := (Option.any_eq_true _ _).mp webSession_beats
  have run : (system webSession).Run Smooth webSession.start webSchedule s :=
    Transition.System.run_of_exec (fun s a passed => by simpa [Smooth] using passed) executed
  exact ⟨s, beats, sessions_agree webSession s ⟨webSession.start, webSchedule, rfl, run.free⟩⟩

theorem webSession_settles : ∃ s, s.beats = true ∧
    (webSchedule.filter Action.isOwn).length ≤
      229 + 8 * (webSchedule.filter fun a => !a.isOwn).length ∧
    (Resting webSession s → Outcome webSession s) := by
  obtain ⟨s, executed, beats⟩ := (Option.any_eq_true _ _).mp webSession_beats
  have run : (system webSession).Run Smooth webSession.start webSchedule s :=
    Transition.System.run_of_exec (fun s a passed => by simpa [Smooth] using passed) executed
  exact ⟨s, beats, session_settles webSession_usable run⟩

end Rathole.ControlSession
