import Rathole.TcpTunnel

set_option autoImplicit false

/- A tunnel is transparent: each side receives the bytes of the other in their order, the end behind
all of them, and everything that was sent once the tunnel's tasks have nothing left to do. -/
namespace Rathole.TcpTunnel

open Protocol (Digest Hello DataChannelCmd currentProtoVersion readHello readDataCmd)
open Relay (Move)

variable {x : Setup} {s t : State}

def Server.writer : Server → Writer
  | .accepted | .queued => .writing cmd
  | .starting left => .writing left
  | .forwarding => .written
  | .ended => .gone

def Server.reader : Server → Reader
  | .accepted => .reading
  | .queued | .starting _ | .forwarding => .read
  | .ended => .gone

def Client.writer : Client → Writer
  | .greeting left => .writing left
  | .waiting | .connecting | .forwarding => .written
  | .ended => .gone

def Client.reader : Client → Reader
  | .greeting _ | .waiting => .reading
  | .connecting | .forwarding => .read
  | .ended => .gone

/-- Both directions are sound, with the command in front of the one and the hello in front of the
other. -/
structure Sound (x : Setup) (s : State) : Prop where
  up : s.up.Sound cmd s.server.writer s.client.reader
  down : s.down.Sound x.hello s.client.writer s.server.reader

theorem cmd_ne_nil : cmd ≠ [] := by
  have width : cmd.length = 4 := DataChannelCmd.length_serialize .startForwardTcp
  rintro nothing
  rw [nothing] at width
  cases width

theorem length_hello (x : Setup) : x.hello.length = 37 := Hello.length_serialize _

theorem hello_ne_nil (x : Setup) : x.hello ≠ [] := by
  have width := length_hello x
  rintro nothing
  rw [nothing] at width
  cases width

section Steps

theorem Sound.start (x : Setup) : Sound x x.start :=
  ⟨.fresh cmd_ne_nil, .fresh (hello_ne_nil x)⟩

theorem Sound.greet {count : Nat} (sound : Sound x s) (moved : s.greet count = some t) :
    Sound x t := by
  unfold State.greet at moved
  split at moved
  · next left greeting =>
    obtain ⟨⟨-, bound⟩, ⟨⟩⟩ := Option.ite_none_right_eq_some.mp moved
    have up := sound.up
    have down := sound.down
    rw [greeting] at up down
    have put := down.put bound
    by_cases all : left.drop count = []
    · rw [if_pos all] at put ⊢
      exact ⟨up, put⟩
    · rw [if_neg all] at put ⊢
      exact ⟨up, put⟩
  · cases moved

theorem Sound.beginning {count : Nat} (sound : Sound x s) (moved : s.start count = some t) :
    Sound x t := by
  unfold State.start at moved
  split at moved
  · next left starting =>
    obtain ⟨⟨-, bound⟩, ⟨⟩⟩ := Option.ite_none_right_eq_some.mp moved
    have up := sound.up
    have down := sound.down
    rw [starting] at up down
    have put := up.put bound
    by_cases all : left.drop count = []
    · rw [if_pos all] at put ⊢
      exact ⟨put, down⟩
    · rw [if_neg all] at put ⊢
      exact ⟨put, down⟩
  · cases moved

theorem Sound.accept (sound : Sound x s) (moved : s.accept x = some t) : Sound x t := by
  obtain ⟨accepted, moved⟩ := Option.ite_none_right_eq_some.mp moved
  split at moved
  · next version key rest read =>
    obtain ⟨-, ⟨⟩⟩ := Option.ite_none_right_eq_some.mp moved
    have up := sound.up
    have down := sound.down
    rw [accepted] at up down
    obtain ⟨front, stream, width, -⟩ := Protocol.readMessage_ok (Protocol.readHello_ok _ read).1
    rw [Protocol.packetLength] at width
    exact ⟨up, (down.take stream (width.trans (length_hello x).symm)).2.2⟩
  · cases moved

theorem Sound.take (sound : Sound x s) (moved : s.take = some t) : Sound x t := by
  obtain ⟨queued, ⟨⟩⟩ := Option.ite_none_right_eq_some.mp moved
  have up := sound.up
  have down := sound.down
  rw [queued] at up down
  exact ⟨up, down⟩

theorem Sound.connect (sound : Sound x s) (moved : s.connect = some t) : Sound x t := by
  obtain ⟨connecting, ⟨⟩⟩ := Option.ite_none_right_eq_some.mp moved
  have up := sound.up
  have down := sound.down
  rw [connecting] at up down
  exact ⟨up, down⟩

theorem Sound.serverError (sound : Sound x s) (moved : s.serverError = some t) : Sound x t := by
  rw [State.serverError, Option.bind_eq_bind] at moved
  obtain ⟨up, first, moved⟩ := Option.bind_eq_some_iff.mp moved
  obtain ⟨down, second, ⟨⟩⟩ := Option.bind_eq_some_iff.mp moved
  exact ⟨sound.up.failFront first, sound.down.failBack second⟩

theorem Sound.clientError (sound : Sound x s) (moved : s.clientError = some t) : Sound x t := by
  rw [State.clientError, Option.bind_eq_bind] at moved
  obtain ⟨up, first, moved⟩ := Option.bind_eq_some_iff.mp moved
  obtain ⟨down, second, ⟨⟩⟩ := Option.bind_eq_some_iff.mp moved
  exact ⟨sound.up.failBack first, sound.down.failFront second⟩

theorem Sound.readCmd (sound : Sound x s) (moved : s.readCmd x = some t) : Sound x t := by
  obtain ⟨waiting, moved⟩ := Option.ite_none_right_eq_some.mp moved
  split at moved
  · next rest read =>
    split at moved
    · cases moved
      have up := sound.up
      have down := sound.down
      rw [waiting] at up down
      obtain ⟨front, stream, width, -⟩ := Protocol.readMessage_ok read
      rw [Protocol.packetLength] at width
      have length : cmd.length = 4 := DataChannelCmd.length_serialize .startForwardTcp
      exact ⟨(up.take stream (width.trans length.symm)).2.2, down⟩
    · exact sound.clientError moved
  · cases moved

theorem Sound.retry (sound : Sound x s) (moved : s.retry x = some t) : Sound x t := by
  obtain ⟨waits, ⟨⟩⟩ := Option.ite_none_right_eq_some.mp moved
  refine ⟨?_, .fresh (hello_ne_nil x)⟩
  have up := sound.up
  revert waits up
  unfold State.waits
  cases s.server with
  | accepted | queued | starting left => exact fun _ up => up.renew cmd_ne_nil
  | forwarding | ended => exact fun waits => absurd waits Bool.false_ne_true

theorem Sound.step {a : Action} (sound : Sound x s) (moved : TcpTunnel.step x s a = some t) :
    Sound x t := by
  cases a with
  | visitorSend items =>
    obtain ⟨up, sent, rfl⟩ := Option.map_eq_some_iff.mp moved
    exact ⟨sound.up.send sent, sound.down⟩
  | visitorEnd =>
    obtain ⟨up, finished, rfl⟩ := Option.map_eq_some_iff.mp moved
    exact ⟨sound.up.finish finished, sound.down⟩
  | localSend items =>
    obtain ⟨-, moved⟩ := Option.ite_none_right_eq_some.mp moved
    obtain ⟨down, sent, rfl⟩ := Option.map_eq_some_iff.mp moved
    exact ⟨sound.up, sound.down.send sent⟩
  | localEnd =>
    obtain ⟨-, moved⟩ := Option.ite_none_right_eq_some.mp moved
    obtain ⟨down, finished, rfl⟩ := Option.map_eq_some_iff.mp moved
    exact ⟨sound.up, sound.down.finish finished⟩
  | greet count => exact sound.greet moved
  | accept => exact sound.accept moved
  | take => exact sound.take moved
  | start count => exact sound.beginning moved
  | readCmd => exact sound.readCmd moved
  | connect => exact sound.connect moved
  | upFront m =>
    obtain ⟨⟨forwarding, -⟩, moved⟩ := Option.ite_none_right_eq_some.mp moved
    obtain ⟨up, done, rfl⟩ := Option.map_eq_some_iff.mp moved
    have before := sound.up
    rw [forwarding] at before
    refine ⟨?_, sound.down⟩
    dsimp only
    rw [forwarding]
    exact before.moveFront done
  | upBack m =>
    obtain ⟨⟨forwarding, -⟩, moved⟩ := Option.ite_none_right_eq_some.mp moved
    obtain ⟨up, done, rfl⟩ := Option.map_eq_some_iff.mp moved
    have before := sound.up
    rw [forwarding] at before
    refine ⟨?_, sound.down⟩
    dsimp only
    rw [forwarding]
    exact before.moveBack (fun left writing => (before.shaken.writing left writing).2.1 rfl) done
  | downFront m =>
    obtain ⟨⟨forwarding, -⟩, moved⟩ := Option.ite_none_right_eq_some.mp moved
    obtain ⟨down, done, rfl⟩ := Option.map_eq_some_iff.mp moved
    have before := sound.down
    rw [forwarding] at before
    refine ⟨sound.up, ?_⟩
    dsimp only
    rw [forwarding]
    exact before.moveFront done
  | downBack m =>
    obtain ⟨⟨forwarding, -⟩, moved⟩ := Option.ite_none_right_eq_some.mp moved
    obtain ⟨down, done, rfl⟩ := Option.map_eq_some_iff.mp moved
    have before := sound.down
    rw [forwarding] at before
    refine ⟨sound.up, ?_⟩
    dsimp only
    rw [forwarding]
    exact before.moveBack (fun left writing => (before.shaken.writing left writing).2.1 rfl) done
  | serverError => exact sound.serverError moved
  | clientError => exact sound.clientError moved
  | retry => exact sound.retry moved

theorem sound_of_reach {ok : State → Action → Prop} (reached : (system x).Reach ok s) :
    Sound x s := by
  refine reached.invariant ?_ fun _ _ _ _ moved sound => sound.step moved
  rintro s rfl
  exact .start x

end Steps

/-- No task has failed, and no copy has stopped before its end. -/
structure Clean (s : State) : Prop where
  up : Relay.Clean s.up.line
  down : Relay.Clean s.down.line
  server : s.server ≠ .ended
  client : s.client ≠ .ended

section Smooth

variable {d e : Direction} {m : Move} {a : Action}

theorem clean_moveFront (noFailure : m ≠ .fail) (bound : d.unread ≤ d.channel.items.length)
    (clean : Relay.Clean d.line) (moved : d.moveFront m = some e) : Relay.Clean e.line :=
  Relay.clean_stepAt noFailure clean (line_moveFront bound moved).1

theorem clean_moveBack (noFailure : m ≠ .fail) (nothing : d.unread = 0)
    (clean : Relay.Clean d.line) (moved : d.moveBack m = some e) : Relay.Clean e.line :=
  Relay.clean_stepAt noFailure clean (line_moveBack (.inl nothing) moved).1

theorem Clean.step (tcp : x.serviceType = .tcp) (sound : Sound x s) (clean : Clean s)
    (smooth : Smooth s a) (moved : TcpTunnel.step x s a = some t) : Clean t := by
  cases a with
  | visitorSend items =>
    obtain ⟨up, sent, rfl⟩ := Option.map_eq_some_iff.mp moved
    obtain ⟨-, ⟨⟩⟩ := Option.ite_none_right_eq_some.mp sent
    exact ⟨clean.up, clean.down, clean.server, clean.client⟩
  | visitorEnd =>
    obtain ⟨up, finished, rfl⟩ := Option.map_eq_some_iff.mp moved
    obtain ⟨-, ⟨⟩⟩ := Option.ite_none_right_eq_some.mp finished
    exact ⟨clean.up, clean.down, clean.server, clean.client⟩
  | localSend items =>
    obtain ⟨-, moved⟩ := Option.ite_none_right_eq_some.mp moved
    obtain ⟨down, sent, rfl⟩ := Option.map_eq_some_iff.mp moved
    obtain ⟨-, ⟨⟩⟩ := Option.ite_none_right_eq_some.mp sent
    exact ⟨clean.up, clean.down, clean.server, clean.client⟩
  | localEnd =>
    obtain ⟨-, moved⟩ := Option.ite_none_right_eq_some.mp moved
    obtain ⟨down, finished, rfl⟩ := Option.map_eq_some_iff.mp moved
    obtain ⟨-, ⟨⟩⟩ := Option.ite_none_right_eq_some.mp finished
    exact ⟨clean.up, clean.down, clean.server, clean.client⟩
  | greet count =>
    change s.greet count = some t at moved
    unfold State.greet at moved
    split at moved
    · obtain ⟨-, ⟨⟩⟩ := Option.ite_none_right_eq_some.mp moved
      refine ⟨clean.up, clean.down, clean.server, ?_⟩
      dsimp only
      split <;> simp
    · cases moved
  | accept =>
    obtain ⟨-, moved⟩ := Option.ite_none_right_eq_some.mp moved
    split at moved
    · obtain ⟨-, ⟨⟩⟩ := Option.ite_none_right_eq_some.mp moved
      exact ⟨clean.up, clean.down, by simp, clean.client⟩
    · cases moved
  | take =>
    obtain ⟨-, ⟨⟩⟩ := Option.ite_none_right_eq_some.mp moved
    exact ⟨clean.up, clean.down, by simp, clean.client⟩
  | start count =>
    change s.start count = some t at moved
    unfold State.start at moved
    split at moved
    · obtain ⟨-, ⟨⟩⟩ := Option.ite_none_right_eq_some.mp moved
      refine ⟨clean.up, clean.down, ?_, clean.client⟩
      dsimp only
      split <;> simp
    · cases moved
  | readCmd =>
    obtain ⟨-, moved⟩ := Option.ite_none_right_eq_some.mp moved
    split at moved
    · rw [if_pos tcp] at moved
      cases moved
      exact ⟨clean.up, clean.down, clean.server, by simp⟩
    · cases moved
  | connect =>
    obtain ⟨-, ⟨⟩⟩ := Option.ite_none_right_eq_some.mp moved
    exact ⟨clean.up, clean.down, clean.server, by simp⟩
  | upFront m =>
    obtain ⟨⟨-, noFailure⟩, moved⟩ := Option.ite_none_right_eq_some.mp moved
    obtain ⟨up, done, rfl⟩ := Option.map_eq_some_iff.mp moved
    exact ⟨clean_moveFront noFailure sound.up.shaken.bound clean.up done, clean.down, clean.server,
      clean.client⟩
  | upBack m =>
    obtain ⟨⟨forwarding, noFailure⟩, moved⟩ := Option.ite_none_right_eq_some.mp moved
    obtain ⟨up, done, rfl⟩ := Option.map_eq_some_iff.mp moved
    have nothing := sound.up.shaken.read (by rw [forwarding]; rfl)
    exact ⟨clean_moveBack noFailure nothing clean.up done, clean.down, clean.server, clean.client⟩
  | downFront m =>
    obtain ⟨⟨-, noFailure⟩, moved⟩ := Option.ite_none_right_eq_some.mp moved
    obtain ⟨down, done, rfl⟩ := Option.map_eq_some_iff.mp moved
    exact ⟨clean.up, clean_moveFront noFailure sound.down.shaken.bound clean.down done,
      clean.server, clean.client⟩
  | downBack m =>
    obtain ⟨⟨forwarding, noFailure⟩, moved⟩ := Option.ite_none_right_eq_some.mp moved
    obtain ⟨down, done, rfl⟩ := Option.map_eq_some_iff.mp moved
    have nothing := sound.down.shaken.read (by rw [forwarding]; rfl)
    exact ⟨clean.up, clean_moveBack noFailure nothing clean.down done, clean.server, clean.client⟩
  | serverError => exact absurd smooth id
  | clientError => exact absurd smooth id
  | retry => exact absurd smooth id

theorem clean_of_reach (tcp : x.serviceType = .tcp) (reached : (system x).Reach Smooth s) :
    Clean s := by
  refine reached.invariant_with (K := Sound x) (fun _ here => sound_of_reach here) ?_
    fun s a t sound _ smooth moved clean => clean.step tcp sound smooth moved
  rintro s rfl
  refine ⟨?_, ?_, by simp [Setup.start], by simp [Setup.start]⟩
  · simp [Relay.Clean, Setup.start, Direction.line, Direction.fresh, Relay.Copy.fresh]
  · simp [Relay.Clean, Setup.start, Direction.line, Direction.fresh, Relay.Copy.fresh]

end Smooth

def Server.left : Server → Nat
  | .accepted => cmd.length + 2
  | .queued => cmd.length + 1
  | .starting left => left.length
  | .forwarding | .ended => 0

def Client.left : Client → Nat
  | .greeting left => left.length + 2
  | .waiting => 2
  | .connecting => 1
  | .forwarding | .ended => 0

/-- What the tunnel has left to do. -/
def State.left (s : State) : Nat :=
  s.server.left + s.client.left + Relay.work s.up.first s.up.line +
    Relay.work s.down.first s.down.line

section Delivery

variable {a : Action}

theorem left_greet {count : Nat} (sound : Sound x s) (moved : s.greet count = some t) :
    t.left < s.left := by
  unfold State.greet at moved
  split at moved
  · next left greeting =>
    obtain ⟨⟨some_, bound⟩, ⟨⟩⟩ := Option.ite_none_right_eq_some.mp moved
    have down := sound.down
    rw [greeting] at down
    obtain ⟨-, -, -, before, -⟩ := down.shaken.writing left rfl
    have rest : (left.drop count).length = left.length - count := List.length_drop
    have less :
        (if left.drop count = [] then Client.waiting else .greeting (left.drop count)).left <
          (Client.greeting left).left := by
      split <;> simp only [Client.left] <;> omega
    simp only [State.left, line_put before, greeting]
    change s.server.left + _ + Relay.work s.up.first s.up.line +
      Relay.work s.down.first s.down.line < _
    omega
  · cases moved

theorem left_start {count : Nat} (sound : Sound x s) (moved : s.start count = some t) :
    t.left < s.left := by
  unfold State.start at moved
  split at moved
  · next left starting =>
    obtain ⟨⟨some_, bound⟩, ⟨⟩⟩ := Option.ite_none_right_eq_some.mp moved
    have up := sound.up
    rw [starting] at up
    obtain ⟨-, -, -, before, -⟩ := up.shaken.writing left rfl
    have rest : (left.drop count).length = left.length - count := List.length_drop
    have less :
        (if left.drop count = [] then Server.forwarding else .starting (left.drop count)).left <
          (Server.starting left).left := by
      split <;> simp only [Server.left] <;> omega
    simp only [State.left, line_put before, starting]
    change _ + s.client.left + Relay.work s.up.first s.up.line +
      Relay.work s.down.first s.down.line < _
    omega
  · cases moved

theorem left_accept (sound : Sound x s) (moved : TcpTunnel.step x s .accept = some t) :
    t.left < s.left := by
  obtain ⟨accepted, moved⟩ := Option.ite_none_right_eq_some.mp moved
  split at moved
  · next version key rest read =>
    obtain ⟨-, ⟨⟩⟩ := Option.ite_none_right_eq_some.mp moved
    have down := sound.down
    rw [accepted] at down
    obtain ⟨front, stream, width, -⟩ := Protocol.readMessage_ok (Protocol.readHello_ok _ read).1
    rw [Protocol.packetLength] at width
    obtain ⟨-, line, -⟩ := down.take stream (width.trans (length_hello x).symm)
    simp only [State.left, line, accepted, Server.left]
    change _ + s.client.left + Relay.work s.up.first s.up.line +
      Relay.work s.down.first s.down.line < _
    omega
  · cases moved

theorem left_readCmd (tcp : x.serviceType = .tcp) (sound : Sound x s)
    (moved : TcpTunnel.step x s .readCmd = some t) : t.left < s.left := by
  obtain ⟨waiting, moved⟩ := Option.ite_none_right_eq_some.mp moved
  split at moved
  · next rest read =>
    rw [if_pos tcp] at moved
    cases moved
    have up := sound.up
    rw [waiting] at up
    obtain ⟨front, stream, width, -⟩ := Protocol.readMessage_ok read
    rw [Protocol.packetLength] at width
    have length : cmd.length = 4 := DataChannelCmd.length_serialize .startForwardTcp
    obtain ⟨-, line, -⟩ := up.take stream (width.trans length.symm)
    simp only [State.left, line, waiting, Client.left]
    change s.server.left + _ + Relay.work s.up.first s.up.line +
      Relay.work s.down.first s.down.line < _
    omega
  · cases moved

/-- A step of the tunnel leaves less to do. -/
theorem left_of_own (tcp : x.serviceType = .tcp) (sound : Sound x s) (own : a.isOwn = true)
    (moved : TcpTunnel.step x s a = some t) : t.left < s.left := by
  cases a with
  | visitorSend items => cases own
  | visitorEnd => cases own
  | localSend items => cases own
  | localEnd => cases own
  | greet count => exact left_greet sound moved
  | accept => exact left_accept sound moved
  | take =>
    obtain ⟨queued, ⟨⟩⟩ := Option.ite_none_right_eq_some.mp moved
    simp only [State.left, queued, Server.left]
    omega
  | start count => exact left_start sound moved
  | readCmd => exact left_readCmd tcp sound moved
  | connect =>
    obtain ⟨connecting, ⟨⟩⟩ := Option.ite_none_right_eq_some.mp moved
    simp only [State.left, connecting, Client.left]
    omega
  | upFront m =>
    obtain ⟨⟨-, noFailure⟩, moved⟩ := Option.ite_none_right_eq_some.mp moved
    obtain ⟨up, done, rfl⟩ := Option.map_eq_some_iff.mp moved
    have less := Relay.work_stepAt noFailure (line_moveFront sound.up.shaken.bound done).1
    simp only [State.left]
    omega
  | upBack m =>
    obtain ⟨⟨forwarding, noFailure⟩, moved⟩ := Option.ite_none_right_eq_some.mp moved
    obtain ⟨up, done, rfl⟩ := Option.map_eq_some_iff.mp moved
    have nothing := sound.up.shaken.read (by rw [forwarding]; rfl)
    have less := Relay.work_stepAt noFailure (line_moveBack (.inl nothing) done).1
    simp only [State.left]
    omega
  | downFront m =>
    obtain ⟨⟨-, noFailure⟩, moved⟩ := Option.ite_none_right_eq_some.mp moved
    obtain ⟨down, done, rfl⟩ := Option.map_eq_some_iff.mp moved
    have less := Relay.work_stepAt noFailure (line_moveFront sound.down.shaken.bound done).1
    simp only [State.left]
    omega
  | downBack m =>
    obtain ⟨⟨forwarding, noFailure⟩, moved⟩ := Option.ite_none_right_eq_some.mp moved
    obtain ⟨down, done, rfl⟩ := Option.map_eq_some_iff.mp moved
    have nothing := sound.down.shaken.read (by rw [forwarding]; rfl)
    have less := Relay.work_stepAt noFailure (line_moveBack (.inl nothing) done).1
    simp only [State.left]
    omega
  | serverError => cases own
  | clientError => cases own
  | retry => cases own

/-- A message that is written is in front on the channel. -/
theorem message_of_written {msg : List UInt8} {w : Writer} {d : Direction}
    (shaken : Shaken msg w .reading d) (written : d.unread = msg.length) :
    ∃ rest, d.channel.items = msg ++ rest := by
  obtain ⟨-, taken, -⟩ := shaken.reading rfl
  rw [written, List.take_length] at taken
  have whole := List.take_append_drop msg.length d.channel.items
  rw [taken] at whole
  exact ⟨_, whole.symm⟩

section Stuck

variable (stuck : ∀ a : Action, a.isOwn = true → TcpTunnel.step x s a = none)
include stuck

theorem greeted_of_stuck (sound : Sound x s) (left : List UInt8) : s.client ≠ .greeting left := by
  intro greeting
  have down := sound.down
  rw [greeting] at down
  obtain ⟨some_, -⟩ := down.shaken.writing left rfl
  have greet : s.greet left.length = none := stuck (.greet left.length) rfl
  simp [State.greet, greeting, List.length_pos_iff, some_] at greet

theorem server_of_stuck (leads : x.leadsTo x.key = true) (sound : Sound x s) (clean : Clean s) :
    s.server = .forwarding := by
  have down := sound.down
  cases server : s.server with
  | accepted =>
    have written : s.client.writer = .written := by
      cases client : s.client with
      | greeting left => exact absurd client (greeted_of_stuck stuck sound left)
      | waiting | connecting | forwarding => rfl
      | ended => exact absurd client clean.client
    rw [server, written] at down
    obtain ⟨rest, items⟩ := message_of_written down.shaken (down.shaken.written rfl rfl)
    have read : readHello x.digest s.down.channel.items =
        .ok (.dataChannelHello currentProtoVersion x.key, rest) := by
      rw [items, Setup.hello]
      exact Protocol.readHello_append x.digest rfl rest
    have accept : s.accept x = none := stuck .accept rfl
    simp [State.accept, server, read, leads] at accept
  | queued =>
    have take : s.take = none := stuck .take rfl
    simp [State.take, server] at take
  | starting left =>
    have up := sound.up
    rw [server] at up
    obtain ⟨some_, -⟩ := up.shaken.writing left rfl
    have start : s.start left.length = none := stuck (.start left.length) rfl
    simp [State.start, server, List.length_pos_iff, some_] at start
  | forwarding => rfl
  | ended => exact absurd server clean.server

theorem client_of_stuck (tcp : x.serviceType = .tcp) (sound : Sound x s) (clean : Clean s)
    (server : s.server = .forwarding) : s.client = .forwarding := by
  have up := sound.up
  cases client : s.client with
  | greeting left => exact absurd client (greeted_of_stuck stuck sound left)
  | waiting =>
    rw [server, client] at up
    obtain ⟨rest, items⟩ := message_of_written up.shaken (up.shaken.written rfl rfl)
    have read : readDataCmd x.digest s.up.channel.items = .ok (.startForwardTcp, rest) := by
      rw [items, cmd, readDataCmd]
      exact Protocol.readMessage_append (by simp [Protocol.packetLength])
        (DataChannelCmd.deserialize_serialize .startForwardTcp) rest
    have readCmd : s.readCmd x = none := stuck .readCmd rfl
    simp [State.readCmd, client, read, tcp] at readCmd
  | connecting =>
    have connect : s.connect = none := stuck .connect rfl
    simp [State.connect, client] at connect
  | forwarding => rfl
  | ended => exact absurd client clean.client

end Stuck

/-- A direction whose copies have nothing left to do. -/
theorem delivered_of_stuck {msg : List UInt8} {w : Writer} {d : Direction}
    (sound : d.Sound msg w .read) (clean : Relay.Clean d.line)
    (front : ∀ m, m ≠ .fail → d.moveFront m = none) (back : ∀ m, m ≠ .fail → d.moveBack m = none) :
    d.last.items = d.sent ∧ (d.first.ended = true → d.last.ended = true) := by
  have nothing := sound.shaken.read rfl
  have whole : d.pipe = d.channel := by simp [Direction.pipe, nothing]
  have stuck : ∀ k m, m ≠ Move.fail → Relay.stepAt k m d.first d.line = none := by
    intro k m noFailure
    cases k with
    | zero =>
      have here := Option.map_eq_none_iff.mp (front m noFailure)
      rw [Direction.line, Relay.stepAt, whole, here]
      rfl
    | succ k =>
      cases k with
      | zero =>
        have here := Option.map_eq_none_iff.mp (back m noFailure)
        rw [Direction.line, Relay.stepAt, Relay.stepAt, whole, here]
        rfl
      | succ k => cases k <;> rfl
  obtain ⟨all, ends⟩ := Relay.last_of_stuck sound.line clean stuck
  exact ⟨all.trans sound.content, ends⟩

/-- What was sent, and whether it ends. -/
structure SameSent (s t : State) : Prop where
  up : t.up.sent = s.up.sent
  upEnded : t.up.first.ended = s.up.first.ended
  down : t.down.sent = s.down.sent
  downEnded : t.down.first.ended = s.down.first.ended

theorem same_moveFront {d e : Direction} {m : Move} (bound : d.unread ≤ d.channel.items.length)
    (moved : d.moveFront m = some e) : e.sent = d.sent ∧ e.first.ended = d.first.ended := by
  obtain ⟨step, sent, -⟩ := line_moveFront bound moved
  exact ⟨sent, (Relay.front_stepAt step).1⟩

theorem same_moveBack {d e : Direction} {m : Move} (nothing : d.unread = 0)
    (moved : d.moveBack m = some e) : e.sent = d.sent ∧ e.first.ended = d.first.ended := by
  obtain ⟨-, sent, -, first, -⟩ := line_moveBack (.inl nothing) moved
  exact ⟨sent, by rw [first]⟩

/-- The tunnel itself sends nothing. -/
theorem sameSent_of_own (tcp : x.serviceType = .tcp) (sound : Sound x s) (own : a.isOwn = true)
    (moved : TcpTunnel.step x s a = some t) : SameSent s t := by
  cases a with
  | visitorSend items => cases own
  | visitorEnd => cases own
  | localSend items => cases own
  | localEnd => cases own
  | greet count =>
    change s.greet count = some t at moved
    unfold State.greet at moved
    split at moved
    · obtain ⟨-, ⟨⟩⟩ := Option.ite_none_right_eq_some.mp moved
      exact ⟨rfl, rfl, rfl, rfl⟩
    · cases moved
  | accept =>
    obtain ⟨-, moved⟩ := Option.ite_none_right_eq_some.mp moved
    split at moved
    · obtain ⟨-, ⟨⟩⟩ := Option.ite_none_right_eq_some.mp moved
      exact ⟨rfl, rfl, rfl, rfl⟩
    · cases moved
  | take | connect =>
    obtain ⟨-, ⟨⟩⟩ := Option.ite_none_right_eq_some.mp moved
    exact ⟨rfl, rfl, rfl, rfl⟩
  | start count =>
    change s.start count = some t at moved
    unfold State.start at moved
    split at moved
    · obtain ⟨-, ⟨⟩⟩ := Option.ite_none_right_eq_some.mp moved
      exact ⟨rfl, rfl, rfl, rfl⟩
    · cases moved
  | readCmd =>
    obtain ⟨-, moved⟩ := Option.ite_none_right_eq_some.mp moved
    split at moved
    · rw [if_pos tcp] at moved
      cases moved
      exact ⟨rfl, rfl, rfl, rfl⟩
    · cases moved
  | upFront m =>
    obtain ⟨-, moved⟩ := Option.ite_none_right_eq_some.mp moved
    obtain ⟨up, done, rfl⟩ := Option.map_eq_some_iff.mp moved
    obtain ⟨sent, ended⟩ := same_moveFront sound.up.shaken.bound done
    exact ⟨sent, ended, rfl, rfl⟩
  | upBack m =>
    obtain ⟨⟨forwarding, -⟩, moved⟩ := Option.ite_none_right_eq_some.mp moved
    obtain ⟨up, done, rfl⟩ := Option.map_eq_some_iff.mp moved
    obtain ⟨sent, ended⟩ := same_moveBack (sound.up.shaken.read (by rw [forwarding]; rfl)) done
    exact ⟨sent, ended, rfl, rfl⟩
  | downFront m =>
    obtain ⟨-, moved⟩ := Option.ite_none_right_eq_some.mp moved
    obtain ⟨down, done, rfl⟩ := Option.map_eq_some_iff.mp moved
    obtain ⟨sent, ended⟩ := same_moveFront sound.down.shaken.bound done
    exact ⟨rfl, rfl, sent, ended⟩
  | downBack m =>
    obtain ⟨⟨forwarding, -⟩, moved⟩ := Option.ite_none_right_eq_some.mp moved
    obtain ⟨down, done, rfl⟩ := Option.map_eq_some_iff.mp moved
    obtain ⟨sent, ended⟩ := same_moveBack (sound.down.shaken.read (by rw [forwarding]; rfl)) done
    exact ⟨rfl, rfl, sent, ended⟩
  | serverError => cases own
  | clientError => cases own
  | retry => cases own

theorem smooth_of_own (own : a.isOwn = true) : Smooth s a := by
  cases a with
  | serverError | clientError | retry => cases own
  | _ => trivial

/-- A run of the tunnel's own steps is no longer than what there is left to do. -/
theorem run_own (tcp : x.serviceType = .tcp) {as : List Action}
    (run : (system x).Run (fun _ a => a.isOwn = true) s as t) (sound : Sound x s)
    (clean : Clean s) :
    Sound x t ∧ Clean t ∧ SameSent s t ∧ as.length + t.left ≤ s.left := by
  induction run with
  | nil s => exact ⟨sound, clean, ⟨rfl, rfl, rfl, rfl⟩, by simp⟩
  | cons own moved rest ih =>
    have less := left_of_own tcp sound own moved
    have same := sameSent_of_own tcp sound own moved
    obtain ⟨sound', clean', later, bound⟩ :=
      ih (sound.step moved) (clean.step tcp sound (smooth_of_own own) moved)
    refine ⟨sound', clean', ⟨later.up.trans same.up, later.upEnded.trans same.upEnded,
      later.down.trans same.down, later.downEnded.trans same.downEnded⟩, ?_⟩
    rw [List.length_cons]
    omega

/-- The tunnel at rest. -/
theorem rest_of_stuck (tcp : x.serviceType = .tcp) (leads : x.leadsTo x.key = true)
    (sound : Sound x s) (clean : Clean s)
    (stuck : ∀ a : Action, a.isOwn = true → TcpTunnel.step x s a = none) :
    (s.up.last.items = s.up.sent ∧ (s.up.first.ended = true → s.up.last.ended = true)) ∧
      s.down.last.items = s.down.sent ∧ (s.down.first.ended = true → s.down.last.ended = true) := by
  have server := server_of_stuck stuck leads sound clean
  have client := client_of_stuck stuck tcp sound clean server
  have up := sound.up
  have down := sound.down
  rw [client] at up
  rw [server] at down
  refine ⟨delivered_of_stuck up clean.up (fun m noFailure => ?_) fun m noFailure => ?_,
    delivered_of_stuck down clean.down (fun m noFailure => ?_) fun m noFailure => ?_⟩
  · have here := stuck (.upFront m) rfl
    simpa [TcpTunnel.step, State.onUp, server, noFailure] using here
  · have here := stuck (.upBack m) rfl
    simpa [TcpTunnel.step, State.onUp, client, noFailure] using here
  · have here := stuck (.downFront m) rfl
    simpa [TcpTunnel.step, State.onDown, client, noFailure] using here
  · have here := stuck (.downBack m) rfl
    simpa [TcpTunnel.step, State.onDown, server, noFailure] using here

end Delivery

/-- Whatever fails, and however the bytes are cut, each side has received the front of what the
other has sent, and nothing of the handshake. While the pool still has the visitor, the local
service has received nothing. -/
theorem tunnel_in_order (reached : (system x).Reachable s) :
    s.up.last.items <+: s.up.sent ∧ s.down.last.items <+: s.down.sent ∧
      (s.waits = true → s.up.last.items = []) := by
  have sound := sound_of_reach reached
  have arrived : ∀ {msg w r} {d : Direction}, d.Sound msg w r → d.last.items <+: d.sent := by
    intro msg w r d sound
    rw [← sound.content]
    exact Relay.last_prefix d.first d.line
  refine ⟨arrived sound.up, arrived sound.down, fun waits => ?_⟩
  have writing : ∃ left, s.server.writer = .writing left := by
    revert waits
    unfold State.waits
    cases s.server with
    | accepted | queued | starting left => exact fun _ => ⟨_, rfl⟩
    | forwarding | ended => exact fun waits => absurd waits Bool.false_ne_true
  obtain ⟨left, writing⟩ := writing
  obtain ⟨-, -, -, -, -, -, nothing⟩ := sound.up.shaken.writing left writing
  exact nothing

/-- Without an error, each side sees the end of the other behind all that the other has sent. The
tunnel comes to rest from every state, whichever of its tasks runs first, and then all that was sent
has arrived, with the end on each side on which the other has ended. -/
theorem tunnel_delivers (tcp : x.serviceType = .tcp) (leads : x.leadsTo x.key = true)
    (reached : (system x).Reach Smooth s) :
    (s.up.last.ended = true → s.up.first.ended = true ∧ s.up.last.items = s.up.sent) ∧
      (s.down.last.ended = true → s.down.first.ended = true ∧ s.down.last.items = s.down.sent) ∧
      ∀ as t, (system x).Run (fun _ a => a.isOwn = true) s as t → as.length + t.left ≤ s.left ∧
        ((∀ a : Action, a.isOwn = true → step x t a = none) →
          t.up.last.items = s.up.sent ∧ t.down.last.items = s.down.sent ∧
            (s.up.first.ended = true → t.up.last.ended = true) ∧
            (s.down.first.ended = true → t.down.last.ended = true)) := by
  have sound := sound_of_reach reached
  have clean := clean_of_reach tcp reached
  have behind : ∀ {msg w r} {d : Direction}, d.Sound msg w r → Relay.Clean d.line →
      d.last.ended = true → d.first.ended = true ∧ d.last.items = d.sent := by
    intro msg w r d sound clean ended
    rw [← sound.content]
    exact Relay.last_of_ended sound.line clean ended
  refine ⟨behind sound.up clean.up, behind sound.down clean.down, fun as t run => ?_⟩
  obtain ⟨sound', clean', same, bound⟩ := run_own tcp run sound clean
  refine ⟨bound, fun stuck => ?_⟩
  obtain ⟨⟨up, upEnds⟩, down, downEnds⟩ := rest_of_stuck tcp leads sound' clean' stuck
  exact ⟨up.trans same.up, down.trans same.down, fun ended => upEnds (same.upEnded.trans ended),
    fun ended => downEnds (same.downEnded.trans ended)⟩

/-- A client whose session key is all zeros. -/
def zero : Setup where
  digest _ := ⟨List.replicate 32 0, rfl⟩
  key := ⟨List.replicate 32 0, rfl⟩
  leadsTo _ := true
  serviceType := .tcp

/-- The visitor sends a byte before anything else, and ends. The hello arrives in two pieces. -/
def byteUp : List Action :=
  [.visitorSend [7], .visitorEnd, .greet 5, .greet 32, .accept, .take, .start 4, .readCmd, .connect,
    .upFront (.read 1), .upFront (.write 1), .upBack (.read 1), .upBack (.write 1)]

theorem byteUp_in_order :
    ∃ s, (system zero).Reachable s ∧ s.up.last.items = [7] ∧ s.up.last.items <+: s.up.sent := by
  obtain ⟨s, reached, held⟩ := Transition.System.exists_reachable (m := system zero) rfl byteUp
    (fun s => s.up.last.items = [7]) (by decide +kernel)
  exact ⟨s, reached, of_decide_eq_true held, (tunnel_in_order reached).1⟩

def isSmooth (_ : State) (a : Action) : Bool :=
  decide (a ≠ .serverError ∧ a ≠ .clientError ∧ a ≠ .retry)

theorem smooth_of_isSmooth (s : State) (a : Action) (passed : isSmooth s a = true) :
    Smooth s a := by
  obtain ⟨noServer, noClient, noRetry⟩ := of_decide_eq_true passed
  cases a with
  | serverError | clientError | retry => contradiction
  | _ => trivial

/-- Of the byte, the end alone is left to pass on. -/
theorem byteUp_delivers :
    ∃ s, (system zero).Reach Smooth s ∧
      ∀ as t, (system zero).Run (fun _ a => a.isOwn = true) s as t →
        as.length + t.left ≤ s.left ∧
          ((∀ a : Action, a.isOwn = true → step zero t a = none) →
            t.up.last.items = s.up.sent) := by
  obtain ⟨s, reached, -⟩ := Transition.System.exists_reach (m := system zero) rfl byteUp
    (fun s => s.up.last.items = [7]) isSmooth smooth_of_isSmooth (by decide +kernel)
  refine ⟨s, reached, fun as t run => ?_⟩
  obtain ⟨bound, rest⟩ := (tunnel_delivers rfl rfl reached).2.2 as t run
  exact ⟨bound, fun stuck => (rest stuck).1⟩

end Rathole.TcpTunnel
