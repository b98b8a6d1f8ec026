import Rathole.TcpService
import Rathole.UdpService

set_option autoImplicit false

/- The data channels a pool has asked for, against the visitors that wait for one. -/
namespace Rathole.ControlChannel.Handle

variable {h : UInt64} {a b : Handle}

/-- The queue of data channels and the counts are as they were. -/
structure Kept (a b : Handle) : Prop where
  dataCh : b.dataCh = a.dataCh
  delivered : b.delivered = a.delivered
  sent : b.sent = a.sent
  taken : b.taken = a.taken

theorem kept_loop {x : Action} (moved : a.loop h x = some b) : Kept a b := by
  obtain ⟨control, -, rfl⟩ := Option.map_eq_some_iff.mp moved
  exact ⟨rfl, rfl, rfl, rfl⟩

theorem kept_tell (moved : a.tell = some b) : Kept a b := by
  obtain ⟨-, ⟨⟩⟩ := Option.ite_none_right_eq_some.mp moved
  exact ⟨rfl, rfl, rfl, rfl⟩

theorem kept_lose (moved : a.lose = some b) : Kept a b := by
  obtain ⟨-, ⟨⟩⟩ := Option.ite_none_right_eq_some.mp moved
  exact ⟨rfl, rfl, rfl, rfl⟩

theorem kept_drop (moved : a.drop = some b) : Kept a b := by
  obtain ⟨-, ⟨⟩⟩ := Option.ite_none_right_eq_some.mp moved
  exact ⟨rfl, rfl, rfl, rfl⟩

/-- `data_ch_req_tx.send(true)` adds a request and nothing else. -/
theorem request_spec (sent : a.request = some b) :
    b.dataCh = a.dataCh ∧ b.delivered = a.delivered ∧ b.sent = a.sent + 1 ∧ b.taken = a.taken := by
  obtain ⟨control, -, rfl⟩ := Option.map_eq_some_iff.mp sent
  exact ⟨rfl, rfl, rfl, rfl⟩

end Rathole.ControlChannel.Handle

namespace Rathole.TcpService

open ControlChannel (Handle)
open ControlChannel.Handle (Kept request_spec)

/-- The visitor in the hand of the pool. -/
def Pool.visitor : Pool → List Nat
  | .waiting visitor | .starting visitor _ => [visitor]
  | _ => []

/-- The data channel in the hand of the pool. -/
def Pool.channel : Pool → List Nat
  | .starting _ channel => [channel]
  | _ => []

/-- The pool is at `visitor_rx.recv()` or at `data_ch_rx.recv()`. -/
def Pool.Waits (p : Pool) : Prop := p = .receiving ∨ ∃ visitor, p = .waiting visitor

/-- The visitor in the hand of the listener. -/
def Listener.visitor : Listener → List Nat
  | .queueing visitor => [visitor]
  | _ => []

/-- The visitors that are accepted and not spliced, in the order they get their turn. -/
def State.unspliced (s : State) : List Nat := s.pool.visitor ++ s.visitors ++ s.listener.visitor

/-- The data channels that are started, and those that are still to be. -/
def State.channels (s : State) : List Nat := s.started ++ s.pool.channel ++ s.handle.dataCh

/-- Visitors are spliced in the order they were accepted, and data channels in the order
they were delivered. -/
structure Spliced (s : State) : Prop where
  visitors : s.spliced.map Prod.fst = List.range s.spliced.length
  started : s.spliced.map Prod.snd = s.started
  ordered : s.channels.Pairwise (· < ·)
  delivered : ∀ channel ∈ s.channels, channel < s.handle.delivered

/-- What a pool that runs keeps in balance. -/
structure Balanced (s : State) : Prop where
  visitors : s.unspliced = List.range' s.spliced.length s.unspliced.length
  accepted : s.listener ≠ .ended → s.spliced.length + s.unspliced.length = s.accepted
  requests : s.handle.sent + s.pool.channel.length =
    s.handle.taken + tcpPoolSize + s.unspliced.length

structure Sound (s : State) : Prop where
  spliced : Spliced s
  balanced : s.pool ≠ .ended → Balanced s

section Steps

variable {h : UInt64} {s t : State}

/-- A step that moves no visitor and no data channel to another place in the order. -/
theorem Sound.keep (sound : Sound s) (spliced : t.spliced = s.spliced)
    (started : t.started = s.started)
    (channels : t.channels = s.channels) (delivered : t.handle.delivered = s.handle.delivered)
    (alive : t.pool ≠ .ended → s.pool ≠ .ended ∧ t.unspliced = s.unspliced ∧
      (t.listener ≠ .ended → s.listener ≠ .ended ∧ t.accepted = s.accepted) ∧
      t.handle.sent = s.handle.sent ∧ t.handle.taken = s.handle.taken ∧
      t.pool.channel = s.pool.channel) : Sound t := by
  refine ⟨⟨?_, ?_, ?_, ?_⟩, fun running => ?_⟩
  · rw [spliced]
    exact sound.spliced.visitors
  · rw [spliced, started]
    exact sound.spliced.started
  · rw [channels]
    exact sound.spliced.ordered
  · rw [channels, delivered]
    exact sound.spliced.delivered
  · obtain ⟨before, unspliced, listening, sent, taken, channel⟩ := alive running
    have balanced := sound.balanced before
    refine ⟨?_, fun listens => ?_, ?_⟩
    · rw [unspliced, spliced]
      exact balanced.visitors
    · obtain ⟨listened, accepted⟩ := listening listens
      rw [unspliced, spliced, accepted]
      exact balanced.accepted listened
    · rw [sent, taken, channel, unspliced]
      exact balanced.requests

/-- A step of the handle that neither requests nor delivers a data channel. -/
theorem Sound.onHandle (sound : Sound s) {f : Handle → Option Handle}
    (kept : ∀ a b, f a = some b → Kept a b) (moved : s.onHandle f = some t) : Sound t := by
  obtain ⟨handle, made, rfl⟩ := Option.map_eq_some_iff.mp moved
  have kept := kept _ _ made
  refine sound.keep rfl rfl ?_ kept.delivered fun running =>
    ⟨running, rfl, fun listens => ⟨listens, rfl⟩, kept.sent, kept.taken, rfl⟩
  simp [State.channels, kept.dataCh]

/-- The pool ends: the data channels in its queue and in its hand are dropped. -/
theorem Sound.endPool (sound : Sound s) : Sound s.endPool := by
  have left : s.endPool.channels.Sublist s.channels := by
    simp [State.endPool, State.channels, Pool.channel]
  exact ⟨⟨sound.spliced.visitors, sound.spliced.started, sound.spliced.ordered.sublist left,
    fun channel member => sound.spliced.delivered channel (left.subset member)⟩,
    fun running => absurd rfl running⟩

theorem Sound.endListener (sound : Sound s) (empty : s.listener.visitor = []) :
    Sound s.endListener := by
  refine sound.keep rfl rfl rfl rfl fun running =>
    ⟨running, ?_, fun listens => absurd rfl listens, rfl, rfl, rfl⟩
  show s.pool.visitor ++ s.visitors ++ [] = _
  rw [State.unspliced, empty]

theorem Sound.accept (sound : Sound s) (moved : s.accept = some t) : Sound t := by
  obtain ⟨accepting, moved⟩ := Option.ite_none_right_eq_some.mp moved
  split at moved
  · next handle sent =>
    cases moved
    obtain ⟨dataCh, delivered, requests, taken⟩ := request_spec sent
    refine ⟨⟨sound.spliced.visitors, sound.spliced.started, ?_, ?_⟩, fun running => ?_⟩
    · simpa [State.channels, dataCh] using sound.spliced.ordered
    · simpa [State.channels, dataCh, delivered] using sound.spliced.delivered
    · have balanced := sound.balanced running
      have count := balanced.accepted (by simp [accepting])
      -- the visitor joins at the end of the line
      have joined : State.unspliced { s with
          handle := handle, listener := .queueing s.accepted, accepted := s.accepted + 1 } =
          s.unspliced ++ [s.accepted] := by
        simp [State.unspliced, accepting, Listener.visitor]
      refine ⟨?_, fun _ => ?_, ?_⟩
      · rw [joined, List.length_append, List.length_singleton, List.range'_1_concat,
          ← balanced.visitors, count]
      · rw [joined, List.length_append, List.length_singleton, ← Nat.add_assoc, count]
      · rw [joined, List.length_append, List.length_singleton, requests, taken]
        have requests := balanced.requests
        show s.handle.sent + 1 + s.pool.channel.length = _
        omega
  · cases moved
    refine sound.keep rfl rfl rfl rfl fun running =>
      ⟨running, ?_, fun listens => absurd rfl listens, rfl, rfl, rfl⟩
    simp [State.unspliced, State.endListener, Listener.visitor, accepting]

theorem Sound.enqueue (sound : Sound s) (moved : s.enqueue = some t) : Sound t := by
  unfold State.enqueue at moved
  split at moved
  · next visitor queueing =>
    split at moved
    · next finished =>
      cases moved
      exact sound.keep rfl rfl rfl rfl fun running => absurd finished running
    · obtain ⟨-, ⟨⟩⟩ := Option.ite_none_right_eq_some.mp moved
      refine sound.keep rfl rfl rfl rfl fun running =>
        ⟨running, ?_, fun _ => ⟨by simp [queueing], rfl⟩, rfl, rfl, rfl⟩
      simp [State.unspliced, queueing, Listener.visitor]
  · cases moved

theorem Sound.takeVisitor (sound : Sound s) (moved : s.takeVisitor = some t) : Sound t := by
  unfold State.takeVisitor at moved
  split at moved
  · next visitor rest receiving queue =>
    cases moved
    refine sound.keep rfl rfl ?_ rfl fun _ =>
      ⟨by simp [receiving], ?_, fun listens => ⟨listens, rfl⟩, rfl, rfl,
        by simp [receiving, Pool.channel]⟩
    · simp [State.channels, receiving, Pool.channel]
    · simp [State.unspliced, receiving, queue, Pool.visitor]
  · cases moved

theorem Sound.takeChannel (sound : Sound s) (moved : s.takeChannel = some t) : Sound t := by
  unfold State.takeChannel at moved
  split at moved
  · next visitor channel rest waiting queue =>
    cases moved
    have balanced := sound.balanced (by simp [waiting])
    have channels : State.channels { s with
        handle := { s.handle with dataCh := rest, taken := s.handle.taken + 1 }
        pool := .starting visitor channel } = s.channels := by
      simp [State.channels, waiting, queue, Pool.channel]
    have unspliced : State.unspliced { s with
        handle := { s.handle with dataCh := rest, taken := s.handle.taken + 1 }
        pool := .starting visitor channel } = s.unspliced := by
      simp [State.unspliced, waiting, Pool.visitor]
    refine ⟨⟨sound.spliced.visitors, sound.spliced.started, ?_, ?_⟩, fun _ => ⟨?_, ?_, ?_⟩⟩
    · exact channels ▸ sound.spliced.ordered
    · exact channels ▸ sound.spliced.delivered
    · exact unspliced ▸ balanced.visitors
    · exact unspliced ▸ balanced.accepted
    · have requests := balanced.requests
      rw [waiting] at requests
      rw [unspliced]
      simp only [Pool.channel, List.length_nil, List.length_singleton] at requests ⊢
      omega
  · cases moved

/-- The first of the line leaves it with the data channel in hand. -/
theorem Sound.splice (sound : Sound s) {visitor channel : Nat}
    (starting : s.pool = .starting visitor channel) :
    Sound { s with
      pool := .receiving
      started := s.started ++ [channel]
      spliced := s.spliced ++ [(visitor, channel)] } := by
  have balanced := sound.balanced (by simp [starting])
  have line : s.unspliced = visitor :: (s.visitors ++ s.listener.visitor) := by
    simp [State.unspliced, starting, Pool.visitor]
  have visitors := balanced.visitors
  rw [line, List.length_cons, List.range'_succ] at visitors
  obtain ⟨rfl, rest⟩ := List.cons.inj visitors
  have channels : State.channels { s with
      pool := .receiving
      started := s.started ++ [channel]
      spliced := s.spliced ++ [(s.spliced.length, channel)] } = s.channels := by
    simp [State.channels, starting, Pool.channel]
  refine ⟨⟨?_, ?_, ?_, ?_⟩, fun _ => ⟨?_, fun listens => ?_, ?_⟩⟩
  · simp [sound.spliced.visitors, List.range_succ]
  · simp [sound.spliced.started]
  · rw [channels]
    exact sound.spliced.ordered
  · rw [channels]
    exact sound.spliced.delivered
  · simpa [State.unspliced, Pool.visitor] using rest
  · have accepted := balanced.accepted listens
    rw [line, List.length_cons] at accepted
    simp only [State.unspliced, Pool.visitor, List.nil_append, List.length_append,
      List.length_singleton] at accepted ⊢
    omega
  · have requests := balanced.requests
    rw [line, starting, List.length_cons] at requests
    simp only [State.unspliced, Pool.visitor, Pool.channel, List.nil_append, List.length_nil,
      List.length_singleton, List.length_append] at requests ⊢
    omega

/-- A broken data channel is dropped, and the request for the next one balances it. -/
theorem Sound.retry (sound : Sound s) {visitor channel : Nat} {handle : Handle}
    (starting : s.pool = .starting visitor channel) (sent : s.handle.request = some handle) :
    Sound { s with handle := handle, pool := .waiting visitor } := by
  obtain ⟨dataCh, delivered, requests, taken⟩ := request_spec sent
  have left : (State.channels { s with handle := handle, pool := .waiting visitor }).Sublist
      s.channels := by
    simp [State.channels, starting, dataCh, Pool.channel]
  have unspliced : State.unspliced { s with handle := handle, pool := .waiting visitor } =
      s.unspliced := by
    simp [State.unspliced, starting, Pool.visitor]
  refine ⟨⟨sound.spliced.visitors, sound.spliced.started, sound.spliced.ordered.sublist left,
    fun channel member => ?_⟩, fun _ => ?_⟩
  · rw [delivered]
    exact sound.spliced.delivered channel (left.subset member)
  · have balanced := sound.balanced (by simp [starting])
    refine ⟨?_, fun listens => ?_, ?_⟩
    · rw [unspliced]
      exact balanced.visitors
    · rw [unspliced]
      exact balanced.accepted listens
    · have before := balanced.requests
      rw [unspliced, requests, taken]
      rw [starting] at before
      simp only [Pool.channel, List.length_nil, List.length_singleton] at before ⊢
      omega

theorem Sound.write (sound : Sound s) {ok : Bool} (moved : s.write ok = some t) : Sound t := by
  unfold State.write at moved
  split at moved
  · next visitor channel starting =>
    cases ok with
    | true =>
      cases moved
      exact sound.splice starting
    | false =>
      simp only [Bool.false_eq_true, if_false] at moved
      split at moved
      · next handle sent =>
        cases moved
        exact sound.retry starting sent
      · cases moved
        exact sound.endPool
  · cases moved

/-- The new data channel goes to the end of the queue. -/
theorem Sound.deliver (sound : Sound s) (moved : s.deliver = some t) : Sound t := by
  obtain ⟨running, moved⟩ := Option.ite_none_left_eq_some.mp moved
  obtain ⟨handle, made, rfl⟩ := Option.map_eq_some_iff.mp moved
  obtain ⟨-, ⟨⟩⟩ := Option.ite_none_right_eq_some.mp made
  have balanced := sound.balanced running
  refine ⟨⟨sound.spliced.visitors, sound.spliced.started, ?_, ?_⟩, fun _ =>
    ⟨balanced.visitors, balanced.accepted, balanced.requests⟩⟩
  · rw [State.channels, ← List.append_assoc, List.pairwise_append]
    refine ⟨sound.spliced.ordered, List.pairwise_singleton _ _, fun channel member last same => ?_⟩
    rw [List.mem_singleton.mp same]
    exact sound.spliced.delivered channel member
  · intro channel member
    rw [State.channels, ← List.append_assoc, List.mem_append, List.mem_singleton] at member
    rcases member with member | rfl
    · exact Nat.lt_succ_of_lt (sound.spliced.delivered channel member)
    · exact Nat.lt_succ_self _

theorem Sound.step {a : Action} (moved : step h s a = some t) (sound : Sound s) : Sound t := by
  cases a with
  | control a => exact sound.onHandle (fun _ _ => Handle.kept_loop) moved
  | bind =>
    obtain ⟨binding, ⟨⟩⟩ := Option.ite_none_right_eq_some.mp moved
    refine sound.keep rfl rfl rfl rfl fun running =>
      ⟨running, ?_, fun _ => ⟨by simp [binding], rfl⟩, rfl, rfl, rfl⟩
    simp [State.unspliced, binding, Listener.visitor]
  | accept => exact sound.accept moved
  | acceptError =>
    obtain ⟨accepting, ⟨⟩⟩ := Option.ite_none_right_eq_some.mp moved
    refine sound.keep rfl rfl rfl rfl fun running =>
      ⟨running, ?_, fun _ => ⟨by simp [accepting], rfl⟩, rfl, rfl, rfl⟩
    simp [State.unspliced, accepting, Listener.visitor]
  | wake =>
    obtain ⟨sleeping, ⟨⟩⟩ := Option.ite_none_right_eq_some.mp moved
    refine sound.keep rfl rfl rfl rfl fun running =>
      ⟨running, ?_, fun _ => ⟨by simp [sleeping], rfl⟩, rfl, rfl, rfl⟩
    simp [State.unspliced, sleeping, Listener.visitor]
  | enqueue => exact sound.enqueue moved
  | listenerShutdown =>
    obtain ⟨⟨polled, -⟩, ⟨⟩⟩ := Option.ite_none_right_eq_some.mp moved
    refine sound.endListener ?_
    rcases polled with binding | accepting
    · simp [binding, Listener.visitor]
    · simp [accepting, Listener.visitor]
  | takeVisitor => exact sound.takeVisitor moved
  | closeVisitors =>
    obtain ⟨-, ⟨⟩⟩ := Option.ite_none_right_eq_some.mp moved
    exact sound.endPool
  | takeChannel => exact sound.takeChannel moved
  | closeChannels =>
    change s.closeChannels = some t at moved
    unfold State.closeChannels at moved
    split at moved
    · obtain ⟨-, ⟨⟩⟩ := Option.ite_none_right_eq_some.mp moved
      exact sound.endPool
    · cases moved
  | write ok => exact sound.write moved
  | deliver => exact sound.deliver moved
  | tell => exact sound.onHandle (fun _ _ => Handle.kept_tell) moved
  | lose => exact sound.onHandle (fun _ _ => Handle.kept_lose) moved
  | drop => exact sound.onHandle (fun _ _ => Handle.kept_drop) moved

theorem Sound.start : Sound (.start h) := by
  refine ⟨⟨rfl, rfl, List.Pairwise.nil, fun channel member => by cases member⟩, fun _ =>
    ⟨rfl, fun _ => rfl, rfl⟩⟩

theorem sound_of_reachable (reached : (system h).Reachable s) : Sound s :=
  reached.invariant (by rintro s rfl; exact .start) fun _ _ _ _ moved => .step moved

end Steps

end Rathole.TcpService

namespace Rathole.UdpService

open ControlChannel (Handle)
open ControlChannel.Handle (Kept request_spec)

/-- The data channels a pool is short of: the one it waits for. -/
def Pool.short : Pool → Nat
  | .binding | .waiting => 1
  | _ => 0

def Balanced (s : State) : Prop :=
  s.pool ≠ .ended → s.handle.sent = s.handle.taken + s.pool.short

section Steps

variable {h : UInt64} {s t : State}

theorem Balanced.onHandle (balanced : Balanced s) {f : Handle → Option Handle}
    (sent : ∀ a b, f a = some b → b.sent = a.sent) (taken : ∀ a b, f a = some b → b.taken = a.taken)
    (moved : s.onHandle f = some t) : Balanced t := by
  obtain ⟨handle, made, rfl⟩ := Option.map_eq_some_iff.mp moved
  intro running
  rw [sent _ _ made, taken _ _ made]
  exact balanced running

theorem Balanced.kept (balanced : Balanced s) {f : Handle → Option Handle}
    (kept : ∀ a b, f a = some b → Kept a b) (moved : s.onHandle f = some t) : Balanced t :=
  balanced.onHandle (fun a b made => (kept a b made).sent) (fun a b made => (kept a b made).taken)
    moved

theorem Balanced.endPool : Balanced s.endPool := fun running => absurd rfl running

/-- The data channel in the hand of the pool is replaced by a request. -/
theorem Balanced.replace (balanced : Balanced s) (running : s.pool ≠ .ended)
    (held : s.pool.short = 0) : Balanced s.replace := by
  unfold State.replace
  split
  · next handle sent =>
    obtain ⟨-, -, requests, taken⟩ := request_spec sent
    have before := balanced running
    intro _
    show handle.sent = handle.taken + 1
    omega
  · exact .endPool

theorem Balanced.step {a : Action} (moved : step h s a = some t) (balanced : Balanced s) :
    Balanced t := by
  cases a with
  | control a => exact balanced.kept (fun _ _ => Handle.kept_loop) moved
  | bind =>
    obtain ⟨binding, ⟨⟩⟩ := Option.ite_none_right_eq_some.mp moved
    intro _
    have before := balanced (by simp [binding])
    rw [binding] at before
    exact before
  | takeChannel =>
    change s.takeChannel = some t at moved
    unfold State.takeChannel at moved
    split at moved
    · next channel rest waiting queue =>
      cases moved
      intro _
      have before := balanced (by simp [waiting])
      rw [waiting] at before
      exact before
    · cases moved
  | closeChannels =>
    obtain ⟨-, ⟨⟩⟩ := Option.ite_none_right_eq_some.mp moved
    exact .endPool
  | write ok =>
    change s.write ok = some t at moved
    unfold State.write at moved
    split at moved
    · next channel starting =>
      cases moved
      have running : s.pool ≠ .ended := by simp [starting]
      have held : s.pool.short = 0 := by simp [starting, Pool.short]
      cases ok with
      | true =>
        intro _
        have before := balanced running
        rw [held] at before
        exact before
      | false => exact balanced.replace running held
    · cases moved
  | broken =>
    change s.broken = some t at moved
    unfold State.broken at moved
    split at moved
    · next channel forwarding =>
      cases moved
      exact balanced.replace (by simp [forwarding]) (by simp [forwarding, Pool.short])
    · cases moved
  | shutdown =>
    change s.shutdown = some t at moved
    unfold State.shutdown at moved
    split at moved
    all_goals first | cases moved | obtain ⟨-, ⟨⟩⟩ := Option.ite_none_right_eq_some.mp moved
    all_goals exact .endPool
  | deliver =>
    obtain ⟨-, moved⟩ := Option.ite_none_left_eq_some.mp moved
    refine balanced.onHandle (fun x y made => ?_) (fun x y made => ?_) moved
    all_goals
      obtain ⟨-, ⟨⟩⟩ := Option.ite_none_right_eq_some.mp made
      rfl
  | tell => exact balanced.kept (fun _ _ => Handle.kept_tell) moved
  | lose => exact balanced.kept (fun _ _ => Handle.kept_lose) moved
  | drop => exact balanced.kept (fun _ _ => Handle.kept_drop) moved

theorem balanced_of_reachable (reached : (system h).Reachable s) : Balanced s :=
  reached.invariant (by rintro s rfl _; rfl) fun _ _ _ _ moved => .step moved

end Steps

end Rathole.UdpService

namespace Rathole

open ControlChannel (Handle)

/-- The requests that are not answered by a data channel taken from the queue. -/
def ControlChannel.Handle.outstanding (s : Handle) : Int := s.sent - s.taken

/-- The pool of a TCP service has eight data channels ahead of its visitors, which it
splices in their order, and the pool of a UDP service asks for one at a time. -/
theorem pools_accounted (h : UInt64) :
    (∀ s, (TcpService.system h).Reachable s →
      (s.listener ≠ .ended → s.pool.Waits →
        s.handle.outstanding = TcpService.tcpPoolSize + (s.accepted - s.spliced.length) ∧
        s.spliced.map Prod.fst ++ s.unspliced = List.range s.accepted) ∧
      s.spliced.map Prod.fst = List.range s.spliced.length ∧
      s.spliced.map Prod.snd = s.started ∧ s.started.Nodup) ∧
    ∀ s, (UdpService.system h).Reachable s →
      (s.pool = .waiting → s.handle.outstanding = 1) ∧
      ∀ channel, s.pool = .forwarding channel → s.handle.outstanding = 0 := by
  refine ⟨fun s reached => ?_, fun s reached => ?_⟩
  · have sound := TcpService.sound_of_reachable reached
    refine ⟨fun listens waits => ?_, sound.spliced.visitors, sound.spliced.started, ?_⟩
    · have running : s.pool ≠ .ended := by
        rcases waits with receiving | ⟨visitor, waiting⟩
        · simp [receiving]
        · simp [waiting]
      have empty : s.pool.channel = [] := by
        rcases waits with receiving | ⟨visitor, waiting⟩
        · simp [receiving, TcpService.Pool.channel]
        · simp [waiting, TcpService.Pool.channel]
      have balanced := sound.balanced running
      have accepted := balanced.accepted listens
      have requests := balanced.requests
      rw [empty, List.length_nil] at requests
      refine ⟨?_, ?_⟩
      · show (s.handle.sent : Int) - s.handle.taken = _
        omega
      · rw [sound.spliced.visitors, balanced.visitors, ← accepted, List.range_eq_range',
          List.range_eq_range', ← List.range'_append_1, Nat.zero_add]
    · have ordered := sound.spliced.ordered
      rw [TcpService.State.channels, List.append_assoc] at ordered
      exact (List.pairwise_append.mp ordered).1.imp Nat.ne_of_lt
  · have balanced := UdpService.balanced_of_reachable reached
    refine ⟨fun waiting => ?_, fun channel forwarding => ?_⟩
    · have count := balanced (by simp [waiting])
      rw [waiting] at count
      show (s.handle.sent : Int) - s.handle.taken = 1
      simp only [UdpService.Pool.short] at count
      omega
    · have count := balanced (by simp [forwarding])
      rw [forwarding] at count
      show (s.handle.sent : Int) - s.handle.taken = 0
      simp only [UdpService.Pool.short] at count
      omega

end Rathole
