import Rathole.Server

set_option autoImplicit false

/- What the steps of the server leave alone, and inversion lemmas for the steps
that update the stores. -/
namespace Rathole.Server

variable {D : Type} [DecidableEq D] {digest : List UInt8 → D} {s t : State D}

/-- A handshake between its registry update and its map update. -/
structure Pending (D : Type) where
  source : SocketAddr
  digest : D
  key : D
  service : ServerServiceConfig
  stamp : Nat

def Conn.pending : Conn D → Option (Pending D)
  | ⟨source, .registering d key service stamp⟩ => some ⟨source, d, key, service, stamp⟩
  | _ => none

def State.pending (s : State D) (c : Nat) : Option (Pending D) :=
  (s.conns.lookup c).bind Conn.pending

def State.gone (s : State D) (c : Nat) : Prop := ∃ source, s.conns.lookup c = some ⟨source, .closed⟩

/-- A session without its queues. -/
structure Session.Core where
  service : ServerServiceConfig
  source : SocketAddr
  since : Nat
  task : ControlTask

def Session.core (x : Session) : Core := ⟨x.service, x.source, x.since, x.task⟩

def State.session (s : State D) (c : Nat) : Option Session.Core :=
  (s.sessions.lookup c).map Session.core

/-- The section, both service tables, the registry entries and the place of every update in
flight are as before; a connection may have moved on otherwise. -/
structure Quiet (s t : State D) : Prop where
  config : t.config = s.config
  services : t.services = s.services
  channels : t.controlChannels = s.controlChannels
  entries : t.runtime.services = s.runtime.services
  reload : t.reload = s.reload
  stamp : t.stamp = s.stamp
  sessions : ∀ c, t.session c = s.session c
  pending : ∀ c, t.pending c = s.pending c
  gone : ∀ c, s.gone c → t.gone c

/-- A connection that moves between two phases neither of which is `registering`. -/
theorem Quiet.conns {c : Nat} {conn : Conn D} (idle : s.pending c = none) (live : ¬ s.gone c)
    (next : conn.pending = none) (same : t.conns = s.conns.insert c conn)
    (config : t.config = s.config) (services : t.services = s.services)
    (channels : t.controlChannels = s.controlChannels)
    (entries : t.runtime.services = s.runtime.services) (reload : t.reload = s.reload)
    (stamp : t.stamp = s.stamp) (sessions : ∀ c, t.session c = s.session c) : Quiet s t := by
  refine ⟨config, services, channels, entries, reload, stamp, sessions,
    fun c' => ?_, fun c' gone => ?_⟩
  · simp only [State.pending, same, lookup_insert_eq]
    split
    · next here =>
      rw [here]
      exact next.trans idle.symm
    · rfl
  · have other : c' ≠ c := fun here => live (here ▸ gone)
    obtain ⟨source, found⟩ := gone
    exact ⟨source, by rw [same, lookup_insert_eq, if_neg other, found]⟩

theorem not_gone {c : Nat} {source : SocketAddr} {phase : Phase D}
    (found : s.conns.lookup c = some ⟨source, phase⟩) (live : phase ≠ .closed) : ¬ s.gone c := by
  rintro ⟨source', gone⟩
  rw [found] at gone
  cases gone
  exact live rfl

theorem pending_of_lookup {c : Nat} {conn : Conn D} (found : s.conns.lookup c = some conn) :
    s.pending c = conn.pending := by
  rw [State.pending, found, Option.bind_some]

theorem lookup_of_pending {c : Nat} {p : Pending D} (pending : s.pending c = some p) :
    s.conns.lookup c = some ⟨p.source, .registering p.digest p.key p.service p.stamp⟩ := by
  obtain ⟨⟨source, phase⟩, found, made⟩ := Option.bind_eq_some_iff.mp pending
  cases phase <;> cases made
  exact found

/-- The steps that touch a service table, the registry or the task of a session. -/
def Action.updates : Action D → Bool
  | .connect .. | .register .. | .deadline .. | .endTask .. | .disconnect .. | .reload ..
  | .reloadServices | .reloadChannels => true
  | _ => false

theorem session_insert (s : State D) (c c' : Nat) (x y : Session)
    (found : s.sessions.lookup c = some x) (core : y.core = x.core) :
    ((s.sessions.insert c y).lookup c').map Session.core = (s.sessions.lookup c').map Session.core := by
  rw [lookup_insert_eq]
  split
  · next here => rw [here, found, Option.map_some, Option.map_some, core]
  · rfl

theorem onSession_cases {c : Nat} {f : Session → Option Session}
    (moved : s.onSession c f = some t) :
    ∃ x y, s.sessions.lookup c = some x ∧ f x = some y ∧
      t = { s with sessions := s.sessions.insert c y } := by
  obtain ⟨y, applied, rfl⟩ := Option.map_eq_some_iff.mp moved
  obtain ⟨x, found, made⟩ := Option.bind_eq_some_iff.mp applied
  exact ⟨x, y, found, made, rfl⟩

theorem Quiet.session {c : Nat} {f : Session → Option Session}
    (moved : s.onSession c f = some t) (core : ∀ x y, f x = some y → y.core = x.core) :
    Quiet s t := by
  obtain ⟨x, y, found, made, rfl⟩ := onSession_cases moved
  exact ⟨rfl, rfl, rfl, rfl, rfl, rfl, fun c' => session_insert s c c' x y found (core x y made),
    fun _ => rfl, fun _ => id⟩

/-- A connection step out of a phase that is neither `registering` nor `closed`. -/
theorem Quiet.enter {c : Nat} {source : SocketAddr} {phase next : Phase D}
    (found : s.conns.lookup c = some ⟨source, phase⟩) (live : phase ≠ .closed)
    (idle : Conn.pending ⟨source, phase⟩ = none) (calm : Conn.pending ⟨source, next⟩ = none)
    (serviceReaders channelReaders : List Nat) :
    Quiet s { s.enter c source next with
      serviceReaders := serviceReaders, channelReaders := channelReaders } :=
  .conns ((pending_of_lookup found).trans idle) (not_gone found live) calm rfl rfl rfl rfl rfl rfl rfl
    fun _ => rfl

theorem Quiet.close {c : Nat} {source : SocketAddr} {phase : Phase D}
    (found : s.conns.lookup c = some ⟨source, phase⟩) (live : phase ≠ .closed)
    (idle : Conn.pending ⟨source, phase⟩ = none) : Quiet s (s.close c source) :=
  .conns ((pending_of_lookup found).trans idle) (not_gone found live) rfl rfl rfl rfl rfl rfl rfl rfl
    fun _ => rfl

theorem quiet_accept {c : Nat} {source : SocketAddr} (moved : s.accept c source = some t) :
    Quiet s t := by
  obtain ⟨⟨-, -, absent⟩, ⟨⟩⟩ := Option.ite_none_right_eq_some.mp moved
  refine .conns ?_ ?_ rfl rfl rfl rfl rfl rfl rfl rfl fun _ => rfl
  · rw [State.pending, absent, Option.bind_none]
  · rintro ⟨source', gone⟩
    rw [absent] at gone
    cases gone

theorem quiet_readControlHello {c : Nat} {d : D} {nonce : List UInt8}
    (moved : s.readControlHello c d nonce = some t) : Quiet s t := by
  unfold State.readControlHello at moved
  split at moved
  · next source found =>
    obtain ⟨-, ⟨⟩⟩ := Option.ite_none_right_eq_some.mp moved
    exact .enter found nofun rfl rfl _ _
  · cases moved

theorem quiet_readDataHello {c : Nat} {key : D} (moved : s.readDataHello c key = some t) :
    Quiet s t := by
  unfold State.readDataHello at moved
  split at moved
  · next source found =>
    cases moved
    exact .enter found nofun rfl rfl _ _
  · cases moved

theorem quiet_greet {c : Nat} (moved : s.greet c = some t) : Quiet s t := by
  unfold State.greet at moved
  split at moved
  · next source d nonce found =>
    cases moved
    exact .enter found nofun rfl rfl _ _
  · cases moved

theorem quiet_lookup {c : Nat} (moved : s.lookup c = some t) : Quiet s t := by
  unfold State.lookup at moved
  split at moved
  · next source d nonce found =>
    split at moved
    · cases moved
    · split at moved
      · cases moved
        exact .enter found nofun rfl rfl _ _
      · split at moved
        · cases moved
          exact .close found nofun rfl
        · cases moved
          exact .enter found nofun rfl rfl _ _
  · cases moved

theorem quiet_readAuth {c : Nat} {d : D} (moved : s.readAuth digest c d = some t) :
    Quiet s t := by
  unfold State.readAuth at moved
  split at moved
  · next source service_digest concat service found =>
    dsimp only at moved
    split at moved
    · cases moved
      exact .enter found nofun rfl rfl _ _
    · cases moved
      exact .enter found nofun rfl rfl _ _
  · cases moved

theorem quiet_route {c : Nat} (moved : s.route c = some t) : Quiet s t := by
  unfold State.route at moved
  split at moved
  · next source key found =>
    split at moved
    · cases moved
      exact .close found nofun rfl
    · cases moved
      exact .enter found nofun rfl rfl _ _
  · cases moved

theorem quiet_deliver {c : Nat} (moved : s.deliver c = some t) : Quiet s t := by
  unfold State.deliver at moved
  split at moved
  · next source session found =>
    split at moved
    · cases moved
    · next x held =>
      split at moved
      · obtain ⟨-, ⟨⟩⟩ := Option.ite_none_right_eq_some.mp moved
        exact .conns (pending_of_lookup found) (not_gone found nofun) rfl rfl rfl rfl rfl rfl rfl rfl
          fun c' => session_insert s session c' x _ held rfl
      · cases moved
        exact .close found nofun rfl
  · cases moved

theorem quiet_ioError {c : Nat} (moved : s.ioError c = some t) : Quiet s t := by
  unfold State.ioError at moved
  split at moved
  · next source phase found =>
    split at moved <;> cases moved <;> exact .close found nofun rfl
  · cases moved

theorem quiet_of_step {a : Action D} (moved : step digest s a = some t)
    (calm : a.updates = false) : Quiet s t := by
  cases a with
  | accept c source => exact quiet_accept moved
  | readControlHello c d nonce => exact quiet_readControlHello moved
  | readDataHello c key => exact quiet_readDataHello moved
  | greet c => exact quiet_greet moved
  | lookup c => exact quiet_lookup moved
  | readAuth c d => exact quiet_readAuth moved
  | route c => exact quiet_route moved
  | deliver c => exact quiet_deliver moved
  | ioError c => exact quiet_ioError moved
  | takeDataChannel c =>
    refine .session moved fun x y made => ?_
    obtain ⟨-, ⟨⟩⟩ := Option.ite_none_right_eq_some.mp made
    rfl
  | endPool c =>
    refine .session moved fun x y made => ?_
    obtain ⟨-, ⟨⟩⟩ := Option.ite_none_right_eq_some.mp made
    rfl
  | shutdown =>
    obtain ⟨-, ⟨⟩⟩ := Option.ite_none_right_eq_some.mp moved
    exact ⟨rfl, rfl, rfl, rfl, rfl, rfl, fun _ => rfl, fun _ => rfl, fun _ => id⟩
  | _ => cases calm

/-- The tables, the sessions and the conns that a store update reads back. -/
theorem connect_cases {c now : Nat} (moved : s.connect c now = some t) :
    ∃ source d key service, s.conns.lookup c = some ⟨source, .accepting d key service⟩ ∧
      (t = s.close c source ∨
        ∃ entry, s.runtime.services.lookup service.name = some (.server entry) ∧
          t = { s.enter c source (.registering d key service s.stamp) with
            runtime := s.runtime.setServer service.name ⟨.connected, some source, some now, none⟩
            sessions := s.sessions.insert c ⟨service, source, now, .running, true, [], 0⟩
            stamp := s.stamp + 1 }) := by
  unfold State.connect at moved
  split at moved
  · next source d key service found =>
    refine ⟨source, d, key, service, found, ?_⟩
    unfold RuntimeStatus.serverConnected at moved
    cases present : s.runtime.services.lookup service.name with
    | none =>
      simp only [present, Option.some.injEq] at moved
      exact .inl moved.symm
    | some snapshot =>
      cases snapshot with
      | client entry =>
        simp only [present, Option.some.injEq] at moved
        exact .inl moved.symm
      | server entry =>
        simp only [present, Option.some.injEq] at moved
        exact .inr ⟨entry, rfl, moved.symm⟩
  · cases moved

theorem register_cases {c : Nat} (moved : s.register c = some t) :
    ∃ source d key service stamp,
      s.conns.lookup c = some ⟨source, .registering d key service stamp⟩ ∧
      t = { s.close c source with
        controlChannels := (((s.controlChannels.remove1 d).2.insert d key
          ⟨c, service⟩).toOption.getD (s.controlChannels.remove1 d).2) } := by
  unfold State.register at moved
  split at moved
  · next source d key service stamp found =>
    obtain ⟨-, ⟨⟩⟩ := Option.ite_none_right_eq_some.mp moved
    exact ⟨source, d, key, service, stamp, found, rfl⟩
  · cases moved

theorem deadline_cases {c : Nat} (moved : s.deadline c = some t) :
    ∃ source phase, s.conns.lookup c = some ⟨source, phase⟩ ∧ phase ≠ .closed ∧
      t = s.close c source := by
  unfold State.deadline at moved
  split at moved
  · next source phase found =>
    split at moved
    · cases moved
    · next live =>
      cases moved
      exact ⟨source, phase, found, live, rfl⟩
  · cases moved

theorem disconnect_cases {c now : Nat} (moved : s.disconnect c now = some t) :
    ∃ x stuck runtime, s.sessions.lookup c = some x ∧ x.task = .ended stuck ∧
      RuntimeStatus.serverDisconnected now s.runtime x.service.name x.source x.since
        (some (disconnectDetail s.config.heartbeatInterval stuck)) = some runtime ∧
      t = { s with
        runtime := runtime
        sessions := s.sessions.insert c { x with task := .reported } } := by
  unfold State.disconnect at moved
  split at moved
  · next x found =>
    split at moved
    · next stuck ended =>
      obtain ⟨runtime, written, rfl⟩ := Option.map_eq_some_iff.mp moved
      exact ⟨x, stuck, runtime, found, ended, written, rfl⟩
    · cases moved
  · cases moved

/-- The map after the insertion of a handle under the digest its predecessor was
removed from. -/
theorem get1_registered {channels : MultiMap D D Handle} {d key : D} {handle h : Handle} {d' : D}
    (found : (((channels.remove1 d).2.insert d key handle).toOption.getD
      (channels.remove1 d).2).get1 d' = some h) :
    d' = d ∧ h = handle ∨ d' ≠ d ∧ channels.get1 d' = some h := by
  cases inserted : (channels.remove1 d).2.insert d key handle with
  | error _ =>
    simp only [inserted, Except.toOption, Option.getD_none, MultiMap.get1_remove1] at found
    split at found
    · cases found
    · next other => exact .inr ⟨other, found⟩
  | ok channels' =>
    simp only [inserted, Except.toOption, Option.getD_some, MultiMap.get1_insert inserted,
      MultiMap.get1_remove1] at found
    split at found
    · next same =>
      cases found
      exact .inl ⟨same, rfl⟩
    · next other => exact .inr ⟨other, found⟩

end Rathole.Server
