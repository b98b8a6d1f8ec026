import Rathole.ServerHotReload
import Rathole.ServerNames

set_option autoImplicit false

/- Data channels reach the service whose session key they carry. The key of a session
is remembered beside the state, which forgets it once the handle is gone. -/
namespace Rathole.Server

open Transition.System (Run Free)

variable {D : Type} [DecidableEq D] {digest : List UInt8 → D}

/-- Phases a connection leaves for another one, without a map of the server changing. -/
def Phase.Plain : Phase D → Prop
  | .delivering _ | .registering .. | .closed => False
  | _ => True

omit [DecidableEq D] in
theorem Phase.Plain.pending {next : Phase D} (plain : next.Plain) (source : SocketAddr) :
    Conn.pending ⟨source, next⟩ = none := by
  cases next with
  | registering d key service stamp => cases plain
  | _ => rfl

/-- What a step can do to the connections, the sessions and the map of control channels. -/
inductive Effect (s t : State D) : Action D → Prop
  | still {a : Action D} (conns : t.conns = s.conns) (sessions : t.sessions = s.sessions)
      (channels : t.controlChannels = s.controlChannels)
      (readers : t.channelReaders = s.channelReaders) : Effect s t a
  | enter {a : Action D} {c : Nat} {source : SocketAddr} {next : Phase D}
      (conns : t.conns = s.conns.insert c ⟨source, next⟩) (sessions : t.sessions = s.sessions)
      (channels : t.controlChannels = s.controlChannels)
      (readers : t.channelReaders = s.channelReaders)
      (before : ∀ conn, s.conns.lookup c = some conn → conn.phase.Plain) (plain : next.Plain)
      (routes : ∀ key, next = .routing key → a = .readDataHello c key) : Effect s t a
  | close {a : Action D} {c : Nat} {source : SocketAddr} {phase : Phase D}
      (before : s.conns.lookup c = some ⟨source, phase⟩) (live : phase ≠ .closed)
      (conns : t.conns = s.conns.insert c ⟨source, .closed⟩) (sessions : t.sessions = s.sessions)
      (channels : t.controlChannels = s.controlChannels)
      (readers : t.channelReaders = s.channelReaders.erase c) : Effect s t a
  | connect {c now : Nat} {source : SocketAddr} {d key : D} {service : ServerServiceConfig}
      (before : s.conns.lookup c = some ⟨source, .accepting d key service⟩)
      (conns : t.conns = s.conns.insert c ⟨source, .registering d key service s.stamp⟩)
      (sessions : t.sessions =
        s.sessions.insert c ⟨service, source, now, .running, true, [], 0⟩)
      (channels : t.controlChannels = s.controlChannels)
      (readers : t.channelReaders = s.channelReaders) : Effect s t (.connect c now)
  | register {c : Nat} {source : SocketAddr} {d key : D} {service : ServerServiceConfig}
      {stamp : Nat} (before : s.conns.lookup c = some ⟨source, .registering d key service stamp⟩)
      (free : s.channelReaders = []) (conns : t.conns = s.conns.insert c ⟨source, .closed⟩)
      (sessions : t.sessions = s.sessions)
      (channels : t.controlChannels = ((s.controlChannels.remove1 d).2.insert d key
        ⟨c, service⟩).toOption.getD (s.controlChannels.remove1 d).2)
      (readers : t.channelReaders = []) : Effect s t (.register c)
  | route {c : Nat} {source : SocketAddr} {key : D} {handle : Handle}
      (before : s.conns.lookup c = some ⟨source, .routing key⟩)
      (found : s.controlChannels.get2 key = some handle)
      (conns : t.conns = s.conns.insert c ⟨source, .delivering handle.session⟩)
      (sessions : t.sessions = s.sessions) (channels : t.controlChannels = s.controlChannels)
      (readers : t.channelReaders = c :: s.channelReaders) : Effect s t (.route c)
  | deliver {c session : Nat} {source : SocketAddr} {x : Session}
      (before : s.conns.lookup c = some ⟨source, .delivering session⟩)
      (found : s.sessions.lookup session = some x)
      (conns : t.conns = s.conns.insert c ⟨source, .closed⟩)
      (sessions : t.sessions = s.sessions.insert session
        { x with dataChannels := x.dataChannels ++ [c], arrived := x.arrived + 1 })
      (channels : t.controlChannels = s.controlChannels)
      (readers : t.channelReaders = s.channelReaders.erase c) : Effect s t (.deliver c)
  | session {a : Action D} {c : Nat} {x y : Session} (found : s.sessions.lookup c = some x)
      (service : y.service = x.service) (queue : y.dataChannels.Sublist x.dataChannels)
      (conns : t.conns = s.conns) (sessions : t.sessions = s.sessions.insert c y)
      (channels : t.controlChannels = s.controlChannels)
      (readers : t.channelReaders = s.channelReaders) : Effect s t a
  | reload {a : Action D} {hash : D} (free : s.channelReaders = []) (conns : t.conns = s.conns)
      (sessions : t.sessions = s.sessions)
      (channels : t.controlChannels = (s.controlChannels.remove1 hash).2)
      (readers : t.channelReaders = s.channelReaders) : Effect s t a

section Effects

variable {s t : State D}

/-- A step of a connection whose phase was read off the map. -/
theorem Effect.enterFrom {a : Action D} {c : Nat} {source : SocketAddr} {phase next : Phase D}
    (found : s.conns.lookup c = some ⟨source, phase⟩)
    (conns : t.conns = s.conns.insert c ⟨source, next⟩) (sessions : t.sessions = s.sessions)
    (channels : t.controlChannels = s.controlChannels)
    (readers : t.channelReaders = s.channelReaders) (before : phase.Plain) (plain : next.Plain)
    (routes : ∀ key, next = .routing key → a = .readDataHello c key) : Effect s t a := by
  refine Effect.enter conns sessions channels readers ?_ plain routes
  intro conn held
  rw [found] at held
  cases held
  exact before

theorem effect_lookup {c : Nat} (moved : s.lookup c = some t) : Effect s t (.lookup c) := by
  unfold State.lookup at moved
  split at moved
  · next source d nonce found =>
    split at moved
    · cases moved
    · split at moved
      · cases moved
        exact .enterFrom found rfl rfl rfl rfl trivial trivial nofun
      · split at moved
        · cases moved
          exact .close found nofun rfl rfl rfl rfl
        · cases moved
          exact .enterFrom found rfl rfl rfl rfl trivial trivial nofun
  · cases moved

theorem effect_readAuth {c : Nat} {d : D} (moved : s.readAuth digest c d = some t) :
    Effect s t (.readAuth c d) := by
  unfold State.readAuth at moved
  split at moved
  · next source service_digest concat service found =>
    dsimp only at moved
    split at moved
    · cases moved
      exact .enterFrom found rfl rfl rfl rfl trivial trivial nofun
    · cases moved
      exact .enterFrom found rfl rfl rfl rfl trivial trivial nofun
  · cases moved

theorem effect_connect {c now : Nat} (moved : s.connect c now = some t) :
    Effect s t (.connect c now) := by
  obtain ⟨source, d, key, service, found, rfl | ⟨entry, -, rfl⟩⟩ := connect_cases moved
  · exact .close found nofun rfl rfl rfl rfl
  · exact .connect found rfl rfl rfl rfl

theorem effect_register {c : Nat} (moved : s.register c = some t) : Effect s t (.register c) := by
  unfold State.register at moved
  split at moved
  · next source d key service stamp found =>
    obtain ⟨free, ⟨⟩⟩ := Option.ite_none_right_eq_some.mp moved
    have none_left : s.channelReaders.erase c = [] := by rw [free, List.erase_nil]
    exact .register found free rfl rfl rfl none_left
  · cases moved

theorem effect_route {c : Nat} (moved : s.route c = some t) : Effect s t (.route c) := by
  unfold State.route at moved
  split at moved
  · next source key found =>
    split at moved
    · cases moved
      exact .close found nofun rfl rfl rfl rfl
    · next handle held =>
      cases moved
      exact .route found held rfl rfl rfl rfl
  · cases moved

theorem effect_deliver {c : Nat} (moved : s.deliver c = some t) : Effect s t (.deliver c) := by
  unfold State.deliver at moved
  split at moved
  · next source session found =>
    split at moved
    · cases moved
    · next x held =>
      split at moved
      · obtain ⟨-, ⟨⟩⟩ := Option.ite_none_right_eq_some.mp moved
        exact .deliver found held rfl rfl rfl rfl
      · cases moved
        exact .close found nofun rfl rfl rfl rfl
  · cases moved

theorem effect_onSession {a : Action D} {c : Nat} {f : Session → Option Session}
    (moved : s.onSession c f = some t)
    (keeps : ∀ x y, f x = some y →
      y.service = x.service ∧ y.dataChannels.Sublist x.dataChannels) : Effect s t a := by
  obtain ⟨x, y, found, made, rfl⟩ := onSession_cases moved
  obtain ⟨service, queue⟩ := keeps x y made
  exact .session found service queue rfl rfl rfl rfl

theorem effect_of_step {a : Action D} (moved : step digest s a = some t) : Effect s t a := by
  cases a with
  | accept c source =>
    obtain ⟨⟨-, -, absent⟩, ⟨⟩⟩ := Option.ite_none_right_eq_some.mp moved
    refine .enter rfl rfl rfl rfl ?_ trivial (by intro key same; cases same)
    intro conn held
    rw [absent] at held
    cases held
  | readControlHello c d nonce =>
    simp only [step, State.readControlHello] at moved
    split at moved
    · next source found =>
      obtain ⟨-, ⟨⟩⟩ := Option.ite_none_right_eq_some.mp moved
      exact .enterFrom found rfl rfl rfl rfl trivial trivial (by intro key same; cases same)
    · cases moved
  | readDataHello c key =>
    simp only [step, State.readDataHello] at moved
    split at moved
    · next source found =>
      cases moved
      refine .enterFrom found rfl rfl rfl rfl trivial trivial ?_
      rintro - ⟨⟩
      rfl
    · cases moved
  | greet c =>
    simp only [step, State.greet] at moved
    split at moved
    · next source d nonce found =>
      cases moved
      exact .enterFrom found rfl rfl rfl rfl trivial trivial (by intro key same; cases same)
    · cases moved
  | lookup c => exact effect_lookup moved
  | readAuth c d => exact effect_readAuth moved
  | connect c now => exact effect_connect moved
  | register c => exact effect_register moved
  | route c => exact effect_route moved
  | deliver c => exact effect_deliver moved
  | ioError c =>
    simp only [step, State.ioError] at moved
    split at moved
    · next source phase found =>
      split at moved <;> cases moved <;>
        exact .close found (by intro same; cases same) rfl rfl rfl rfl
    · cases moved
  | deadline c =>
    obtain ⟨source, phase, found, live, rfl⟩ := deadline_cases moved
    exact .close found live rfl rfl rfl rfl
  | endTask c stuck =>
    apply effect_onSession moved
    intro x y made
    obtain ⟨-, ⟨⟩⟩ := Option.ite_none_right_eq_some.mp made
    exact ⟨rfl, List.Sublist.refl _⟩
  | disconnect c now =>
    obtain ⟨x, stuck, runtime, found, -, -, rfl⟩ := disconnect_cases moved
    exact .session (y := { x with task := .reported }) found rfl (List.Sublist.refl _) rfl rfl rfl
      rfl
  | takeDataChannel c =>
    apply effect_onSession moved
    intro x y made
    obtain ⟨-, ⟨⟩⟩ := Option.ite_none_right_eq_some.mp made
    exact ⟨rfl, List.tail_sublist _⟩
  | endPool c =>
    apply effect_onSession moved
    intro x y made
    obtain ⟨-, ⟨⟩⟩ := Option.ite_none_right_eq_some.mp made
    exact ⟨rfl, List.nil_sublist _⟩
  | reload e =>
    obtain ⟨-, ⟨⟩⟩ := Option.ite_none_right_eq_some.mp moved
    unfold State.handleHotReload
    split <;> exact .still rfl rfl rfl rfl
  | reloadServices =>
    obtain ⟨-, moved⟩ := Option.ite_none_right_eq_some.mp moved
    split at moved <;> cases moved <;> exact .still rfl rfl rfl rfl
  | reloadChannels =>
    obtain ⟨free, moved⟩ := Option.ite_none_right_eq_some.mp moved
    split at moved <;> cases moved <;> exact .reload free rfl rfl rfl rfl
  | shutdown =>
    obtain ⟨-, ⟨⟩⟩ := Option.ite_none_right_eq_some.mp moved
    exact .still rfl rfl rfl rfl

end Effects

/-- The server, with the key every session was created with. -/
structure Keyed (D : Type) [DecidableEq D] where
  server : State D
  keys : HashMap Nat D

def State.remember (t : State D) (keys : HashMap Nat D) : Action D → HashMap Nat D
  | .connect c _ =>
    match t.pending c with
    | some p => keys.insert c p.key
    | none => keys
  | _ => keys

def Keyed.step (digest : List UInt8 → D) (s : Keyed D) (a : Action D) : Option (Keyed D) :=
  (Server.step digest s.server a).map fun t => ⟨t, t.remember s.keys a⟩

def keyed (digest : List UInt8 → D) : Transition.System (Keyed D) (Action D) where
  init s := (system digest).init s.server ∧ s.keys = ∅
  step := Keyed.step digest

/-- Session keys are pairwise distinct. -/
def FreshKey (s : Keyed D) (a : Action D) : Prop :=
  ∀ c now source d key service, a = .connect c now →
    s.server.conns.lookup c = some ⟨source, .accepting d key service⟩ →
    ∀ c', s.keys.lookup c' ≠ some key

section Keys

variable {s t : State D} {keys : HashMap Nat D}

/-- Where the keys of the sessions are: in a handshake that is still to register its
handle, in the map, or nowhere any more. -/
structure KeysSound (digest : List UInt8 → D) (s : State D) (keys : HashMap Nat D) : Prop where
  pending : ∀ c p, s.pending c = some p → keys.lookup c = some p.key ∧
    ∃ x, s.sessions.lookup c = some x ∧ x.service = p.service
  used : ∀ c key, keys.lookup c = some key → (∃ p, s.pending c = some p) ∨ s.gone c
  stored : ∀ key item, s.controlChannels.map2.lookup key = some item →
    keys.lookup item.2.2.session = some key ∧ s.gone item.2.2.session ∧
      digest (asBytes item.2.2.service.name) = item.1 ∧
      ∃ x, s.sessions.lookup item.2.2.session = some x ∧ x.service = item.2.2.service

/-- A step that touches neither the map nor the keys. A handshake may end. -/
structure Calm (s t : State D) : Prop where
  channels : t.controlChannels = s.controlChannels
  back : ∀ c p, t.pending c = some p → s.pending c = some p
  forth : ∀ c p, s.pending c = some p → t.pending c = some p ∨ t.gone c
  gone : ∀ c, s.gone c → t.gone c
  sessions : ∀ c x, s.sessions.lookup c = some x →
    ∃ y, t.sessions.lookup c = some y ∧ y.service = x.service

theorem KeysSound.keep (sound : KeysSound digest s keys) (calm : Calm s t) :
    KeysSound digest t keys := by
  constructor
  · intro c p found
    obtain ⟨key, x, held, service⟩ := sound.pending c p (calm.back c p found)
    obtain ⟨y, after, same⟩ := calm.sessions c x held
    exact ⟨key, y, after, same.trans service⟩
  · intro c key found
    rcases sound.used c key found with ⟨p, pending⟩ | gone
    · rcases calm.forth c p pending with still | gone
      · exact .inl ⟨p, still⟩
      · exact .inr gone
    · exact .inr (calm.gone c gone)
  · intro key item found
    rw [calm.channels] at found
    obtain ⟨drawn, gone, named, x, held, service⟩ := sound.stored key item found
    obtain ⟨y, after, same⟩ := calm.sessions _ x held
    exact ⟨drawn, calm.gone _ gone, named, y, after, same.trans service⟩

theorem pending_insert {c c' : Nat} {conn : Conn D} (conns : t.conns = s.conns.insert c conn) :
    t.pending c' = if c' = c then conn.pending else s.pending c' := by
  rw [State.pending, conns, lookup_insert_eq]
  split
  · exact Option.bind_some _ _
  · rfl

theorem gone_insert {c c' : Nat} {conn : Conn D} (conns : t.conns = s.conns.insert c conn)
    (other : c' ≠ c) : t.gone c' ↔ s.gone c' := by
  unfold State.gone
  rw [conns, lookup_insert_eq, if_neg other]

theorem gone_insert_closed {c : Nat} {source : SocketAddr}
    (conns : t.conns = s.conns.insert c ⟨source, .closed⟩) : t.gone c :=
  ⟨source, by rw [conns, lookup_insert_eq, if_pos rfl]⟩

/-- A connection that was not registering moves on. -/
theorem Calm.enter {c : Nat} {source : SocketAddr} {next : Phase D}
    (conns : t.conns = s.conns.insert c ⟨source, next⟩) (sessions : t.sessions = s.sessions)
    (channels : t.controlChannels = s.controlChannels)
    (before : ∀ conn, s.conns.lookup c = some conn → conn.phase.Plain)
    (calm : Conn.pending ⟨source, next⟩ = none) : Calm s t := by
  have idle : ∀ p, s.pending c ≠ some p := by
    intro p pending
    have held := before _ (lookup_of_pending pending)
    exact held
  have live : ¬ s.gone c := by
    rintro ⟨source', found⟩
    exact before _ found
  refine ⟨channels, fun c' p found => ?_, fun c' p found => .inl ?_, fun c' gone => ?_,
    fun c' x found => ⟨x, sessions ▸ found, rfl⟩⟩
  · rw [pending_insert conns] at found
    split at found
    · rw [calm] at found
      cases found
    · exact found
  · have other : c' ≠ c := by
      rintro rfl
      exact idle p found
    rw [pending_insert conns, if_neg other]
    exact found
  · have other : c' ≠ c := by
      rintro rfl
      exact live gone
    exact (gone_insert conns other).mpr gone

/-- A connection ends. -/
theorem Calm.close {c : Nat} {source : SocketAddr}
    (conns : t.conns = s.conns.insert c ⟨source, .closed⟩)
    (channels : t.controlChannels = s.controlChannels)
    (sessions : ∀ c x, s.sessions.lookup c = some x →
      ∃ y, t.sessions.lookup c = some y ∧ y.service = x.service) : Calm s t := by
  refine ⟨channels, fun c' p found => ?_, fun c' p found => ?_, fun c' gone => ?_, sessions⟩
  · rw [pending_insert conns] at found
    split at found
    · cases found
    · exact found
  · by_cases here : c' = c
    · exact .inr (here ▸ gone_insert_closed conns)
    · left
      rw [pending_insert conns, if_neg here]
      exact found
  · by_cases here : c' = c
    · exact here ▸ gone_insert_closed conns
    · exact (gone_insert conns here).mpr gone

theorem sessions_insert {c : Nat} {x y : Session} (found : s.sessions.lookup c = some x)
    (sessions : t.sessions = s.sessions.insert c y) (service : y.service = x.service) :
    ∀ c' x', s.sessions.lookup c' = some x' →
      ∃ y', t.sessions.lookup c' = some y' ∧ y'.service = x'.service := by
  intro c' x' held
  rw [sessions, lookup_insert_eq]
  split
  · next here =>
    subst here
    cases found.symm.trans held
    exact ⟨y, rfl, service⟩
  · exact ⟨x', held, rfl⟩

theorem Calm.still (conns : t.conns = s.conns) (channels : t.controlChannels = s.controlChannels)
    (sessions : ∀ c x, s.sessions.lookup c = some x →
      ∃ y, t.sessions.lookup c = some y ∧ y.service = x.service) : Calm s t := by
  have pending : ∀ c, t.pending c = s.pending c := by
    intro c
    rw [State.pending, conns, State.pending]
  refine ⟨channels, fun c p found => pending c ▸ found, fun c p found => .inl (pending c ▸ found),
    fun c gone => ?_, sessions⟩
  unfold State.gone at gone ⊢
  rwa [conns]

/-- A connection that is still to create its session has no key. -/
theorem KeysSound.unused {c : Nat} {source : SocketAddr} {d key : D}
    {service : ServerServiceConfig} (sound : KeysSound digest s keys)
    (before : s.conns.lookup c = some ⟨source, .accepting d key service⟩) :
    keys.lookup c = none := by
  cases found : keys.lookup c with
  | none => rfl
  | some k =>
    rcases sound.used c k found with ⟨p, pending⟩ | gone
    · rw [pending_of_lookup before] at pending
      cases pending
    · exact absurd gone (not_gone before (by intro same; cases same))

theorem KeysSound.connect {c now : Nat} {source : SocketAddr} {d key : D}
    {service : ServerServiceConfig} (sound : KeysSound digest s keys)
    (before : s.conns.lookup c = some ⟨source, .accepting d key service⟩)
    (conns : t.conns = s.conns.insert c ⟨source, .registering d key service s.stamp⟩)
    (sessions : t.sessions = s.sessions.insert c ⟨service, source, now, .running, true, [], 0⟩)
    (channels : t.controlChannels = s.controlChannels) :
    KeysSound digest t (keys.insert c key) := by
  constructor
  · intro c' p found
    rw [pending_insert conns] at found
    rw [lookup_insert_eq, sessions, lookup_insert_eq]
    split at found
    · next here =>
      cases found
      rw [if_pos here, if_pos here]
      exact ⟨rfl, _, rfl, rfl⟩
    · next other =>
      rw [if_neg other, if_neg other]
      exact sound.pending c' p found
  · intro c' k found
    rw [lookup_insert_eq] at found
    split at found
    · next here =>
      left
      rw [pending_insert conns, if_pos here]
      exact ⟨_, rfl⟩
    · next other =>
      rw [pending_insert conns, if_neg other, gone_insert conns other]
      exact sound.used c' k found
  · intro k item found
    rw [channels] at found
    obtain ⟨drawn, gone, named, held⟩ := sound.stored k item found
    have other : item.2.2.session ≠ c := by
      intro here
      rw [here, sound.unused before] at drawn
      cases drawn
    rw [lookup_insert_eq, if_neg other, gone_insert conns other, sessions, lookup_insert_eq,
      if_neg other]
    exact ⟨drawn, gone, named, held⟩

/-- What is found in the map after a handle was registered: the new handle, or what was
there under another service. -/
theorem map2_registered {channels : MultiMap D D Handle} {d key k : D} {handle : Handle}
    {item : D × D × Handle}
    (found : (((channels.remove1 d).2.insert d key handle).toOption.getD
      (channels.remove1 d).2).map2.lookup k = some item) :
    k = key ∧ item = (d, key, handle) ∨ channels.map2.lookup k = some item ∧ item.1 ≠ d := by
  have kept : (channels.remove1 d).2.map2.lookup k = some item →
      channels.map2.lookup k = some item ∧ item.1 ≠ d := by
    intro held
    rw [MultiMap.lookup_map2_remove1, Option.filter_eq_some_iff] at held
    exact ⟨held.1, of_decide_eq_true held.2⟩
  unfold MultiMap.insert at found
  split at found
  · simp only [Except.toOption, Option.getD_some, lookup_insert_eq] at found
    split at found
    · next here =>
      cases found
      exact .inl ⟨here, rfl⟩
    · exact .inr (kept found)
  · exact .inr (kept found)

theorem KeysSound.register {c : Nat} {source : SocketAddr} {d key : D}
    {service : ServerServiceConfig} {stamp : Nat} (sound : KeysSound digest s keys)
    (named : Named digest s)
    (before : s.conns.lookup c = some ⟨source, .registering d key service stamp⟩)
    (conns : t.conns = s.conns.insert c ⟨source, .closed⟩) (sessions : t.sessions = s.sessions)
    (channels : t.controlChannels = ((s.controlChannels.remove1 d).2.insert d key
      ⟨c, service⟩).toOption.getD (s.controlChannels.remove1 d).2) : KeysSound digest t keys := by
  have calm : Calm s { t with controlChannels := s.controlChannels } :=
    .close (t := { t with controlChannels := s.controlChannels }) conns rfl
      fun c x found => ⟨x, sessions ▸ found, rfl⟩
  obtain ⟨pending, used, stored⟩ := sound.keep calm
  refine ⟨pending, used, fun k item found => ?_⟩
  rw [channels] at found
  rcases map2_registered found with ⟨rfl, rfl⟩ | ⟨held, -⟩
  · obtain ⟨drawn, x, session, same⟩ := sound.pending c _ (pending_of_lookup before)
    exact ⟨drawn, gone_insert_closed conns, named.phases c _ before, x, sessions ▸ session, same⟩
  · exact stored k item held

theorem KeysSound.reload {hash : D} (sound : KeysSound digest s keys) (conns : t.conns = s.conns)
    (sessions : t.sessions = s.sessions)
    (channels : t.controlChannels = (s.controlChannels.remove1 hash).2) :
    KeysSound digest t keys := by
  have calm : Calm s { t with controlChannels := s.controlChannels } :=
    .still (t := { t with controlChannels := s.controlChannels }) conns rfl
      fun c x found => ⟨x, sessions ▸ found, rfl⟩
  obtain ⟨pending, used, stored⟩ := sound.keep calm
  refine ⟨pending, used, fun k item found => stored k item ?_⟩
  rw [channels, MultiMap.lookup_map2_remove1, Option.filter_eq_some_iff] at found
  exact found.1

/-- A step without a new session remembers nothing new. -/
theorem remember_eq (sound : KeysSound digest t keys) (a : Action D) :
    t.remember keys a = keys := by
  cases a with
  | connect c now =>
    unfold State.remember
    dsimp only
    split
    · next p pending =>
      apply Finmap.ext_lookup
      intro c'
      rw [lookup_insert_eq]
      split
      · next here => rw [here, (sound.pending c p pending).1]
      · rfl
    · rfl
  | _ => rfl

/-- The keys after a step: as before, or with the key of a session that was created. -/
def Remembers (s : State D) (keys : HashMap Nat D) (a : Action D) (keys' : HashMap Nat D) : Prop :=
  keys' = keys ∨ ∃ c now source d key service, a = .connect c now ∧ keys.lookup c = none ∧
    s.conns.lookup c = some ⟨source, .accepting d key service⟩ ∧ keys' = keys.insert c key

theorem KeysSound.step {a : Action D} (sound : KeysSound digest s keys) (named : Named digest s)
    (effect : Effect s t a) :
    KeysSound digest t (t.remember keys a) ∧ Remembers s keys a (t.remember keys a) := by
  have still : KeysSound digest t keys →
      KeysSound digest t (t.remember keys a) ∧ Remembers s keys a (t.remember keys a) := by
    intro next
    have same : t.remember keys a = keys := remember_eq next a
    rw [same]
    exact ⟨next, .inl rfl⟩
  have same : t.sessions = s.sessions → ∀ c x, s.sessions.lookup c = some x →
      ∃ y, t.sessions.lookup c = some y ∧ y.service = x.service :=
    fun sessions c x found => ⟨x, sessions ▸ found, rfl⟩
  cases effect with
  | still conns sessions channels readers =>
    exact still (sound.keep (.still conns channels (same sessions)))
  | enter conns sessions channels readers before plain routes =>
    exact still (sound.keep (.enter conns sessions channels before (plain.pending _)))
  | close before live conns sessions channels readers =>
    exact still (sound.keep (.close conns channels (same sessions)))
  | @connect c now source d key service before conns sessions channels readers =>
    have next := sound.connect before conns sessions channels
    have pending : t.pending c = some ⟨source, d, key, service, s.stamp⟩ := by
      rw [pending_insert conns, if_pos rfl]
      rfl
    have remembered : t.remember keys (.connect c now) = keys.insert c key := by
      simp only [State.remember, pending]
    rw [remembered]
    exact ⟨next, .inr ⟨c, now, source, d, key, service, rfl, sound.unused before, before, rfl⟩⟩
  | register before free conns sessions channels readers =>
    exact still (sound.register named before conns sessions channels)
  | route before found conns sessions channels readers =>
    exact still (sound.keep (.enter conns sessions channels (by simp [before, Phase.Plain]) rfl))
  | deliver before found conns sessions channels readers =>
    exact still (sound.keep (.close conns channels (sessions_insert found sessions rfl)))
  | session found service queue conns sessions channels readers =>
    exact still (sound.keep (.still conns channels (sessions_insert found sessions service)))
  | reload free conns sessions channels readers =>
    exact still (sound.reload conns sessions channels)

theorem Remembers.kept {a : Action D} {keys' : HashMap Nat D} (next : Remembers s keys a keys')
    (c : Nat) (key : D) (found : keys.lookup c = some key) : keys'.lookup c = some key := by
  rcases next with rfl | ⟨c', now, source, d, key', service, -, unused, -, rfl⟩
  · exact found
  · have other : c ≠ c' := by
      rintro rfl
      rw [unused] at found
      cases found
    rw [lookup_insert_eq, if_neg other, found]

/-- No two sessions share a key. -/
def KeysDistinct (keys : HashMap Nat D) : Prop :=
  ∀ c c' key, keys.lookup c = some key → keys.lookup c' = some key → c = c'

theorem KeysDistinct.step {a : Action D} {keys' : HashMap Nat D} (distinct : KeysDistinct keys)
    (fresh : FreshKey ⟨s, keys⟩ a) (next : Remembers s keys a keys') : KeysDistinct keys' := by
  rcases next with rfl | ⟨c, now, source, d, key, service, label, -, before, rfl⟩
  · exact distinct
  · have new := fresh c now source d key service label before
    intro c₁ c₂ k one two
    rw [lookup_insert_eq] at one two
    split at one <;> split at two
    · next first second => exact first.trans second.symm
    · cases one
      exact absurd two (new c₂)
    · cases two
      exact absurd one (new c₁)
    · exact distinct c₁ c₂ k one two

/-- A session key that is out of use: its session ended its handshake, and no handle is
registered under it. -/
def Retired (key : D) (s : State D) (keys : HashMap Nat D) : Prop :=
  (∃ c, keys.lookup c = some key ∧ s.gone c) ∧ s.controlChannels.map2.lookup key = none

theorem Effect.gone {a : Action D} (effect : Effect s t a) (c : Nat) (gone : s.gone c) :
    t.gone c := by
  have moves : ∀ (c' : Nat) (conn : Conn D), t.conns = s.conns.insert c' conn → ¬ s.gone c' →
      t.gone c := by
    intro c' conn conns live
    have other : c ≠ c' := by
      rintro rfl
      exact live gone
    exact (gone_insert conns other).mpr gone
  have closes : ∀ (c' : Nat) (source : SocketAddr), t.conns = s.conns.insert c' ⟨source, .closed⟩ →
      t.gone c := by
    intro c' source conns
    by_cases here : c = c'
    · exact here ▸ gone_insert_closed conns
    · exact (gone_insert conns here).mpr gone
  have stays : t.conns = s.conns → t.gone c := by
    intro conns
    unfold State.gone
    rwa [conns]
  cases effect with
  | still conns sessions channels readers => exact stays conns
  | enter conns sessions channels readers before plain routes =>
    apply moves _ _ conns
    rintro ⟨source, found⟩
    exact before _ found
  | close before live conns sessions channels readers => exact closes _ _ conns
  | connect before conns sessions channels readers =>
    exact moves _ _ conns (not_gone before (by intro same; cases same))
  | register before free conns sessions channels readers => exact closes _ _ conns
  | route before found conns sessions channels readers =>
    exact moves _ _ conns (not_gone before (by intro same; cases same))
  | deliver before found conns sessions channels readers => exact closes _ _ conns
  | session found service queue conns sessions channels readers => exact stays conns
  | reload free conns sessions channels readers => exact stays conns

/-- A handle in the map was there before, or a handshake that waited for the map stored it. -/
theorem Effect.stored {a : Action D} (effect : Effect s t a) {key : D} {item : D × D × Handle}
    (found : t.controlChannels.map2.lookup key = some item) :
    s.controlChannels.map2.lookup key = some item ∨ ∃ p, s.pending item.2.2.session = some p ∧
      p.key = key := by
  have stays : t.controlChannels = s.controlChannels →
      s.controlChannels.map2.lookup key = some item := by
    intro channels
    rw [← channels, found]
  cases effect with
  | register before free conns sessions channels readers =>
    rw [channels] at found
    rcases map2_registered found with ⟨rfl, rfl⟩ | ⟨held, -⟩
    · exact .inr ⟨_, pending_of_lookup before, rfl⟩
    · exact .inl held
  | reload free conns sessions channels readers =>
    rw [channels, MultiMap.lookup_map2_remove1, Option.filter_eq_some_iff] at found
    exact .inl found.1
  | still conns sessions channels readers => exact .inl (stays channels)
  | enter conns sessions channels readers before plain routes => exact .inl (stays channels)
  | close before live conns sessions channels readers => exact .inl (stays channels)
  | connect before conns sessions channels readers => exact .inl (stays channels)
  | route before found conns sessions channels readers => exact .inl (stays channels)
  | deliver before found conns sessions channels readers => exact .inl (stays channels)
  | session found service queue conns sessions channels readers => exact .inl (stays channels)

theorem not_gone_of_pending {c : Nat} {p : Pending D} (pending : s.pending c = some p) :
    ¬ s.gone c :=
  not_gone (lookup_of_pending pending) (by intro same; cases same)

/-- No handshake can store a handle under the key of a session that ended its own. -/
theorem stored_of_gone {a : Action D} {key : D} {item : D × D × Handle} {c : Nat}
    (effect : Effect s t a) (sound : KeysSound digest s keys) (distinct : KeysDistinct keys)
    (drawn : keys.lookup c = some key) (gone : s.gone c)
    (found : t.controlChannels.map2.lookup key = some item) :
    s.controlChannels.map2.lookup key = some item := by
  rcases effect.stored found with held | ⟨p, pending, rfl⟩
  · exact held
  · have same := distinct _ c p.key (sound.pending _ p pending).1 drawn
    exact absurd (same ▸ gone) (not_gone_of_pending pending)

theorem Retired.step {a : Action D} {key : D} {keys' : HashMap Nat D}
    (retired : Retired key s keys) (effect : Effect s t a) (sound : KeysSound digest s keys)
    (distinct : KeysDistinct keys) (next : Remembers s keys a keys') : Retired key t keys' := by
  obtain ⟨⟨c, drawn, gone⟩, free⟩ := retired
  refine ⟨⟨c, next.kept c key drawn, effect.gone c gone⟩, ?_⟩
  rw [Option.eq_none_iff_forall_ne_some]
  intro item found
  rw [stored_of_gone effect sound distinct drawn gone found] at free
  cases free

/-- A step that takes a handle out of the map puts its key out of use. -/
theorem retired_of_lost {a : Action D} {key : D} {item : D × D × Handle} {keys' : HashMap Nat D}
    (effect : Effect s t a) (sound : KeysSound digest s keys) (next : Remembers s keys a keys')
    (held : s.controlChannels.map2.lookup key = some item)
    (lost : t.controlChannels.map2.lookup key = none) : Retired key t keys' := by
  obtain ⟨drawn, gone, -⟩ := sound.stored key item held
  exact ⟨⟨_, next.kept _ key drawn, effect.gone _ gone⟩, lost⟩

/-- A registered handle stays under its key, or the key goes out of use. -/
theorem registered_or_retired {a : Action D} {key : D} {item : D × D × Handle}
    {keys' : HashMap Nat D} (effect : Effect s t a) (sound : KeysSound digest s keys)
    (distinct : KeysDistinct keys) (next : Remembers s keys a keys')
    (held : s.controlChannels.map2.lookup key = some item) :
    t.controlChannels.map2.lookup key = some item ∨ Retired key t keys' := by
  obtain ⟨drawn, gone, -⟩ := sound.stored key item held
  cases found : t.controlChannels.map2.lookup key with
  | none => exact .inr (retired_of_lost effect sound next held found)
  | some item' =>
    left
    rw [← held, ← stored_of_gone effect sound distinct drawn gone found]

/-- Registering a handle takes the one stored for its service out of the map. -/
theorem superseded_of_register {c : Nat} {source : SocketAddr} {d key old : D}
    {service : ServerServiceConfig} {stamp : Nat} {handle : Handle}
    (sound : KeysSound digest s keys) (distinct : KeysDistinct keys)
    (before : s.conns.lookup c = some ⟨source, .registering d key service stamp⟩)
    (stored : s.controlChannels.map1.lookup d = some (d, old, handle))
    (moved : s.register c = some t) : t.controlChannels.map2.lookup old = none := by
  have held := (s.controlChannels.indexed1 d _ stored).2
  obtain ⟨drawn, gone, -⟩ := sound.stored old _ held
  obtain ⟨source', d', key', service', stamp', found, rfl⟩ := register_cases moved
  rw [before] at found
  cases found
  rw [Option.eq_none_iff_forall_ne_some]
  intro item found
  rcases map2_registered found with ⟨rfl, -⟩ | ⟨still, other⟩
  · -- the key of the new session is not that of a session whose handshake is over
    have pending := pending_of_lookup before
    have same := distinct _ c old drawn (sound.pending c _ pending).1
    exact not_gone_of_pending pending (same ▸ gone)
  · rw [held] at still
    cases still
    exact other rfl

/-- Where a reload stands that has updated the services, it holds the digest of its name. -/
def Hashed (digest : List UInt8 → D) (s : State D) : Prop :=
  ∀ name hash stamp, s.reload = .added name hash stamp ∨ s.reload = .deleted name hash stamp →
    hash = digest (asBytes name)

theorem Hashed.keep (hashed : Hashed digest s) (reload : t.reload = s.reload) :
    Hashed digest t := by
  unfold Hashed
  rw [reload]
  exact hashed

theorem Hashed.reloadServices (moved : s.reloadServices digest = some t) : Hashed digest t := by
  obtain ⟨-, moved⟩ := Option.ite_none_right_eq_some.mp moved
  split at moved
  · cases moved
    rintro name hash stamp (same | same) <;> cases same
    rfl
  · cases moved
    rintro name hash stamp (same | same) <;> cases same
    rfl
  · cases moved

theorem Hashed.step {a : Action D} (hashed : Hashed digest s)
    (moved : step digest s a = some t) : Hashed digest t := by
  by_cases updates : a.updates = true
  · cases a with
    | connect c now =>
      obtain ⟨source, d, key, service, -, rfl | ⟨entry, -, rfl⟩⟩ := connect_cases moved
      · exact hashed.keep rfl
      · exact hashed.keep rfl
    | register c =>
      obtain ⟨source, d, key, service, stamp, -, rfl⟩ := register_cases moved
      exact hashed.keep rfl
    | deadline c =>
      obtain ⟨source, phase, -, -, rfl⟩ := deadline_cases moved
      exact hashed.keep rfl
    | endTask c stuck =>
      obtain ⟨x, y, -, -, rfl⟩ := onSession_cases moved
      exact hashed.keep rfl
    | disconnect c now =>
      obtain ⟨x, stuck, runtime, -, -, -, rfl⟩ := disconnect_cases moved
      exact hashed.keep rfl
    | reload e =>
      obtain ⟨-, ⟨⟩⟩ := Option.ite_none_right_eq_some.mp moved
      unfold State.handleHotReload
      split
      · rintro name hash stamp (same | same) <;> cases same
      · rintro name hash stamp (same | same) <;> cases same
      · exact hashed.keep rfl
    | reloadServices => exact .reloadServices moved
    | reloadChannels =>
      obtain ⟨-, moved⟩ := Option.ite_none_right_eq_some.mp moved
      split at moved <;> cases moved <;> rintro name hash stamp (same | same) <;> cases same
    | _ => cases updates
  · exact hashed.keep (quiet_of_step moved (Bool.eq_false_iff.mpr updates)).reload

/-- The last step of a reload takes the handle of its service out of the map. -/
theorem removed_of_reloadChannels (hashed : Hashed digest s)
    (moved : s.reloadChannels = some t) : ∃ name stamp,
      (s.reload = .added name (digest (asBytes name)) stamp ∨
        s.reload = .deleted name (digest (asBytes name)) stamp) ∧
      t.controlChannels = (s.controlChannels.remove1 (digest (asBytes name))).2 := by
  obtain ⟨-, moved⟩ := Option.ite_none_right_eq_some.mp moved
  split at moved
  · next name hash stamp reload =>
    cases moved
    have same := hashed name hash stamp (.inl reload)
    exact ⟨name, stamp, .inl (same ▸ reload), by rw [same]⟩
  · next name hash stamp reload =>
    cases moved
    have same := hashed name hash stamp (.inr reload)
    exact ⟨name, stamp, .inr (same ▸ reload), by rw [same]⟩
  · cases moved

end Keys

section Streams

variable {s t : State D} {keys : HashMap Nat D} {as : List (Action D)}

/-- A connection that looks a key up read it from its hello, and one that holds the read
guard of the map found a handle under that key, which is still there. -/
structure RoutesSound (as : List (Action D)) (s : State D) : Prop where
  routing : ∀ c source key, s.conns.lookup c = some ⟨source, .routing key⟩ →
    .readDataHello c key ∈ as
  delivering : ∀ c source session, s.conns.lookup c = some ⟨source, .delivering session⟩ →
    c ∈ s.channelReaders ∧ ∃ key item, .readDataHello c key ∈ as ∧
      s.controlChannels.map2.lookup key = some item ∧ item.2.2.session = session

/-- A queued stream read the key of the session whose queue it is in, and is in no other. -/
structure QueuesSound (as : List (Action D)) (s : State D) (keys : HashMap Nat D) : Prop where
  queued : ∀ c x i, s.sessions.lookup c = some x → i ∈ x.dataChannels →
    s.gone i ∧ ∃ key, .readDataHello i key ∈ as ∧ keys.lookup c = some key
  single : ∀ c c' x x' i, s.sessions.lookup c = some x → s.sessions.lookup c' = some x' →
    i ∈ x.dataChannels → i ∈ x'.dataChannels → c = c'
  nodup : ∀ c x, s.sessions.lookup c = some x → x.dataChannels.Nodup

/-- One connection moves, the map stays, and the guards of the others are kept. -/
theorem RoutesSound.move {a : Action D} {c : Nat} {source : SocketAddr} {next : Phase D}
    (routes : RoutesSound as s) (conns : t.conns = s.conns.insert c ⟨source, next⟩)
    (channels : t.controlChannels = s.controlChannels)
    (readers : ∀ c', c' ≠ c → c' ∈ s.channelReaders → c' ∈ t.channelReaders)
    (routing : ∀ key, next = .routing key → .readDataHello c key ∈ as ++ [a])
    (delivering : ∀ session, next = .delivering session → c ∈ t.channelReaders ∧
      ∃ key item, .readDataHello c key ∈ as ++ [a] ∧
        s.controlChannels.map2.lookup key = some item ∧ item.2.2.session = session) :
    RoutesSound (as ++ [a]) t := by
  constructor
  · intro c' source' key found
    rw [conns, lookup_insert_eq] at found
    split at found
    · next here =>
      cases found
      exact here ▸ routing key rfl
    · exact List.mem_append_left _ (routes.routing c' source' key found)
  · intro c' source' session found
    rw [conns, lookup_insert_eq] at found
    rw [channels]
    split at found
    · next here =>
      cases found
      exact here ▸ delivering session rfl
    · next other =>
      obtain ⟨guard, key, item, read, held, same⟩ := routes.delivering c' source' session found
      exact ⟨readers c' other guard, key, item, List.mem_append_left _ read, held, same⟩

/-- No connection holds a read guard, so the map may change. -/
theorem RoutesSound.unguarded {a : Action D} (routes : RoutesSound as s)
    (free : s.channelReaders = [])
    (back : ∀ c source phase, t.conns.lookup c = some ⟨source, phase⟩ → phase ≠ .closed →
      s.conns.lookup c = some ⟨source, phase⟩) : RoutesSound (as ++ [a]) t := by
  constructor
  · intro c source key found
    have before := back c source _ found (by intro same; cases same)
    exact List.mem_append_left _ (routes.routing c source key before)
  · intro c source session found
    have before := back c source _ found (by intro same; cases same)
    have guard := (routes.delivering c source session before).1
    rw [free] at guard
    cases guard

theorem RoutesSound.step {a : Action D} (routes : RoutesSound as s) (effect : Effect s t a) :
    RoutesSound (as ++ [a]) t := by
  have calm : t.conns = s.conns → t.controlChannels = s.controlChannels →
      t.channelReaders = s.channelReaders → RoutesSound (as ++ [a]) t := by
    intro conns channels readers
    constructor
    · intro c source key found
      rw [conns] at found
      exact List.mem_append_left _ (routes.routing c source key found)
    · intro c source session found
      rw [conns] at found
      obtain ⟨guard, key, item, read, held, same⟩ := routes.delivering c source session found
      rw [readers, channels]
      exact ⟨guard, key, item, List.mem_append_left _ read, held, same⟩
  cases effect with
  | still conns sessions channels readers => exact calm conns channels readers
  | @enter _ c source next conns sessions channels readers before plain labels =>
    apply routes.move conns channels
    · intro c' _ guard
      rwa [readers]
    · intro key same
      rw [labels key same]
      exact List.mem_append_right _ (List.mem_singleton_self _)
    · rintro session rfl
      cases plain
  | close before live conns sessions channels readers =>
    apply routes.move conns channels
    · intro c' other guard
      rw [readers]
      exact (List.mem_erase_of_ne other).mpr guard
    · intro key same
      cases same
    · intro session same
      cases same
  | connect before conns sessions channels readers =>
    apply routes.move conns channels
    · intro c' _ guard
      rwa [readers]
    · intro key same
      cases same
    · intro session same
      cases same
  | @register c source d key service stamp before free conns sessions channels readers =>
    apply routes.unguarded free
    intro c' source' phase found live
    rw [conns, lookup_insert_eq] at found
    split at found
    · cases found
      exact absurd rfl live
    · exact found
  | @route c source key handle before found conns sessions channels readers =>
    apply routes.move conns channels
    · intro c' _ guard
      rw [readers]
      exact List.mem_cons_of_mem _ guard
    · intro key same
      cases same
    · rintro session ⟨⟩
      obtain ⟨item, held, rfl⟩ := Option.map_eq_some_iff.mp found
      refine ⟨readers ▸ List.mem_cons_self, key, item, ?_, held, rfl⟩
      exact List.mem_append_left _ (routes.routing c source key before)
  | deliver before found conns sessions channels readers =>
    apply routes.move conns channels
    · intro c' other guard
      rw [readers]
      exact (List.mem_erase_of_ne other).mpr guard
    · intro key same
      cases same
    · intro session same
      cases same
  | session found service queue conns sessions channels readers => exact calm conns channels readers
  | reload free conns sessions channels readers =>
    apply routes.unguarded free
    intro c source phase found _
    rwa [conns] at found

/-- Streams leave the queues but none enters. -/
theorem QueuesSound.keep {a : Action D} {keys' : HashMap Nat D} (queues : QueuesSound as s keys)
    (gone : ∀ c, s.gone c → t.gone c)
    (back : ∀ c y, t.sessions.lookup c = some y → y.dataChannels ≠ [] →
      ∃ x, s.sessions.lookup c = some x ∧ y.dataChannels.Sublist x.dataChannels)
    (kept : ∀ c key, keys.lookup c = some key → keys'.lookup c = some key) :
    QueuesSound (as ++ [a]) t keys' := by
  constructor
  · intro c y i found member
    obtain ⟨x, before, sub⟩ := back c y found (List.ne_nil_of_mem member)
    obtain ⟨over', key, read, drawn⟩ := queues.queued c x i before (sub.subset member)
    exact ⟨gone i over', key, List.mem_append_left _ read, kept c key drawn⟩
  · intro c c' y y' i one two member member'
    obtain ⟨x, before, sub⟩ := back c y one (List.ne_nil_of_mem member)
    obtain ⟨x', before', sub'⟩ := back c' y' two (List.ne_nil_of_mem member')
    exact queues.single c c' x x' i before before' (sub.subset member) (sub'.subset member')
  · intro c y found
    by_cases empty : y.dataChannels = []
    · rw [empty]
      exact List.nodup_nil
    · obtain ⟨x, before, sub⟩ := back c y found empty
      exact (queues.nodup c x before).sublist sub

theorem QueuesSound.deliver {a : Action D} {c session : Nat} {source : SocketAddr} {x : Session}
    (queues : QueuesSound as s keys) (sound : KeysSound digest s keys) (routes : RoutesSound as s)
    (before : s.conns.lookup c = some ⟨source, .delivering session⟩)
    (found : s.sessions.lookup session = some x)
    (conns : t.conns = s.conns.insert c ⟨source, .closed⟩)
    (sessions : t.sessions = s.sessions.insert session
      { x with dataChannels := x.dataChannels ++ [c], arrived := x.arrived + 1 }) :
    QueuesSound (as ++ [a]) t keys := by
  have live : ¬ s.gone c := not_gone before (by intro same; cases same)
  have gone : ∀ i, s.gone i → t.gone i := by
    intro i closed
    by_cases here : i = c
    · exact here ▸ gone_insert_closed conns
    · exact (gone_insert conns here).mpr closed
  have entered : ∀ c' y i, t.sessions.lookup c' = some y → i ∈ y.dataChannels →
      (∃ x', s.sessions.lookup c' = some x' ∧ i ∈ x'.dataChannels) ∨ i = c ∧ c' = session := by
    intro c' y i held member
    rw [sessions, lookup_insert_eq] at held
    split at held
    · next here =>
      cases held
      rcases List.mem_append.mp member with old | new
      · exact .inl ⟨x, here ▸ found, old⟩
      · exact .inr ⟨List.mem_singleton.mp new, here⟩
    · exact .inl ⟨y, held, member⟩
  constructor
  · intro c' y i held member
    rcases entered c' y i held member with ⟨x', first, old⟩ | ⟨rfl, rfl⟩
    · obtain ⟨closed, key, read, drawn⟩ := queues.queued c' x' i first old
      exact ⟨gone i closed, key, List.mem_append_left _ read, drawn⟩
    · obtain ⟨-, key, item, read, registered, same⟩ := routes.delivering i source c' before
      obtain ⟨drawn, -⟩ := sound.stored key item registered
      exact ⟨gone_insert_closed conns, key, List.mem_append_left _ read, same ▸ drawn⟩
  · intro c₁ c₂ y y' i one two member member'
    rcases entered c₁ y i one member with ⟨x', first, old⟩ | ⟨rfl, rfl⟩ <;>
      rcases entered c₂ y' i two member' with ⟨x'', second, old'⟩ | ⟨same, rfl⟩
    · exact queues.single c₁ c₂ x' x'' i first second old old'
    · exact absurd (same ▸ (queues.queued c₁ x' i first old).1) live
    · exact absurd (queues.queued c₂ x'' i second old').1 live
    · rfl
  · intro c' y held
    rw [sessions, lookup_insert_eq] at held
    split at held
    · cases held
      apply List.nodup_append.mpr
      refine ⟨queues.nodup session x found, List.nodup_singleton _, ?_⟩
      intro i old j new same
      rw [List.mem_singleton.mp new] at same
      exact live (same ▸ (queues.queued session x i found old).1)
    · exact queues.nodup c' y held

theorem QueuesSound.step {a : Action D} {keys' : HashMap Nat D} (queues : QueuesSound as s keys)
    (sound : KeysSound digest s keys) (routes : RoutesSound as s) (effect : Effect s t a)
    (next : Remembers s keys a keys') : QueuesSound (as ++ [a]) t keys' := by
  have whole : t.sessions = s.sessions → QueuesSound (as ++ [a]) t keys' := by
    intro sessions
    apply queues.keep effect.gone _ next.kept
    intro c y found _
    exact ⟨y, sessions ▸ found, List.Sublist.refl _⟩
  have moved := effect
  cases effect with
  | still conns sessions channels readers => exact whole sessions
  | enter conns sessions channels readers before plain labels => exact whole sessions
  | close before live conns sessions channels readers => exact whole sessions
  | connect before conns sessions channels readers =>
    apply queues.keep moved.gone _ next.kept
    intro c y found held
    rw [sessions, lookup_insert_eq] at found
    split at found
    · cases found
      exact absurd rfl held
    · exact ⟨y, found, List.Sublist.refl _⟩
  | register before free conns sessions channels readers => exact whole sessions
  | route before found conns sessions channels readers => exact whole sessions
  | deliver before found conns sessions channels readers =>
    rcases next with rfl | ⟨c, now, source, d, key, service, label, -⟩
    · exact queues.deliver sound routes before found conns sessions
    · cases label
  | @session _ c x y held service queue conns sessions channels readers =>
    apply queues.keep moved.gone _ next.kept
    intro c' y' found _
    rw [sessions, lookup_insert_eq] at found
    split at found
    · next here =>
      cases found
      exact ⟨x, here ▸ held, queue⟩
    · exact ⟨y', found, List.Sublist.refl _⟩
  | reload free conns sessions channels readers => exact whole sessions

/-- Stream `i` waits in the queue of session `c`. -/
def State.queued (s : State D) (c i : Nat) : Prop :=
  ∃ x, s.sessions.lookup c = some x ∧ i ∈ x.dataChannels

theorem Effect.pushed {a : Action D} {c i : Nat} (effect : Effect s t a)
    (absent : ¬ s.queued c i) (queued : t.queued c i) :
    a = .deliver i ∧ ∃ source, s.conns.lookup i = some ⟨source, .delivering c⟩ := by
  obtain ⟨y, found, member⟩ := queued
  have stays : t.sessions = s.sessions → False := by
    intro sessions
    exact absent ⟨y, sessions ▸ found, member⟩
  cases effect with
  | still conns sessions channels readers => exact (stays sessions).elim
  | enter conns sessions channels readers before plain labels => exact (stays sessions).elim
  | close before live conns sessions channels readers => exact (stays sessions).elim
  | connect before conns sessions channels readers =>
    rw [sessions, lookup_insert_eq] at found
    split at found
    · cases found
      cases member
    · exact absurd ⟨y, found, member⟩ absent
  | register before free conns sessions channels readers => exact (stays sessions).elim
  | route before held conns sessions channels readers => exact (stays sessions).elim
  | @deliver c' session source x before held conns sessions channels readers =>
    rw [sessions, lookup_insert_eq] at found
    split at found
    · next here =>
      cases found
      rcases List.mem_append.mp member with old | new
      · exact absurd ⟨x, here ▸ held, old⟩ absent
      · rw [List.mem_singleton.mp new, here]
        exact ⟨rfl, source, before⟩
    · exact absurd ⟨y, found, member⟩ absent
  | @session _ c' x y' held service queue conns sessions channels readers =>
    rw [sessions, lookup_insert_eq] at found
    split at found
    · next here =>
      cases found
      exact absurd ⟨x, here ▸ held, queue.subset member⟩ absent
    · exact absurd ⟨y, found, member⟩ absent
  | reload free conns sessions channels readers => exact (stays sessions).elim

end Streams

section Runs

variable {start s t : Keyed D} {as : List (Action D)}

theorem keyed_step {a : Action D} (moved : (keyed digest).step s a = some t) :
    step digest s.server a = some t.server ∧ t.keys = t.server.remember s.keys a := by
  obtain ⟨server, stepped, rfl⟩ := Option.map_eq_some_iff.mp moved
  exact ⟨stepped, rfl⟩

/-- What the isolation of the data channels rests on, after the steps `as`. -/
structure Tracked (digest : List UInt8 → D) (as : List (Action D)) (s : Keyed D) : Prop where
  named : Named digest s.server
  keys : KeysSound digest s.server s.keys
  routes : RoutesSound as s.server
  queues : QueuesSound as s.server s.keys
  hashed : Hashed digest s.server

theorem tracked_start (initial : (keyed digest).init s) : Tracked digest [] s := by
  obtain ⟨initial, keys⟩ := initial
  have named : Named digest s.server := .start initial
  obtain ⟨config, entries, processId, now, -, -, server⟩ := initial
  have conns : ∀ c, s.server.conns.lookup c = none := by
    intro c
    rw [server]
    exact Finmap.lookup_empty _
  have sessions : ∀ c, s.server.sessions.lookup c = none := by
    intro c
    rw [server]
    exact Finmap.lookup_empty _
  refine ⟨named, ⟨?_, ?_, ?_⟩, ⟨?_, ?_⟩, ⟨?_, ?_, ?_⟩, ?_⟩
  · intro c p pending
    rw [State.pending, conns] at pending
    cases pending
  · intro c key drawn
    rw [keys] at drawn
    cases drawn
  · intro key item found
    rw [server] at found
    cases found
  · intro c source key found
    rw [conns] at found
    cases found
  · intro c source session found
    rw [conns] at found
    cases found
  · intro c x i found
    rw [sessions] at found
    cases found
  · intro c c' x x' i found
    rw [sessions] at found
    cases found
  · intro c x found
    rw [sessions] at found
    cases found
  · rw [server]
    rintro name hash stamp (same | same) <;> cases same

theorem Tracked.step {a : Action D} (tracked : Tracked digest as s)
    (moved : (keyed digest).step s a = some t) :
    Tracked digest (as ++ [a]) t ∧ Remembers s.server s.keys a t.keys := by
  obtain ⟨moved, keys⟩ := keyed_step moved
  have effect := effect_of_step moved
  obtain ⟨sound, next⟩ := tracked.keys.step tracked.named effect
  rw [← keys] at sound next
  exact ⟨⟨tracked.named.step moved, sound, tracked.routes.step effect,
    tracked.queues.step tracked.keys tracked.routes effect next, tracked.hashed.step moved⟩, next⟩

theorem tracked_of_run {ok : Keyed D → Action D → Prop} (initial : (keyed digest).init start)
    (run : (keyed digest).Run ok start as s) : Tracked digest as s :=
  run.history (fun _ _ _ _ _ _ moved tracked => (tracked.step moved).1) (tracked_start initial)

/-- In runs whose session keys are distinct, no two sessions have the same one. -/
theorem distinct_of_run (initial : (keyed digest).init start)
    (run : (keyed digest).Run FreshKey start as s) : KeysDistinct s.keys := by
  refine run.history (I := fun _ s => KeysDistinct s.keys) ?_ ?_
  · intro as s a t before fresh moved distinct
    exact distinct.step fresh ((tracked_of_run initial before).step moved).2
  · intro c c' key drawn
    rw [initial.2] at drawn
    cases drawn

/-- A key whose handle is no longer registered under it is out of use, and stays so. -/
theorem retired_of_run {bs : List (Action D)} {key : D} {item : D × D × Handle}
    (initial : (keyed digest).init start) (run : (keyed digest).Run FreshKey start as s)
    (held : s.server.controlChannels.map2.lookup key = some item)
    (rest : (keyed digest).Run FreshKey s bs t) :
    t.server.controlChannels.map2.lookup key = some item ∨ Retired key t.server t.keys := by
  refine rest.history (I := fun _ t => t.server.controlChannels.map2.lookup key = some item ∨
    Retired key t.server t.keys) ?_ (.inl held)
  intro bs u a v before fresh moved here
  have reached := run.append before
  have tracked := tracked_of_run initial reached
  have distinct := distinct_of_run initial reached
  have next := (tracked.step moved).2
  have effect := effect_of_step (keyed_step moved).1
  rcases here with held | retired
  · exact registered_or_retired effect tracked.keys distinct next held
  · exact .inr (retired.step effect tracked.keys distinct next)

theorem retired_stays {bs : List (Action D)} {key : D}
    (initial : (keyed digest).init start) (run : (keyed digest).Run FreshKey start as s)
    (retired : Retired key s.server s.keys) (rest : (keyed digest).Run FreshKey s bs t) :
    Retired key t.server t.keys := by
  refine rest.history (I := fun _ t => Retired key t.server t.keys) ?_ retired
  intro bs u a v before fresh moved here
  have reached := run.append before
  have tracked := tracked_of_run initial reached
  exact here.step (effect_of_step (keyed_step moved).1) tracked.keys
    (distinct_of_run initial reached) (tracked.step moved).2

/-- A key whose handle a step takes out of the map matches nothing from that step on. -/
theorem unmatched_of_lost {a : Action D} {cs : List (Action D)} {u : Keyed D} {key : D}
    {item : D × D × Handle} (initial : (keyed digest).init start)
    (run : (keyed digest).Run FreshKey start as s) (fresh : FreshKey s a)
    (moved : (keyed digest).step s a = some t)
    (held : s.server.controlChannels.map2.lookup key = some item)
    (lost : t.server.controlChannels.map2.lookup key = none)
    (rest : (keyed digest).Run FreshKey t cs u) : u.server.controlChannels.get2 key = none := by
  have tracked := tracked_of_run initial run
  have retired : Retired key t.server t.keys :=
    retired_of_lost (effect_of_step (keyed_step moved).1) tracked.keys (tracked.step moved).2 held
      lost
  have later := retired_stays initial (run.append (.single fresh moved)) retired rest
  rw [MultiMap.get2, later.2]
  rfl

/-- A stream that was queued is never queued elsewhere. -/
theorem queued_once {ok : Keyed D → Action D → Prop} {bs : List (Action D)} {c c' i : Nat}
    (initial : (keyed digest).init start) (run : (keyed digest).Run ok start as s)
    (queued : s.server.queued c i) (rest : (keyed digest).Run ok s bs t)
    (later : t.server.queued c' i) : c = c' := by
  have both : t.server.gone i ∧ ∀ c', t.server.queued c' i → c = c' := by
    refine rest.history (I := fun _ t => t.server.gone i ∧ ∀ c', t.server.queued c' i → c = c')
      ?_ ⟨?_, ?_⟩
    · intro bs u a v before allowed moved here
      obtain ⟨gone, only⟩ := here
      have effect := effect_of_step (keyed_step moved).1
      refine ⟨effect.gone i gone, fun c' queued => ?_⟩
      by_cases before : u.server.queued c' i
      · exact only c' before
      · obtain ⟨-, source, delivering⟩ := effect.pushed before queued
        exact absurd gone (not_gone delivering (by intro same; cases same))
    · obtain ⟨x, found, member⟩ := queued
      exact ((tracked_of_run initial run).queues.queued c x i found member).1
    · intro c' other
      obtain ⟨x, found, member⟩ := queued
      obtain ⟨x', found', member'⟩ := other
      exact (tracked_of_run initial run).queues.single c c' x x' i found found' member member'
  exact both.2 c' later

/-- The isolation of the data channels of `s`, which the steps `as` lead to. -/
structure ChannelsIsolated (digest : List UInt8 → D) (start : Keyed D) (as : List (Action D))
    (s : Keyed D) : Prop where
  /-- A stream is pushed only to a session whose handle is registered, at that moment, under
  the key that was read from the stream; the handle was created for the service that its
  digest names. -/
  pushed : ∀ a t c i, (keyed digest).step s a = some t → ¬ s.server.queued c i →
    t.server.queued c i → ∃ key d handle, .readDataHello i key ∈ as ∧
      s.server.controlChannels.map2.lookup key = some (d, key, handle) ∧
      handle.session = c ∧ digest (asBytes handle.service.name) = d ∧
      ∃ x, s.server.sessions.lookup c = some x ∧ x.service = handle.service
  /-- A stream in a queue carries the key of that session. -/
  own : ∀ c i, s.server.queued c i →
    ∃ key, .readDataHello i key ∈ as ∧ s.keys.lookup c = some key
  /-- No stream is ever in two queues, or twice in one. -/
  single : ∀ c i bs t, s.server.queued c i → (keyed digest).Run Free s bs t →
    ∀ c', t.server.queued c' i → c = c'
  nodup : ∀ c x, s.server.sessions.lookup c = some x → x.dataChannels.Nodup
  /-- The two keys of a registered pair lead to one handle. -/
  paired : ∀ d key handle, s.server.controlChannels.map1.lookup d = some (d, key, handle) ∨
      s.server.controlChannels.map2.lookup key = some (d, key, handle) →
    s.server.controlChannels.get1 d = some handle ∧ s.server.controlChannels.get2 key = some handle
  /-- With distinct session keys, a key that lost its handle matches nothing afterwards. -/
  retired : (keyed digest).Run FreshKey start as s → ∀ key handle,
    s.server.controlChannels.get2 key = some handle →
    ∀ bs t, (keyed digest).Run FreshKey s bs t → t.server.controlChannels.get2 key ≠ some handle →
    ∀ cs u, (keyed digest).Run FreshKey t cs u → u.server.controlChannels.get2 key = none
  /-- The handle stored for a service is superseded by the next one: its key matches nothing
  from the step on that registers the new handle. -/
  superseded : (keyed digest).Run FreshKey start as s → ∀ c source d key service stamp old handle,
    s.server.conns.lookup c = some ⟨source, .registering d key service stamp⟩ →
    s.server.controlChannels.map1.lookup d = some (d, old, handle) →
    ∀ t, (keyed digest).step s (.register c) = some t →
    ∀ cs u, (keyed digest).Run FreshKey t cs u → u.server.controlChannels.get2 old = none
  /-- So it is with the service of an Add or a Delete, from the last step of the reload on. -/
  reloaded : (keyed digest).Run FreshKey start as s →
    ∀ t, (keyed digest).step s .reloadChannels = some t → ∃ name stamp,
      (s.server.reload = .added name (digest (asBytes name)) stamp ∨
        s.server.reload = .deleted name (digest (asBytes name)) stamp) ∧
      t.server.controlChannels.get1 (digest (asBytes name)) = none ∧
      ∀ old handle, s.server.controlChannels.map1.lookup (digest (asBytes name)) =
          some (digest (asBytes name), old, handle) →
        ∀ cs u, (keyed digest).Run FreshKey t cs u → u.server.controlChannels.get2 old = none

theorem channels_isolated_of_run (initial : (keyed digest).init start)
    (run : (keyed digest).Run Free start as s) : ChannelsIsolated digest start as s := by
  have tracked := tracked_of_run initial run
  constructor
  case pushed =>
    intro a t c i moved absent queued
    have effect := effect_of_step (keyed_step moved).1
    obtain ⟨-, source, delivering⟩ := effect.pushed absent queued
    obtain ⟨-, key, ⟨d, key', handle⟩, read, held, same⟩ :=
      tracked.routes.delivering i source c delivering
    obtain ⟨rfl, -⟩ := s.server.controlChannels.indexed2 key _ held
    obtain ⟨-, -, named, x, session, service⟩ := tracked.keys.stored _ _ held
    exact ⟨_, d, handle, read, held, same, named, x, same ▸ session, service⟩
  case own =>
    rintro c i ⟨x, found, member⟩
    exact (tracked.queues.queued c x i found member).2
  case single =>
    intro c i bs t queued rest c' later
    exact queued_once initial run queued rest later
  case nodup => exact tracked.queues.nodup
  case paired =>
    have both : ∀ d key handle, s.server.controlChannels.map1.lookup d = some (d, key, handle) →
        s.server.controlChannels.map2.lookup key = some (d, key, handle) →
        s.server.controlChannels.get1 d = some handle ∧
          s.server.controlChannels.get2 key = some handle := by
      intro d key handle first second
      rw [MultiMap.get1, MultiMap.get2, first, second]
      exact ⟨rfl, rfl⟩
    intro d key handle held
    rcases held with first | second
    · exact both d key handle first (s.server.controlChannels.indexed1 d _ first).2
    · exact both d key handle (s.server.controlChannels.indexed2 key _ second).2 second
  case retired =>
    intro fresh key handle held bs t rest lost cs u last
    obtain ⟨item, found, rfl⟩ := Option.map_eq_some_iff.mp held
    have retired : Retired key t.server t.keys := by
      rcases retired_of_run initial fresh found rest with still | retired
      · exact absurd (by rw [MultiMap.get2, still]; rfl) lost
      · exact retired
    have later := retired_stays initial (fresh.append rest) retired last
    rw [MultiMap.get2, later.2]
    rfl
  case superseded =>
    intro fresh c source d key service stamp old handle before stored t moved cs u rest
    have held := (s.server.controlChannels.indexed1 d _ stored).2
    refine unmatched_of_lost initial fresh ?_ moved held ?_ rest
    · intro c' now source' d' key' service' same
      cases same
    · exact superseded_of_register tracked.keys (distinct_of_run initial fresh) before stored
        (keyed_step moved).1
  case reloaded =>
    intro fresh t moved
    obtain ⟨name, stamp, reload, channels⟩ :=
      removed_of_reloadChannels tracked.hashed (keyed_step moved).1
    refine ⟨name, stamp, reload, ?_, ?_⟩
    · rw [channels, MultiMap.get1, MultiMap.lookup_map1_remove1, if_pos rfl]
      rfl
    intro old handle stored cs u rest
    have held := (s.server.controlChannels.indexed1 _ _ stored).2
    refine unmatched_of_lost initial fresh ?_ moved held ?_ rest
    · intro c' now source' d' key' service' same
      cases same
    · rw [channels, MultiMap.lookup_map2_remove1, held, Option.filter_some, if_neg]
      simp

/-- `FreshKey` as a check. -/
def freshKey (s : Keyed D) : Action D → Bool
  | .connect c _ =>
    match s.server.conns.lookup c with
    | some ⟨_, .accepting _ key _⟩ => ∀ c' ∈ s.keys.keys, s.keys.lookup c' ≠ some key
    | _ => true
  | _ => true

theorem fresh_key_of_check (s : Keyed D) (a : Action D) (passed : freshKey s a = true) :
    FreshKey s a := by
  rintro c now source d key service rfl before c' drawn
  simp only [freshKey, before, decide_eq_true_eq] at passed
  have held : c' ∈ s.keys := Finmap.lookup_isSome.mp (by rw [drawn]; rfl)
  exact passed c' (Finmap.mem_keys.mpr held) drawn

def webKeyed : Keyed (List UInt8) := ⟨webServer "old", ∅⟩

/-- A whole handshake for the service `web`. -/
def webHandshake (c : Nat) (nonce : List UInt8) : List (Action (List UInt8)) :=
  [.accept c (.v4 1 c), .readControlHello c (asBytes "web") nonce, .greet c, .lookup c,
    .readAuth c (asBytes "old" ++ nonce), .connect c 1000, .register c]

def webKey (nonce : List UInt8) : List UInt8 := asBytes "old" ++ nonce

def oneNonce : List UInt8 := List.replicate hashWidthInBytes 1

/-- Session 0 gets stream 2, session 1 supersedes session 0, and a reload deletes the service:
the keys of both are out of use for good. -/
theorem channels_isolated_superseded : ∃ as s t bs u v,
    (keyed id).Run FreshKey webKeyed as s ∧ s.server.queued 0 2 ∧
    (keyed id).step s (.register 1) = some t ∧ (keyed id).Run FreshKey t bs u ∧
    (keyed id).step u .reloadChannels = some v ∧
    (∀ cs w, (keyed id).Run FreshKey t cs w →
      w.server.controlChannels.get2 (webKey zeroNonce) = none) ∧
    ∀ cs w, (keyed id).Run FreshKey v cs w →
      w.server.controlChannels.get2 (webKey oneNonce) = none := by
  let deliver : List (Action (List UInt8)) :=
    [.accept 2 (.v4 1 2), .readDataHello 2 (webKey zeroNonce), .route 2, .deliver 2]
  let delete : List (Action (List UInt8)) :=
    [.reload (.serverChange (.delete "web")), .reloadServices]
  have executed : (((keyed id).exec freshKey webKeyed
      (webHandshake 0 zeroNonce ++ deliver ++ (webHandshake 1 oneNonce).dropLast)).bind fun s =>
        if (s.server.sessions.lookup 0).any (fun x => 2 ∈ x.dataChannels) ∧
            s.server.conns.lookup 1 = some ⟨.v4 1 1,
              .registering (asBytes "web") (webKey oneNonce) (webService "old") 1⟩ ∧
            s.server.controlChannels.map1.lookup (asBytes "web") =
              some (asBytes "web", webKey zeroNonce, ⟨0, webService "old"⟩) then
          ((keyed id).step s (.register 1)).bind fun t =>
            ((keyed id).exec freshKey t delete).bind fun u =>
              if u.server.reload = .deleted "web" (asBytes "web") 2 ∧
                  u.server.controlChannels.map1.lookup (asBytes "web") =
                    some (asBytes "web", webKey oneNonce, ⟨1, webService "old"⟩) then
                (keyed id).step u .reloadChannels else none
        else none).isSome = true := by
    decide +kernel
  obtain ⟨v, done⟩ := Option.isSome_iff_exists.mp executed
  obtain ⟨s, first, done⟩ := Option.bind_eq_some_iff.mp done
  obtain ⟨⟨queued, before, stored⟩, done⟩ := Option.ite_none_right_eq_some.mp done
  obtain ⟨t, registered, done⟩ := Option.bind_eq_some_iff.mp done
  obtain ⟨u, second, done⟩ := Option.bind_eq_some_iff.mp done
  obtain ⟨⟨reload, stored'⟩, removed⟩ := Option.ite_none_right_eq_some.mp done
  obtain ⟨x, found, member⟩ := (Option.any_eq_true _ _).mp queued
  have initial : (keyed id).init webKeyed := ⟨webServer_init "old", rfl⟩
  have run := Transition.System.run_of_exec fresh_key_of_check first
  have later := Transition.System.run_of_exec fresh_key_of_check second
  have registers : FreshKey s (.register 1) := by
    intro c now source d key service same
    cases same
  have through := run.append (.cons registers registered later)
  refine ⟨_, s, t, _, u, v, run, ⟨x, found, of_decide_eq_true member⟩, registered, later, removed,
    ?_, ?_⟩
  · exact (channels_isolated_of_run initial run.free).superseded run 1 _ _ _ _ _ _ _ before stored
      t registered
  · obtain ⟨name, stamp, named, -, unmatched⟩ :=
      (channels_isolated_of_run initial through.free).reloaded through v removed
    rw [reload] at named
    rcases named with same | same
    · cases same
    · injection same with same
      subst same
      exact unmatched _ _ stored'

end Runs

end Rathole.Server
