import Rathole.ServerRouting

set_option autoImplicit false

/- Who gets a handle registered: the handshake of each connection, and an adversary
that sees every digest on the wire. -/
namespace Rathole.Server

open Transition.System (Run Free)

variable {D : Type} [DecidableEq D] {digest : List UInt8 → D}

/-- `digest_eq`, on the bytes of two digests. -/
def digestEq (a b : List UInt8) : Bool :=
  (a.zip b).foldl (fun acc p => acc ||| (p.1 ^^^ p.2)) 0 == 0

theorem digestEq_iff {a b : List UInt8} (same : a.length = b.length) :
    digestEq a b = true ↔ a = b := by
  have general : ∀ (a b : List UInt8) (acc : UInt8), a.length = b.length →
      ((a.zip b).foldl (fun acc p => acc ||| (p.1 ^^^ p.2)) acc = 0 ↔ acc = 0 ∧ a = b) := by
    intro a
    induction a with
    | nil =>
      intro b acc same
      rw [List.length_eq_zero_iff.mp same.symm]
      simp
    | cons x a ih =>
      intro b acc same
      cases b with
      | nil => cases same
      | cons y b =>
        have rest : a.length = b.length := Nat.succ.inj same
        rw [List.zip_cons_cons, List.foldl_cons, ih b _ rest, UInt8.or_eq_zero_iff,
          UInt8.xor_eq_zero_iff, List.cons.injEq, and_assoc]
  rw [digestEq, beq_iff_eq, general a b 0 same]
  exact and_iff_right rfl

section Handshake

variable {start s t : State D} {as bs : List (Action D)}

/-- The server drew `nonce` for connection `c`, whose peer asks for the service `d`. -/
def Drew (as : List (Action D)) (c : Nat) (d : D) (nonce : List UInt8) : Prop :=
  .readControlHello c d nonce ∈ as

/-- Later the hello with the nonce was out. -/
def Greeted (as : List (Action D)) (c : Nat) (d : D) (nonce : List UInt8) : Prop :=
  ∃ before after, as = before ++ .greet c :: after ∧ Drew before c d nonce

/-- Later `services` mapped `d` to `service`, and the handshake looked it up. -/
def LookedUp (digest : List UInt8 → D) (start : State D) (as : List (Action D)) (c : Nat) (d : D)
    (nonce : List UInt8) (service : ServerServiceConfig) : Prop :=
  ∃ before after u, as = before ++ .lookup c :: after ∧ Greeted before c d nonce ∧
    (system digest).Run Free start before u ∧ u.services.lookup d = some service

/-- Later the peer sent the digest of the token of `service` and the nonce, which is `key`. -/
def Authenticated (digest : List UInt8 → D) (start : State D) (as : List (Action D)) (c : Nat)
    (d key : D) (service : ServerServiceConfig) : Prop :=
  ∃ before after nonce token, as = before ++ .readAuth c key :: after ∧
    LookedUp digest start before c d nonce service ∧ service.token = some token ∧
    key = digest (asBytes token ++ nonce)

omit [DecidableEq D] in
theorem Drew.later {c : Nat} {d : D} {nonce : List UInt8} (drew : Drew as c d nonce) :
    Drew (as ++ bs) c d nonce :=
  List.mem_append_left bs drew

omit [DecidableEq D] in
theorem Greeted.later {c : Nat} {d : D} {nonce : List UInt8} (greeted : Greeted as c d nonce) :
    Greeted (as ++ bs) c d nonce := by
  obtain ⟨before, after, rfl, drew⟩ := greeted
  exact ⟨before, after ++ bs, by rw [List.append_assoc, List.cons_append], drew⟩

theorem LookedUp.later {c : Nat} {d : D} {nonce : List UInt8} {service : ServerServiceConfig}
    (looked : LookedUp digest start as c d nonce service) :
    LookedUp digest start (as ++ bs) c d nonce service := by
  obtain ⟨before, after, u, rfl, greeted, run, found⟩ := looked
  exact ⟨before, after ++ bs, u, by rw [List.append_assoc, List.cons_append], greeted, run, found⟩

theorem Authenticated.later {c : Nat} {d key : D} {service : ServerServiceConfig}
    (auth : Authenticated digest start as c d key service) :
    Authenticated digest start (as ++ bs) c d key service := by
  obtain ⟨before, after, nonce, token, rfl, looked, held, same⟩ := auth
  exact ⟨before, after ++ bs, nonce, token, by rw [List.append_assoc, List.cons_append], looked,
    held, same⟩

/-- What a connection went through to stand where it does. -/
def Phase.Sound (digest : List UInt8 → D) (start : State D) (as : List (Action D)) (c : Nat) :
    Phase D → Prop
  | .greeting d nonce => Drew as c d nonce
  | .lookup d nonce => Greeted as c d nonce
  | .authenticating d concat service => ∃ nonce token,
      LookedUp digest start as c d nonce service ∧ service.token = some token ∧
      concat = asBytes token ++ nonce
  | .accepting d key service | .registering d key service _ =>
      Authenticated digest start as c d key service
  | _ => True

theorem Phase.Sound.later {c : Nat} {phase : Phase D} (sound : phase.Sound digest start as c) :
    phase.Sound digest start (as ++ bs) c := by
  cases phase with
  | greeting d nonce => exact Drew.later sound
  | lookup d nonce => exact Greeted.later sound
  | authenticating d concat service =>
    obtain ⟨nonce, token, looked, held, same⟩ := sound
    exact ⟨nonce, token, looked.later, held, same⟩
  | accepting d key service => exact Authenticated.later sound
  | registering d key service stamp => exact Authenticated.later sound
  | _ => trivial

/-- Every connection, and every handle in the map, went through its handshake. -/
structure Handshaken (digest : List UInt8 → D) (start : State D) (as : List (Action D))
    (s : State D) : Prop where
  phases : ∀ c conn, s.conns.lookup c = some conn → conn.phase.Sound digest start as c
  stored : ∀ key item, s.controlChannels.map2.lookup key = some item →
    Authenticated digest start as item.2.2.session item.1 key item.2.2.service ∧
      s.gone item.2.2.session

/-- The phase a step takes a connection to, with what the step found before. -/
inductive Moves (digest : List UInt8 → D) (s : State D) : Action D → Nat → Phase D → Prop
  | greeting {c : Nat} {d : D} {nonce : List UInt8} :
    Moves digest s (.readControlHello c d nonce) c (.greeting d nonce)
  | lookup {c : Nat} {source : SocketAddr} {d : D} {nonce : List UInt8}
      (before : s.conns.lookup c = some ⟨source, .greeting d nonce⟩) :
    Moves digest s (.greet c) c (.lookup d nonce)
  | authenticating {c : Nat} {source : SocketAddr} {d : D} {nonce : List UInt8}
      {service : ServerServiceConfig} {token : String}
      (before : s.conns.lookup c = some ⟨source, .lookup d nonce⟩)
      (found : s.services.lookup d = some service) (held : service.token = some token) :
    Moves digest s (.lookup c) c (.authenticating d (asBytes token ++ nonce) service)
  | accepting {c : Nat} {source : SocketAddr} {d : D} {concat : List UInt8}
      {service : ServerServiceConfig}
      (before : s.conns.lookup c = some ⟨source, .authenticating d concat service⟩) :
    Moves digest s (.readAuth c (digest concat)) c (.accepting d (digest concat) service)
  | registering {c now : Nat} {source : SocketAddr} {d key : D} {service : ServerServiceConfig}
      (before : s.conns.lookup c = some ⟨source, .accepting d key service⟩) :
    Moves digest s (.connect c now) c (.registering d key service s.stamp)
  | other {a : Action D} {c : Nat} {phase : Phase D}
      (sound : ∀ start as, phase.Sound digest start as c) : Moves digest s a c phase

/-- A step that moves one connection. -/
theorem moves_of_insert {a : Action D} {c c' : Nat} {source : SocketAddr} {next : Phase D}
    {conn : Conn D} (conns : t.conns = s.conns.insert c ⟨source, next⟩)
    (moves : Moves digest s a c next) (found : t.conns.lookup c' = some conn) :
    s.conns.lookup c' = some conn ∨ Moves digest s a c' conn.phase := by
  rw [conns, lookup_insert_eq] at found
  split at found
  · next here =>
    cases found
    exact .inr (here ▸ moves)
  · exact .inl found

theorem moves_lookup {c c' : Nat} {conn : Conn D} (moved : s.lookup c = some t)
    (found : t.conns.lookup c' = some conn) :
    s.conns.lookup c' = some conn ∨ Moves digest s (.lookup c) c' conn.phase := by
  unfold State.lookup at moved
  split at moved
  · next source d nonce before =>
    split at moved
    · cases moved
    · split at moved
      · cases moved
        exact moves_of_insert rfl (.other fun _ _ => by trivial) found
      · next service held =>
        split at moved
        · cases moved
          exact moves_of_insert rfl (.other fun _ _ => by trivial) found
        · next token given =>
          cases moved
          exact moves_of_insert rfl (.authenticating before held given) found
  · cases moved

theorem moves_readAuth {c c' : Nat} {d : D} {conn : Conn D}
    (moved : s.readAuth digest c d = some t) (found : t.conns.lookup c' = some conn) :
    s.conns.lookup c' = some conn ∨ Moves digest s (.readAuth c d) c' conn.phase := by
  unfold State.readAuth at moved
  split at moved
  · next source service_digest concat service before =>
    dsimp only at moved
    split at moved
    · next same =>
      subst same
      cases moved
      exact moves_of_insert rfl (.accepting before) found
    · cases moved
      exact moves_of_insert rfl (.other fun _ _ => by trivial) found
  · cases moved

theorem moves_deliver {c c' : Nat} {conn : Conn D} (moved : s.deliver c = some t)
    (found : t.conns.lookup c' = some conn) :
    s.conns.lookup c' = some conn ∨ Moves digest s (.deliver c) c' conn.phase := by
  unfold State.deliver at moved
  split at moved
  · split at moved
    · cases moved
    · split at moved
      · obtain ⟨-, ⟨⟩⟩ := Option.ite_none_right_eq_some.mp moved
        exact moves_of_insert rfl (.other fun _ _ => by trivial) found
      · cases moved
        exact moves_of_insert rfl (.other fun _ _ => by trivial) found
  · cases moved

theorem moves_of_step {a : Action D} {c' : Nat} {conn : Conn D}
    (moved : step digest s a = some t) (found : t.conns.lookup c' = some conn) :
    s.conns.lookup c' = some conn ∨ Moves digest s a c' conn.phase := by
  cases a with
  | accept c source =>
    obtain ⟨-, ⟨⟩⟩ := Option.ite_none_right_eq_some.mp moved
    exact moves_of_insert rfl (.other fun _ _ => by trivial) found
  | readControlHello c d nonce =>
    simp only [step, State.readControlHello] at moved
    split at moved
    · obtain ⟨-, ⟨⟩⟩ := Option.ite_none_right_eq_some.mp moved
      exact moves_of_insert rfl .greeting found
    · cases moved
  | readDataHello c key =>
    simp only [step, State.readDataHello] at moved
    split at moved <;> cases moved
    exact moves_of_insert rfl (.other fun _ _ => by trivial) found
  | greet c =>
    simp only [step, State.greet] at moved
    split at moved
    · next source d nonce before =>
      cases moved
      exact moves_of_insert rfl (.lookup before) found
    · cases moved
  | lookup c => exact moves_lookup moved found
  | readAuth c d => exact moves_readAuth moved found
  | connect c now =>
    obtain ⟨source, d, key, service, before, rfl | ⟨entry, -, rfl⟩⟩ := connect_cases moved
    · exact moves_of_insert rfl (.other fun _ _ => by trivial) found
    · exact moves_of_insert rfl (.registering before) found
  | register c =>
    obtain ⟨source, d, key, service, stamp, -, rfl⟩ := register_cases moved
    exact moves_of_insert rfl (.other fun _ _ => by trivial) found
  | route c =>
    simp only [step, State.route] at moved
    split at moved
    · split at moved <;> cases moved
      · exact moves_of_insert rfl (.other fun _ _ => by trivial) found
      · exact moves_of_insert rfl (.other fun _ _ => by trivial) found
    · cases moved
  | deliver c => exact moves_deliver moved found
  | ioError c =>
    simp only [step, State.ioError] at moved
    split at moved
    · split at moved <;> cases moved <;>
        exact moves_of_insert rfl (.other fun _ _ => by trivial) found
    · cases moved
  | deadline c =>
    obtain ⟨source, phase, -, -, rfl⟩ := deadline_cases moved
    exact moves_of_insert rfl (.other fun _ _ => by trivial) found
  | endTask c stuck | takeDataChannel c | endPool c =>
    obtain ⟨x, y, -, -, rfl⟩ := onSession_cases moved
    exact .inl found
  | disconnect c now =>
    obtain ⟨x, stuck, runtime, -, -, -, rfl⟩ := disconnect_cases moved
    exact .inl found
  | reload e =>
    obtain ⟨-, ⟨⟩⟩ := Option.ite_none_right_eq_some.mp moved
    unfold State.handleHotReload at found
    split at found <;> exact .inl found
  | reloadServices =>
    obtain ⟨-, moved⟩ := Option.ite_none_right_eq_some.mp moved
    split at moved <;> cases moved <;> exact .inl found
  | reloadChannels =>
    obtain ⟨-, moved⟩ := Option.ite_none_right_eq_some.mp moved
    split at moved <;> cases moved <;> exact .inl found
  | shutdown =>
    obtain ⟨-, ⟨⟩⟩ := Option.ite_none_right_eq_some.mp moved
    exact .inl found

theorem Handshaken.moves {a : Action D} {c : Nat} {phase : Phase D}
    (handshaken : Handshaken digest start as s) (run : (system digest).Run Free start as s)
    (moves : Moves digest s a c phase) : phase.Sound digest start (as ++ [a]) c := by
  cases moves with
  | greeting => exact List.mem_append_right as (List.mem_singleton_self _)
  | lookup before => exact ⟨as, [], rfl, handshaken.phases c _ before⟩
  | @authenticating _ source d nonce service token before found held =>
    have greeted : Greeted as c d nonce := handshaken.phases c _ before
    exact ⟨nonce, token, ⟨as, [], s, rfl, greeted, run, found⟩, held, rfl⟩
  | @accepting _ source d concat service before =>
    obtain ⟨nonce, token, looked, held, rfl⟩ := handshaken.phases c _ before
    exact ⟨as, [], nonce, token, rfl, looked, held, rfl⟩
  | @registering _ now source d key service before =>
    have auth : Authenticated digest start as c d key service := handshaken.phases c _ before
    exact auth.later
  | other sound => exact sound start _

theorem Handshaken.step {a : Action D} (handshaken : Handshaken digest start as s)
    (run : (system digest).Run Free start as s) (moved : step digest s a = some t) :
    Handshaken digest start (as ++ [a]) t := by
  have effect := effect_of_step moved
  have keeps : ∀ key item, s.controlChannels.map2.lookup key = some item →
      Authenticated digest start (as ++ [a]) item.2.2.session item.1 key item.2.2.service ∧
        t.gone item.2.2.session := by
    intro key item held
    obtain ⟨auth, gone⟩ := handshaken.stored key item held
    exact ⟨auth.later, effect.gone _ gone⟩
  constructor
  · intro c conn found
    rcases moves_of_step moved found with before | moves
    · exact (handshaken.phases c conn before).later
    · exact handshaken.moves run moves
  · intro key item found
    have stays : t.controlChannels = s.controlChannels →
        Authenticated digest start (as ++ [a]) item.2.2.session item.1 key item.2.2.service ∧
          t.gone item.2.2.session := by
      intro channels
      exact keeps key item (channels ▸ found)
    cases effect with
    | @register c source d key' service stamp before free conns sessions channels readers =>
      rw [channels] at found
      rcases map2_registered found with ⟨rfl, rfl⟩ | ⟨held, -⟩
      · have auth : Authenticated digest start as c d key service := handshaken.phases c _ before
        exact ⟨auth.later, gone_insert_closed conns⟩
      · exact keeps key item held
    | reload free conns sessions channels readers =>
      rw [channels, MultiMap.lookup_map2_remove1, Option.filter_eq_some_iff] at found
      exact keeps key item found.1
    | still conns sessions channels readers => exact stays channels
    | enter conns sessions channels readers before plain labels => exact stays channels
    | close before live conns sessions channels readers => exact stays channels
    | connect before conns sessions channels readers => exact stays channels
    | route before held conns sessions channels readers => exact stays channels
    | deliver before held conns sessions channels readers => exact stays channels
    | session held service queue conns sessions channels readers => exact stays channels

theorem handshaken_of_run (initial : (system digest).init start)
    (run : (system digest).Run Free start as s) : Handshaken digest start as s := by
  refine run.history (fun _ _ _ _ before _ moved here => here.step before moved) ?_
  obtain ⟨config, entries, processId, now, -, -, rfl⟩ := initial
  constructor
  · intro c conn found
    cases found
  · intro key item found
    cases found

end Handshake

/-- Who stands behind a connection. A client knows its token. -/
inductive Party
  | client (name token : String)
  | adversary

/-- The server with the nonces it drew, and every digest that was on the wire. -/
structure Net (D : Type) [DecidableEq D] where
  server : State D
  drawn : List (Nat × List UInt8)
  wire : List D

inductive NetAction (D : Type)
  | server (a : Action D)
  /-- A live client answers a nonce it was sent, on whatever connection. -/
  | answer (token : String) (nonce : List UInt8)

def NetAction.server? : NetAction D → Option (Action D)
  | .server a => some a
  | .answer .. => none

def Action.draws : Action D → List (Nat × List UInt8)
  | .readControlHello c _ nonce => [(c, nonce)]
  | _ => []

/-- The digests a step reads from its peer. -/
def Action.sends : Action D → List D
  | .readControlHello _ d _ | .readAuth _ d | .readDataHello _ d => [d]
  | _ => []

def Net.step (digest : List UInt8 → D) (s : Net D) : NetAction D → Option (Net D)
  | .server a =>
    (Server.step digest s.server a).map fun t => ⟨t, s.drawn ++ a.draws, s.wire ++ a.sends⟩
  | .answer token nonce =>
    if nonce.length = hashWidthInBytes then
      some { s with wire := s.wire ++ [digest (asBytes token ++ nonce)] }
    else none

def net (digest : List UInt8 → D) : Transition.System (Net D) (NetAction D) where
  init s := (system digest).init s.server ∧ s.drawn = [] ∧ s.wire = []
  step := Net.step digest

/-- What the adversary can send: a digest it saw, or one whose preimages it all knows. -/
def Sendable (digest : List UInt8 → D) (known : Set (List UInt8)) (s : Net D) (d : D) : Prop :=
  d ∈ s.wire ∨ ∀ x, digest x = d → x ∈ known

/-- Nonces are pairwise distinct, clients follow the protocol on the connections they hold,
and the adversary sends what it can on the others. -/
def Obeys (digest : List UInt8 → D) (party : Nat → Party) (known : Set (List UInt8)) (s : Net D) :
    NetAction D → Prop
  | .server (.readControlHello c d nonce) => (∀ c', (c', nonce) ∉ s.drawn) ∧
    match party c with
    | .client name _ => asBytes name ∈ known ∧ d = digest (asBytes name)
    | .adversary => Sendable digest known s d
  | .server (.readAuth c d) =>
    match party c with
    | .client _ token => ∃ nonce, (c, nonce) ∈ s.drawn ∧ d = digest (asBytes token ++ nonce)
    | .adversary => Sendable digest known s d
  | .server (.readDataHello c key) =>
    match party c with
    | .client _ token => key ∈ s.wire ∧ ∃ nonce, key = digest (asBytes token ++ nonce)
    | .adversary => Sendable digest known s key
  | _ => True

/-- The adversary cannot compute the digest of the token and a nonce. -/
def Secret (known : Set (List UInt8)) (token : String) : Prop :=
  ∀ nonce, nonce.length = hashWidthInBytes → asBytes token ++ nonce ∉ known

section Adversary

variable {party : Nat → Party} {known : Set (List UInt8)} {start s t : Net D}
  {as : List (NetAction D)}

/-- Where a digest on the wire can come from. -/
def Derived (digest : List UInt8 → D) (party : Nat → Party) (known : Set (List UInt8))
    (as : List (NetAction D)) (s : Net D) (d : D) : Prop :=
  (∀ x, digest x = d → x ∈ known) ∨ ∃ token nonce, d = digest (asBytes token ++ nonce) ∧
    nonce.length = hashWidthInBytes ∧
    (.answer token nonce ∈ as ∨ ∃ c name, party c = .client name token ∧ (c, nonce) ∈ s.drawn)

structure NetSound (digest : List UInt8 → D) (party : Nat → Party) (known : Set (List UInt8))
    (as : List (NetAction D)) (s : Net D) : Prop where
  wire : ∀ d ∈ s.wire, Derived digest party known as s d
  length : ∀ c nonce, (c, nonce) ∈ s.drawn → nonce.length = hashWidthInBytes
  distinct : ∀ c c' nonce, (c, nonce) ∈ s.drawn → (c', nonce) ∈ s.drawn → c = c'
  draws : ∀ c d nonce, .server (.readControlHello c d nonce) ∈ as → (c, nonce) ∈ s.drawn
  sends : ∀ c d, .server (.readAuth c d) ∈ as → d ∈ s.wire

theorem Derived.later {a : NetAction D} {d : D} (derived : Derived digest party known as s d)
    (drawn : s.drawn ⊆ t.drawn) : Derived digest party known (as ++ [a]) t d := by
  rcases derived with computed | ⟨token, nonce, same, length, source⟩
  · exact .inl computed
  · refine .inr ⟨token, nonce, same, length, ?_⟩
    rcases source with answered | ⟨c, name, client, drew⟩
    · exact .inl (List.mem_append_left _ answered)
    · exact .inr ⟨c, name, client, drawn drew⟩

theorem NetSound.sendable {d : D} (sound : NetSound digest party known as s)
    (sendable : Sendable digest known s d) : Derived digest party known as s d := by
  rcases sendable with seen | computed
  · exact sound.wire d seen
  · exact .inl computed

/-- Whatever a peer sends is derived from what was there before. -/
theorem derived_of_sends (injective : Function.Injective digest) {a : Action D} {d : D}
    (sound : NetSound digest party known as s) (obeys : Obeys digest party known s (.server a))
    (sent : d ∈ a.sends) : Derived digest party known as s d := by
  cases a with
  | readControlHello c d' nonce =>
    cases List.mem_singleton.mp sent
    obtain ⟨-, obeys⟩ := obeys
    split at obeys
    · obtain ⟨computed, rfl⟩ := obeys
      left
      intro x same
      rwa [injective same]
    · exact sound.sendable obeys
  | readAuth c d' =>
    cases List.mem_singleton.mp sent
    simp only [Obeys] at obeys
    split at obeys
    · next name token client =>
      obtain ⟨nonce, drew, rfl⟩ := obeys
      exact .inr ⟨token, nonce, rfl, sound.length c nonce drew, .inr ⟨c, name, client, drew⟩⟩
    · exact sound.sendable obeys
  | readDataHello c d' =>
    cases List.mem_singleton.mp sent
    simp only [Obeys] at obeys
    split at obeys
    · exact sound.wire d obeys.1
    · exact sound.sendable obeys
  | _ => cases sent

omit [DecidableEq D] in
theorem mem_draws {a : Action D} {c : Nat} {nonce : List UInt8} (member : (c, nonce) ∈ a.draws) :
    ∃ d, a = .readControlHello c d nonce := by
  cases a with
  | readControlHello c' d nonce' =>
    cases List.mem_singleton.mp member
    exact ⟨d, rfl⟩
  | _ => cases member

theorem NetSound.server {a : Action D} {u : State D} (injective : Function.Injective digest)
    (sound : NetSound digest party known as s) (obeys : Obeys digest party known s (.server a))
    (moved : step digest s.server a = some u) :
    NetSound digest party known (as ++ [.server a])
      ⟨u, s.drawn ++ a.draws, s.wire ++ a.sends⟩ := by
  have drawn : s.drawn ⊆ s.drawn ++ a.draws := List.subset_append_left _ _
  have fresh : ∀ c nonce, (c, nonce) ∈ a.draws → ∀ c', (c', nonce) ∉ s.drawn := by
    intro c nonce member
    obtain ⟨d, rfl⟩ := mem_draws member
    exact obeys.1
  constructor
  · intro d member
    rcases List.mem_append.mp member with old | sent
    · exact (sound.wire d old).later drawn
    · exact (derived_of_sends injective sound obeys sent).later drawn
  · intro c nonce member
    rcases List.mem_append.mp member with old | new
    · exact sound.length c nonce old
    · obtain ⟨d, rfl⟩ := mem_draws new
      simp only [step, State.readControlHello] at moved
      split at moved
      · exact (Option.ite_none_right_eq_some.mp moved).1
      · cases moved
  · intro c c' nonce one two
    rcases List.mem_append.mp one with old | new <;> rcases List.mem_append.mp two with old' | new'
    · exact sound.distinct c c' nonce old old'
    · exact absurd old (fresh c' nonce new' c)
    · exact absurd old' (fresh c nonce new c')
    · obtain ⟨d, rfl⟩ := mem_draws new
      cases List.mem_singleton.mp new'
      rfl
  · intro c d nonce member
    rcases List.mem_append.mp member with old | new
    · exact List.mem_append_left _ (sound.draws c d nonce old)
    · cases List.mem_singleton.mp new
      exact List.mem_append_right _ (List.mem_singleton_self _)
  · intro c d member
    rcases List.mem_append.mp member with old | new
    · exact List.mem_append_left _ (sound.sends c d old)
    · cases List.mem_singleton.mp new
      exact List.mem_append_right _ (List.mem_singleton_self _)

theorem NetSound.answer {token : String} {nonce : List UInt8}
    (sound : NetSound digest party known as s) (full : nonce.length = hashWidthInBytes) :
    NetSound digest party known (as ++ [.answer token nonce])
      { s with wire := s.wire ++ [digest (asBytes token ++ nonce)] } := by
  have answered : .answer token nonce ∈ as ++ [(.answer token nonce : NetAction D)] :=
    List.mem_append_right _ (List.mem_singleton_self _)
  constructor
  · intro d member
    rcases List.mem_append.mp member with old | new
    · exact (sound.wire d old).later (List.Subset.refl _)
    · exact .inr ⟨token, nonce, List.mem_singleton.mp new, full, .inl answered⟩
  · exact sound.length
  · exact sound.distinct
  · intro c d nonce' member
    rcases List.mem_append.mp member with old | new
    · exact sound.draws c d nonce' old
    · cases List.mem_singleton.mp new
  · intro c d member
    rcases List.mem_append.mp member with old | new
    · exact List.mem_append_left _ (sound.sends c d old)
    · cases List.mem_singleton.mp new

theorem NetSound.step {a : NetAction D} (injective : Function.Injective digest)
    (sound : NetSound digest party known as s) (obeys : Obeys digest party known s a)
    (moved : (net digest).step s a = some t) : NetSound digest party known (as ++ [a]) t := by
  cases a with
  | server a =>
    obtain ⟨u, stepped, rfl⟩ := Option.map_eq_some_iff.mp moved
    exact sound.server injective obeys stepped
  | answer token nonce =>
    obtain ⟨full, ⟨⟩⟩ := Option.ite_none_right_eq_some.mp moved
    exact sound.answer full

theorem netSound_of_run (injective : Function.Injective digest) (initial : (net digest).init start)
    (run : (net digest).Run (Obeys digest party known) start as s) :
    NetSound digest party known as s := by
  refine run.history (fun _ _ _ _ _ obeys moved sound => sound.step injective obeys moved) ?_
  obtain ⟨-, drawn, wire⟩ := initial
  constructor
  · intro d member
    rw [wire] at member
    cases member
  · intro c nonce member
    rw [drawn] at member
    cases member
  · intro c c' nonce member
    rw [drawn] at member
    cases member
  · intro c d nonce member
    cases member
  · intro c d member
    cases member

theorem server_run {ok : Net D → NetAction D → Prop} (run : (net digest).Run ok start as s) :
    (system digest).Run Free start.server (as.filterMap NetAction.server?) s.server := by
  induction run with
  | nil => exact .nil _
  | @cons s t u a as allowed moved rest ih =>
    cases a with
    | server a =>
      obtain ⟨v, stepped, rfl⟩ := Option.map_eq_some_iff.mp moved
      exact .cons trivial stepped ih
    | answer token nonce =>
      obtain ⟨-, ⟨⟩⟩ := Option.ite_none_right_eq_some.mp moved
      exact ih

omit [DecidableEq D] in
theorem mem_server {a : Action D} (member : a ∈ as.filterMap NetAction.server?) :
    .server a ∈ as := by
  obtain ⟨b, listed, same⟩ := List.mem_filterMap.mp member
  cases b with
  | server b =>
    cases same
    exact listed
  | answer token nonce => cases same

/-- The handshake of a connection, with the nonce that was drawn for it. -/
theorem nonce_of_authenticated {c : Nat} {d key : D} {service : ServerServiceConfig}
    (sound : NetSound digest party known as s)
    (auth : Authenticated digest start.server (as.filterMap NetAction.server?) c d key service) :
    ∃ nonce token, (c, nonce) ∈ s.drawn ∧ service.token = some token ∧ key ∈ s.wire ∧
      key = digest (asBytes token ++ nonce) := by
  obtain ⟨before, after, nonce, token, split, looked, held, same⟩ := auth
  obtain ⟨before', after', u, rfl, ⟨before'', after'', rfl, drew⟩, -⟩ := looked
  refine ⟨nonce, token, sound.draws c d nonce (mem_server ?_), held,
    sound.sends c key (mem_server ?_), same⟩
  · rw [split]
    exact List.mem_append_left _ (List.mem_append_left _ (List.mem_append_left _ drew))
  · rw [split]
    exact List.mem_append_right _ List.mem_cons_self

omit [DecidableEq D] in
/-- The digest of a token and a nonce has no other origin. -/
theorem token_nonce_inj (injective : Function.Injective digest) {token token' : String}
    {nonce nonce' : List UInt8} (length : nonce.length = nonce'.length)
    (same : digest (asBytes token ++ nonce) = digest (asBytes token' ++ nonce')) :
    token = token' ∧ nonce = nonce' := by
  obtain ⟨tokens, nonces⟩ := List.append_inj' (injective same) length
  exact ⟨asBytes_injective tokens, nonces⟩

/-- A handle registered for the adversary answers a nonce that a live client answered. -/
theorem answered_of_registered (injective : Function.Injective digest)
    (initial : (net digest).init start)
    (run : (net digest).Run (Obeys digest party known) start as s) {d key : D} {handle : Handle}
    {token : String}
    (held : s.server.controlChannels.map1.lookup d = some (d, key, handle))
    (given : handle.service.token = some token) (foe : party handle.session = .adversary)
    (secret : Secret known token) :
    ∃ nonce, (handle.session, nonce) ∈ s.drawn ∧ .answer token nonce ∈ as := by
  have sound := netSound_of_run injective initial run
  have handshaken := handshaken_of_run initial.1 (server_run run)
  obtain ⟨auth, -⟩ := handshaken.stored key _ (s.server.controlChannels.indexed1 d _ held).2
  obtain ⟨nonce, token', drew, given', seen, rfl⟩ := nonce_of_authenticated sound auth
  cases given.symm.trans given'
  have length := sound.length _ nonce drew
  refine ⟨nonce, drew, ?_⟩
  rcases sound.wire _ seen with computed | ⟨token'', nonce'', same, length', source⟩
  · exact absurd (computed _ rfl) (secret nonce length)
  · obtain ⟨rfl, rfl⟩ := token_nonce_inj injective (length.trans length'.symm) same
    rcases source with answered | ⟨c, name, client, drew'⟩
    · exact answered
    · cases sound.distinct c _ nonce drew' drew
      rw [foe] at client
      cases client

/-- With distinct nonces the new handle always finds its key free. -/
theorem registered_of_distinct (injective : Function.Injective digest)
    (initial : (net digest).init start)
    (run : (net digest).Run (Obeys digest party known) start as s) {c : Nat} {p : Pending D}
    {u : State D} (moved : s.server.register c = some u) (pending : s.server.pending c = some p) :
    u.controlChannels.get1 p.digest = some ⟨c, p.service⟩ := by
  have sound := netSound_of_run injective initial run
  have handshaken := handshaken_of_run initial.1 (server_run run)
  obtain ⟨source, d, key, service, stamp, found, rfl⟩ := register_cases moved
  cases (pending_of_lookup found).symm.trans pending
  have own : Authenticated digest start.server (as.filterMap NetAction.server?) c d key service :=
    handshaken.phases c _ found
  obtain ⟨nonce, token, drew, -, -, same⟩ := nonce_of_authenticated sound own
  have free : ∀ item, s.server.controlChannels.map2.lookup key = some item → item.1 = d := by
    intro item held
    obtain ⟨other, gone⟩ := handshaken.stored key item held
    obtain ⟨nonce', token', drew', -, -, same'⟩ := nonce_of_authenticated sound other
    have length := (sound.length _ _ drew).trans (sound.length _ _ drew').symm
    obtain ⟨rfl, rfl⟩ := token_nonce_inj injective length (same.symm.trans same')
    have here := sound.distinct _ _ nonce drew' drew
    exact absurd (here ▸ gone) (not_gone_of_pending pending)
  obtain ⟨channels, inserted, lookup⟩ := MultiMap.insert_ok (⟨c, service⟩ : Handle)
    (by rw [MultiMap.get1_remove1, if_pos rfl]) (MultiMap.get2_remove1_of_free free)
  simp only [inserted, Except.toOption, Option.getD_some, lookup, if_pos]

/-- What the map of control channels holds was authenticated: by its own connection, in any
run, and not by an adversary without the token, unless a live client answers the nonce it
got. A new handle takes the place of the one its service had, and of no other. -/
theorem authentication_sound (digest : List UInt8 → D) :
    (∀ start s as, (system digest).init start → (system digest).Run Free start as s →
      (∀ d key handle, s.controlChannels.map1.lookup d = some (d, key, handle) →
        Authenticated digest start as handle.session d key handle.service) ∧
      (∀ d key key' handle handle', s.controlChannels.map2.lookup key = some (d, key, handle) →
        s.controlChannels.map2.lookup key' = some (d, key', handle') →
        key = key' ∧ handle = handle') ∧
      ∀ c p t, s.register c = some t → s.pending c = some p →
        ∀ d handle, t.controlChannels.get1 d = some handle →
          d = p.digest ∧ handle = ⟨c, p.service⟩ ∨
            d ≠ p.digest ∧ s.controlChannels.get1 d = some handle) ∧
    (Function.Injective digest → ∀ party known start s as, (net digest).init start →
      (net digest).Run (Obeys digest party known) start as s →
      (∀ d key handle token, s.server.controlChannels.map1.lookup d = some (d, key, handle) →
        handle.service.token = some token → party handle.session = .adversary →
        Secret known token →
        ∃ nonce, (handle.session, nonce) ∈ s.drawn ∧ .answer token nonce ∈ as) ∧
      ∀ c p t, s.server.register c = some t → s.server.pending c = some p →
        t.controlChannels.get1 p.digest = some ⟨c, p.service⟩) := by
  constructor
  · intro start s as initial run
    refine ⟨?_, ?_, ?_⟩
    · intro d key handle held
      have linked := (s.controlChannels.indexed1 d _ held).2
      exact ((handshaken_of_run initial run).stored key _ linked).1
    · intro d key key' handle handle' one two
      have first := (s.controlChannels.indexed2 key _ one).2
      have second := (s.controlChannels.indexed2 key' _ two).2
      cases first.symm.trans second
      exact ⟨rfl, rfl⟩
    · intro c p t moved pending d handle held
      obtain ⟨source, d', key, service, stamp, found, rfl⟩ := register_cases moved
      cases (pending_of_lookup found).symm.trans pending
      exact get1_registered held
  · intro injective party known start s as initial run
    constructor
    · intro d key handle token held given foe secret
      exact answered_of_registered injective initial run held given foe secret
    · intro c p t moved pending
      exact registered_of_distinct injective initial run moved pending

/-- Connection 0 belongs to a client of the service `web`, connection 1 to the adversary. -/
def webParty : Nat → Party
  | 0 => .client "web" "old"
  | _ => .adversary

def webNet : Net (List UInt8) := ⟨webServer "old", [], []⟩

/-- `Obeys`, where the adversary knows the name of the service only, as a check. -/
def obeys (s : Net (List UInt8)) : NetAction (List UInt8) → Bool
  | .server (.readControlHello _ d nonce) =>
    s.drawn.all (fun drew => drew.2 != nonce) && d == asBytes "web"
  | .server (.readAuth 0 d) => s.drawn.any fun drew => drew.1 == 0 && d == webKey drew.2
  | .server (.readAuth _ d) => s.wire.contains d
  | .server (.readDataHello ..) => false
  | _ => true

theorem webParty_cases (c : Nat) : c = 0 ∧ webParty c = .client "web" "old" ∨
    c ≠ 0 ∧ webParty c = .adversary := by
  cases c with
  | zero => exact .inl ⟨rfl, rfl⟩
  | succ n => exact .inr ⟨Nat.succ_ne_zero n, rfl⟩

theorem obeys_of_check (s : Net (List UInt8)) (a : NetAction (List UInt8))
    (passed : obeys s a = true) : Obeys id webParty (fun x => x = asBytes "web") s a := by
  cases a with
  | answer token nonce => trivial
  | server a =>
    cases a with
    | readControlHello c d nonce =>
      simp only [obeys, Bool.and_eq_true, List.all_eq_true, bne_iff_ne, beq_iff_eq] at passed
      obtain ⟨fresh, rfl⟩ := passed
      refine ⟨fun c' member => fresh _ member rfl, ?_⟩
      rcases webParty_cases c with ⟨-, same⟩ | ⟨-, same⟩
      · rw [same]
        exact ⟨rfl, rfl⟩
      · rw [same]
        exact .inr fun x same => same
    | readAuth c d =>
      rcases webParty_cases c with ⟨rfl, same⟩ | ⟨other, same⟩
      · simp only [obeys, List.any_eq_true, Bool.and_eq_true, beq_iff_eq] at passed
        obtain ⟨⟨c', nonce⟩, drew, rfl, rfl⟩ := passed
        simp only [Obeys, same]
        exact ⟨nonce, drew, rfl⟩
      · obtain ⟨n, rfl⟩ := Nat.exists_eq_succ_of_ne_zero other
        simp only [Obeys, same]
        exact .inl (List.contains_iff_mem.mp passed)
    | readDataHello c key => cases passed
    | _ => trivial

/-- The adversary relays the answer of a live client, and only so gets a handle. -/
theorem authentication_sound_relayed : ∃ as s, (net id).Run
    (Obeys id webParty fun x => x = asBytes "web") webNet as s ∧
    s.server.controlChannels.map1.lookup (asBytes "web") =
      some (asBytes "web", webKey oneNonce, ⟨1, webService "old"⟩) ∧
    Authenticated id webNet.server (as.filterMap NetAction.server?) 1 (asBytes "web")
      (webKey oneNonce) (webService "old") ∧
    ∃ nonce, (1, nonce) ∈ s.drawn ∧ .answer "old" nonce ∈ as := by
  have executed : ((net id).exec obeys webNet ((webHandshake 0 zeroNonce).map .server ++
      [.answer "old" oneNonce] ++ (webHandshake 1 oneNonce).map .server)).any
      (fun s => s.server.controlChannels.map1.lookup (asBytes "web") =
        some (asBytes "web", webKey oneNonce, ⟨1, webService "old"⟩)) = true := by
    decide +kernel
  obtain ⟨s, done, held⟩ := (Option.any_eq_true _ _).mp executed
  have held := of_decide_eq_true held
  have run := Transition.System.run_of_exec obeys_of_check done
  have secret : Secret (fun x => x = asBytes "web") "old" := by
    intro nonce length known
    have lengths := congrArg List.length (show asBytes "old" ++ nonce = asBytes "web" from known)
    rw [List.length_append, length] at lengths
    revert lengths
    decide
  have initial : (net id).init webNet := ⟨webServer_init "old", rfl, rfl⟩
  obtain ⟨any, foes⟩ := authentication_sound (D := List UInt8) id
  refine ⟨_, s, run, held, ?_, ?_⟩
  · exact (any _ _ _ initial.1 (server_run run)).1 _ _ _ held
  · exact (foes Function.injective_id _ _ _ _ _ initial run).1 _ _ _ _ held rfl rfl secret

end Adversary

end Rathole.Server
