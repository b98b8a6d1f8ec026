import Rathole.ClientShutdown
import Rathole.ServerAuth

set_option autoImplicit false

/- A client together with the server that its control channels connect to, and what a task whose
handle is gone still brings about there. -/
namespace Rathole.Joint

open Client (Task TaskAction descends_of_step bounded_of_reach)

variable {D : Type} [DecidableEq D]

section Definitions

/-- A connection that a session has opened: whether the server has accepted it, and what has been
begun to be written on it. -/
structure Link where
  accepted : Bool
  hello : Bool
  greeting : Bool
  auth : Bool
  ack : Bool
  deriving DecidableEq

def Link.opened : Link := ⟨false, false, false, false, false⟩

/-- The links go by the task and the number of its session. `conns` has the sessions behind the
connections of the server; whose connections the others are is left open. -/
structure State (D : Type) [DecidableEq D] where
  client : Client.State
  server : Server.State D
  links : HashMap (Nat × Nat) Link
  conns : HashMap Nat (Nat × Nat)

inductive Action (D : Type)
  | client (a : Client.Action)
  | server (a : Server.Action D)
  | accept (c : Nat) (source : SocketAddr) (i k : Nat)

/-- A step of a task on the link of its session. What it reads has been begun to be written. -/
def wire (links : HashMap (Nat × Nat) Link) (key : Nat × Nat) :
    TaskAction → Option (HashMap (Nat × Nat) Link)
  | .connect _ => some (links.insert key .opened)
  | .sendHello => some (HashMap.modify links key fun link => { link with hello := true })
  | .readHello =>
    if (links.lookup key).any Link.greeting then
      some (HashMap.modify links key fun link => { link with auth := true })
    else none
  | .readAck _ => if (links.lookup key).any Link.ack then some links else none
  | _ => some links

namespace State

variable (s : State D)

def wires : Client.Action → Option (HashMap (Nat × Nat) Link)
  | .task i a => (s.client.tasks.lookup i).bind fun x => wire s.links (i, x.session) a
  | _ => some s.links

def heard (c : Nat) (said : Link → Bool) : Bool :=
  match s.conns.lookup c with
  | some key => (s.links.lookup key).any said
  | none => true

/-- The server reads from a session what the session writes. Other connections get other numbers. -/
def hears : Server.Action D → Bool
  | .accept c _ => (s.conns.lookup c).isNone
  | .readControlHello c _ _ => s.heard c Link.hello
  | .readDataHello c _ => (s.conns.lookup c).isNone
  | .readAuth c _ => s.heard c Link.auth
  | _ => true

def mark (c : Nat) (f : Link → Link) : HashMap (Nat × Nat) Link :=
  match s.conns.lookup c with
  | some key => HashMap.modify s.links key f
  | none => s.links

end State

/-- The auth was right: the control channel is, or will be, registered. -/
def admitted : Server.Phase D → Bool
  | .accepting .. | .registering .. => true
  | _ => false

/-- The links once the server has got to `server`. -/
def State.answered (s : State D) (server : Server.State D) :
    Server.Action D → HashMap (Nat × Nat) Link
  | .readControlHello c _ _ => s.mark c fun link => { link with greeting := true }
  | .readAuth c _ =>
    if (server.conns.lookup c).any fun conn => admitted conn.phase then
      s.mark c fun link => { link with ack := true }
    else s.links
  | _ => s.links

section Step

variable (digest : List UInt8 → D)

def step (s : State D) : Action D → Option (State D)
  | .client a => do
    let client ← Client.step s.client a
    let links ← s.wires a
    some { s with client := client, links := links }
  | .server a =>
    if s.hears a then
      (Server.step digest s.server a).map fun server =>
        { s with server := server, links := s.answered server a }
    else none
  | .accept c source i k =>
    if (s.links.lookup (i, k)).any fun link => !link.accepted then
      (s.server.accept c source).map fun server =>
        { s with
          server := server
          links := HashMap.modify s.links (i, k) fun link => { link with accepted := true }
          conns := s.conns.insert c (i, k) }
    else none

def system : Transition.System (State D) (Action D) where
  init s := Client.system.init s.client ∧ (Server.system digest).init s.server ∧
    s.links = ∅ ∧ s.conns = ∅
  step := step digest

end Step

/-- A task whose handle was dropped or shut down opens no connection, sends no auth, serves no
visitor, and none of its sessions is registered on the server, where it would supersede another
control channel. -/
def NeverBack (s : State D) : Prop :=
  ∀ i x, s.client.tasks.lookup i = some x → x.shutdown ≠ .held →
    (∀ a : TaskAction, a.returns = true → x.step a = none) ∧
      ∀ c k, s.conns.lookup c = some (i, k) →
        (∀ now, s.server.connect c now = none) ∧ s.server.register c = none

/-- The server has dealt with every auth on the connection: it refused it, or has registered the
control channel. -/
def settled : Server.Phase D → Bool
  | .hello | .greeting .. | .lookup .. | .authenticating .. | .accepting .. | .registering .. =>
    false
  | _ => true

/-- The server has dealt with every auth that the task has begun to write. -/
def Answered (s : State D) (i : Nat) : Prop :=
  ∀ c k conn, s.conns.lookup c = some (i, k) → s.server.conns.lookup c = some conn →
    (s.links.lookup (i, k)).any Link.auth = true → settled conn.phase = true

/-- A handle is given up only when its task is spent and its auths are dealt with. -/
def ReleasesAnswered (s : State D) : Action D → Prop
  | .client a => ∀ i tx x, s.client.releases a = some (i, tx) →
      s.client.tasks.lookup i = some x → x.Spent ∧ Answered s i
  | _ => True

end Definitions

variable {digest : List UInt8 → D} {s t : State D}

section Server

variable {u v : Server.State D}

/-- Where a connection comes from that the server has not dealt with. -/
def Unsettled (u : Server.State D) (a : Server.Action D) (c : Nat) (phase : Server.Phase D) :
    Prop :=
  (∃ source, a = .accept c source ∧ u.conns.lookup c = none ∧ admitted phase = false) ∨
    ∃ conn, u.conns.lookup c = some conn ∧ settled conn.phase = false ∧
      (admitted phase = true → admitted conn.phase = true ∨ ∃ d, a = .readAuth c d)

theorem Unsettled.of_insert {a : Server.Action D} {c c' : Nat} {source : SocketAddr}
    {next : Server.Phase D} {conn : Server.Conn D}
    (conns : v.conns = u.conns.insert c ⟨source, next⟩)
    (moves : settled next = false → Unsettled u a c next)
    (found : v.conns.lookup c' = some conn) (open_ : settled conn.phase = false) :
    Unsettled u a c' conn.phase := by
  rw [conns, lookup_insert_eq] at found
  split at found
  · next here =>
    cases found
    exact here ▸ moves open_
  · exact .inr ⟨conn, found, open_, .inl⟩

theorem Unsettled.of_settled {a : Server.Action D} {c c' : Nat} {source : SocketAddr}
    {next : Server.Phase D} {conn : Server.Conn D}
    (conns : v.conns = u.conns.insert c ⟨source, next⟩) (ended : settled next = true)
    (found : v.conns.lookup c' = some conn) (open_ : settled conn.phase = false) :
    Unsettled u a c' conn.phase :=
  .of_insert conns (fun still => by cases ended.symm.trans still) found open_

theorem unsettled_lookup {c c' : Nat} {conn : Server.Conn D} (moved : u.lookup c' = some v)
    (found : v.conns.lookup c = some conn) (open_ : settled conn.phase = false) :
    Unsettled u (.lookup c') c conn.phase := by
  unfold Server.State.lookup at moved
  split at moved
  · next source d nonce before =>
    split at moved
    · cases moved
    · split at moved
      · cases moved
        exact .of_settled rfl rfl found open_
      · split at moved
        · cases moved
          exact .of_settled rfl rfl found open_
        · cases moved
          exact .of_insert rfl (fun _ => .inr ⟨_, before, rfl, fun right => by cases right⟩) found
            open_
  · cases moved

/-- Only a digest that matches lets a connection in. -/
theorem unsettled_readAuth {c c' : Nat} {d : D} {conn : Server.Conn D}
    (moved : u.readAuth digest c' d = some v) (found : v.conns.lookup c = some conn)
    (open_ : settled conn.phase = false) : Unsettled u (.readAuth c' d) c conn.phase := by
  unfold Server.State.readAuth at moved
  split at moved
  · next source service_digest concat service before =>
    dsimp only at moved
    split at moved <;> cases moved
    · exact .of_insert rfl (fun _ => .inr ⟨_, before, rfl, fun _ => .inr ⟨d, rfl⟩⟩) found open_
    · exact .of_settled rfl rfl found open_
  · cases moved

theorem unsettled_deliver {c c' : Nat} {conn : Server.Conn D} (moved : u.deliver c' = some v)
    (found : v.conns.lookup c = some conn) (open_ : settled conn.phase = false) :
    Unsettled u (.deliver c') c conn.phase := by
  unfold Server.State.deliver at moved
  split at moved
  · split at moved
    · cases moved
    · split at moved
      · obtain ⟨-, ⟨⟩⟩ := Option.ite_none_right_eq_some.mp moved
        exact .of_settled rfl rfl found open_
      · cases moved
        exact .of_settled rfl rfl found open_
  · cases moved

theorem unsettled_of_step {a : Server.Action D} {c : Nat} {conn : Server.Conn D}
    (moved : Server.step digest u a = some v) (found : v.conns.lookup c = some conn)
    (open_ : settled conn.phase = false) : Unsettled u a c conn.phase := by
  cases a with
  | accept c' source =>
    obtain ⟨⟨-, -, absent⟩, ⟨⟩⟩ := Option.ite_none_right_eq_some.mp moved
    exact .of_insert rfl (fun _ => .inl ⟨source, rfl, absent, rfl⟩) found open_
  | readControlHello c' d nonce =>
    simp only [Server.step, Server.State.readControlHello] at moved
    split at moved
    · next source before =>
      obtain ⟨-, ⟨⟩⟩ := Option.ite_none_right_eq_some.mp moved
      exact .of_insert rfl (fun _ => .inr ⟨_, before, rfl, fun right => by cases right⟩) found open_
    · cases moved
  | readDataHello c' key =>
    simp only [Server.step, Server.State.readDataHello] at moved
    split at moved <;> cases moved
    exact .of_settled rfl rfl found open_
  | greet c' =>
    simp only [Server.step, Server.State.greet] at moved
    split at moved
    · next source d nonce before =>
      cases moved
      exact .of_insert rfl (fun _ => .inr ⟨_, before, rfl, fun right => by cases right⟩) found open_
    · cases moved
  | lookup c' => exact unsettled_lookup moved found open_
  | readAuth c' d => exact unsettled_readAuth moved found open_
  | connect c' now =>
    obtain ⟨source, d, key, service, before, rfl | ⟨entry, -, rfl⟩⟩ := Server.connect_cases moved
    · exact .of_settled rfl rfl found open_
    · exact .of_insert rfl (fun _ => .inr ⟨_, before, rfl, fun _ => .inl rfl⟩) found open_
  | register c' =>
    obtain ⟨source, d, key, service, stamp, -, rfl⟩ := Server.register_cases moved
    exact .of_settled rfl rfl found open_
  | route c' =>
    simp only [Server.step, Server.State.route] at moved
    split at moved
    · split at moved <;> cases moved <;>
        exact .of_settled rfl rfl found open_
    · cases moved
  | deliver c' => exact unsettled_deliver moved found open_
  | ioError c' =>
    simp only [Server.step, Server.State.ioError] at moved
    split at moved
    · split at moved <;> cases moved <;>
        exact .of_settled rfl rfl found open_
    · cases moved
  | deadline c' =>
    obtain ⟨source, phase, -, -, rfl⟩ := Server.deadline_cases moved
    exact .of_settled rfl rfl found open_
  | endTask c' stuck | takeDataChannel c' | endPool c' =>
    obtain ⟨x, y, -, -, rfl⟩ := Server.onSession_cases moved
    exact .inr ⟨conn, found, open_, .inl⟩
  | disconnect c' now =>
    obtain ⟨x, stuck, runtime, -, -, -, rfl⟩ := Server.disconnect_cases moved
    exact .inr ⟨conn, found, open_, .inl⟩
  | reload e =>
    obtain ⟨-, ⟨⟩⟩ := Option.ite_none_right_eq_some.mp moved
    unfold Server.State.handleHotReload at found
    split at found <;> exact .inr ⟨conn, found, open_, .inl⟩
  | reloadServices =>
    obtain ⟨-, moved⟩ := Option.ite_none_right_eq_some.mp moved
    split at moved <;> cases moved <;> exact .inr ⟨conn, found, open_, .inl⟩
  | reloadChannels =>
    obtain ⟨-, moved⟩ := Option.ite_none_right_eq_some.mp moved
    split at moved <;> cases moved <;> exact .inr ⟨conn, found, open_, .inl⟩
  | shutdown =>
    obtain ⟨-, ⟨⟩⟩ := Option.ite_none_right_eq_some.mp moved
    exact .inr ⟨conn, found, open_, .inl⟩

omit [DecidableEq D] in
theorem open_of_admitted {phase : Server.Phase D} (right : admitted phase = true) :
    settled phase = false := by
  cases phase <;> first | rfl | cases right

end Server

section Tasks

variable {u v : Client.State} {i : Nat} {x y : Task}

theorem session_release (x : Task) (tx : Client.ShutdownTx) :
    (x.release tx).session = x.session := by
  unfold Task.release
  split <;> rfl

/-- A new session starts to resolve; no other step does. -/
theorem session_step {b : TaskAction} (moved : x.step b = some y) :
    (y.session = x.session ∧ (y.phase = .resolving → x.phase = .resolving)) ∨
      y.session = x.session + 1 := by
  cases b with
  | run =>
    obtain ⟨-, ⟨⟩⟩ := Option.ite_none_right_eq_some.mp moved
    exact .inr rfl
  | connect _ | sendHello | helloSent | sendAuth | stop =>
    obtain ⟨-, rfl⟩ := Client.advance_cases moved
    exact .inl ⟨rfl, fun here => by cases here⟩
  | readHello =>
    obtain ⟨-, rfl⟩ := Client.advance_cases moved
    refine .inl ⟨rfl, fun here => ?_⟩
    dsimp only at here
    split at here <;> cases here
  | readAck now =>
    obtain ⟨-, ⟨⟩⟩ := Option.ite_none_right_eq_some.mp moved
    exact .inl ⟨rfl, fun here => by cases here⟩
  | createDataChannel d =>
    obtain ⟨-, ⟨⟩⟩ := Option.ite_none_right_eq_some.mp moved
    exact .inl ⟨rfl, id⟩
  | shutdownReceived =>
    obtain ⟨-, moved⟩ := Option.ite_none_right_eq_some.mp moved
    obtain ⟨-, rfl⟩ := Client.advance_cases moved
    exact .inl ⟨rfl, fun here => by cases here⟩
  | checkShutdown now =>
    simp only [Task.step, Task.checkShutdown] at moved
    split at moved <;> cases moved
    refine .inl ⟨rfl, fun here => ?_⟩
    dsimp only at here
    split at here <;> cases here
  | fail | rebuild =>
    simp only [Task.step, Task.fail, Task.rebuild] at moved
    split at moved <;> cases moved <;> exact .inl ⟨rfl, fun here => by cases here⟩
  | dataChannelFailed d | signal d | dataChannelReady d =>
    simp only [Task.step, Task.dataChannelFailed, Task.signal, Task.dataChannelReady] at moved
    split at moved
    · cases moved
      exact .inl ⟨rfl, id⟩
    · cases moved

theorem lookup_of_release (name : String) (tx : Client.ShutdownTx)
    (found : u.tasks.lookup i = some x) :
    ∃ y, (u.release name tx).tasks.lookup i = some y ∧ (y = x ∨ ∃ tx, y = x.release tx) := by
  rw [Client.lookup_release]
  split
  · exact ⟨_, by rw [found]; rfl, .inr ⟨tx, rfl⟩⟩
  · exact ⟨x, found, .inl rfl⟩

/-- What becomes of a task in a step of the client. -/
theorem task_of_step {a : Client.Action} (bounded : Client.Bounded u)
    (moved : Client.step u a = some v) (found : u.tasks.lookup i = some x) :
    ∃ y, v.tasks.lookup i = some y ∧ ((∃ b, a = .task i b ∧ x.step b = some y) ∨
      (∀ b, a ≠ .task i b) ∧ (y = x ∨ ∃ tx, y = x.release tx)) := by
  have below : i ≠ u.count := (bounded.tasks i x found).ne
  cases a with
  | createNext =>
    obtain ⟨name, service, rest, w, -, made, rfl⟩ := Client.createNext_cases moved
    cases Client.newHandle_cases made
    obtain ⟨y, there, same⟩ := lookup_of_release (i := i) (x := x) name .dropped
      (u := { u with
        loop := .starting rest
        tasks := u.tasks.insert u.count (.new service)
        count := u.count + 1 }) (by rw [lookup_insert_eq, if_neg below, found])
    exact ⟨y, there, .inr ⟨nofun, same⟩⟩
  | created | shutdown | drained =>
    obtain ⟨-, ⟨⟩⟩ := Option.ite_none_right_eq_some.mp moved
    exact ⟨x, found, .inr ⟨nofun, .inl rfl⟩⟩
  | event e =>
    obtain ⟨-, rfl | ⟨cfg, -, rfl⟩ | ⟨name, -, rfl⟩⟩ := Client.event_cases moved <;>
      exact ⟨x, found, .inr ⟨nofun, .inl rfl⟩⟩
  | spawn =>
    obtain ⟨cfg, -, made⟩ := Client.spawn_cases moved
    cases Client.newHandle_cases made
    exact ⟨x, by rw [lookup_insert_eq, if_neg below, found], .inr ⟨nofun, .inl rfl⟩⟩
  | install =>
    obtain ⟨name, j, -, rfl⟩ := Client.install_cases moved
    obtain ⟨y, there, same⟩ := lookup_of_release name .dropped found
    exact ⟨y, there, .inr ⟨nofun, same⟩⟩
  | dropHandle =>
    obtain ⟨name, -, rfl⟩ := Client.dropHandle_cases moved
    obtain ⟨y, there, same⟩ := lookup_of_release name .dropped found
    exact ⟨y, there, .inr ⟨nofun, same⟩⟩
  | drain name =>
    obtain ⟨-, ⟨⟩⟩ := Option.ite_none_right_eq_some.mp moved
    obtain ⟨y, there, same⟩ := lookup_of_release name .sent found
    exact ⟨y, there, .inr ⟨nofun, same⟩⟩
  | task j b =>
    obtain ⟨z, y, held, stepped, ⟨-, rfl⟩ | ⟨call, runtime, -, -, rfl⟩⟩ :=
      Client.task_cases moved <;>
    · by_cases own : i = j
      · subst own
        cases found.symm.trans held
        exact ⟨y, by rw [lookup_insert_eq, if_pos rfl], .inl ⟨b, rfl, stepped⟩⟩
      · refine ⟨x, by rw [lookup_insert_eq, if_neg own, found], .inr ⟨fun c same => ?_, .inl rfl⟩⟩
        cases same
        exact own rfl

end Tasks

section Links

variable {links links' : HashMap (Nat × Nat) Link} {key k : Nat × Nat}

/-- What the two sides have begun to write does not become less, and an auth follows a greeting. -/
structure Link.Grows (link next : Link) (authSent greetingSent : Prop) : Prop where
  accepted : link.accepted = true → next.accepted = true
  auth : link.auth = true → next.auth = true
  author : next.auth = true → link.auth = true ∨ authSent ∧ link.greeting = true
  greeter : next.greeting = true → link.greeting = true ∨ greetingSent

theorem Link.Grows.refl (link : Link) (authSent greetingSent : Prop) :
    link.Grows link authSent greetingSent :=
  ⟨id, id, .inl, .inl⟩

theorem lookup_modify {f : Link → Link} {authSent greetingSent : Prop} {link : Link}
    (grows : links.lookup key = some link → link.Grows (f link) authSent greetingSent)
    (found : links.lookup k = some link) : ∃ next,
      (HashMap.modify links key f).lookup k = some next ∧
        (next = link ∨ k = key ∧ link.Grows next authSent greetingSent) := by
  rw [lookup_modify_eq]
  by_cases own : k = key
  · subst own
    exact ⟨f link, by rw [if_pos rfl, found]; rfl, .inr ⟨rfl, grows found⟩⟩
  · exact ⟨link, by rw [if_neg own, found], .inl rfl⟩

theorem lookup_modify_none {f : Link → Link} (none_ : links.lookup k = none) :
    (HashMap.modify links key f).lookup k = none := by
  rw [lookup_modify_eq]
  split
  · next own => rw [← own, none_]; rfl
  · exact none_

/-- A link is opened by the session that connects, or was there before. -/
theorem lookup_wire {b : TaskAction} (wired : wire links key b = some links') :
    ((∃ addr, b = .connect addr) ∧ links' = links.insert key .opened) ∨
      (links.lookup k = none → links'.lookup k = none) ∧
        ∀ link, links.lookup k = some link → ∃ next, links'.lookup k = some next ∧
          (next = link ∨ k = key ∧ link.Grows next (b = .readHello) False) := by
  have same : links' = links → (links.lookup k = none → links'.lookup k = none) ∧
      ∀ link, links.lookup k = some link → ∃ next, links'.lookup k = some next ∧
        (next = link ∨ k = key ∧ link.Grows next (b = .readHello) False) := by
    rintro rfl
    exact ⟨id, fun link found => ⟨link, found, .inl rfl⟩⟩
  cases b with
  | connect addr =>
    cases wired
    exact .inl ⟨⟨addr, rfl⟩, rfl⟩
  | sendHello =>
    cases wired
    exact .inr ⟨lookup_modify_none, fun link => lookup_modify fun _ => ⟨id, id, .inl, .inl⟩⟩
  | readHello =>
    obtain ⟨greeted, ⟨⟩⟩ := Option.ite_none_right_eq_some.mp wired
    refine .inr ⟨lookup_modify_none, fun link => lookup_modify fun found => ?_⟩
    rw [found] at greeted
    exact ⟨id, fun _ => rfl, fun _ => .inr ⟨rfl, greeted⟩, .inl⟩
  | readAck now =>
    obtain ⟨-, ⟨⟩⟩ := Option.ite_none_right_eq_some.mp wired
    exact .inr (same rfl)
  | _ => exact .inr (same (Option.some.inj wired).symm)

theorem lookup_mark {c : Nat} {f : Link → Link} {greetingSent : Prop} {link : Link}
    (grows : s.conns.lookup c = some k → link.Grows (f link) False greetingSent)
    (found : s.links.lookup k = some link) : ∃ next, (s.mark c f).lookup k = some next ∧
      link.Grows next False greetingSent := by
  unfold State.mark
  split
  · next key own =>
    by_cases same : k = key
    · subst same
      exact ⟨f link, by rw [lookup_modify_eq, if_pos rfl, found]; rfl, grows own⟩
    · exact ⟨link, by rw [lookup_modify_eq, if_neg same, found], .refl link _ _⟩
  · exact ⟨link, found, .refl link _ _⟩

/-- The links after a step of the client. -/
theorem lookup_wires {a : Client.Action} (wired : s.wires a = some links') :
    (∃ i x addr, a = .task i (.connect addr) ∧ s.client.tasks.lookup i = some x ∧
      links' = s.links.insert (i, x.session) .opened) ∨
      (s.links.lookup k = none → links'.lookup k = none) ∧
        ∀ link, s.links.lookup k = some link → ∃ next, links'.lookup k = some next ∧
          link.Grows next (∃ i x, a = .task i .readHello ∧ s.client.tasks.lookup i = some x ∧
            k = (i, x.session)) False := by
  cases a with
  | task i b =>
    obtain ⟨x, held, wired⟩ := Option.bind_eq_some_iff.mp wired
    rcases lookup_wire (k := k) wired with ⟨⟨addr, rfl⟩, opened⟩ | ⟨absent, grows⟩
    · exact .inl ⟨i, x, addr, rfl, held, opened⟩
    · refine .inr ⟨absent, fun link found => ?_⟩
      obtain ⟨next, there, rfl | ⟨own, more⟩⟩ := grows link found
      · exact ⟨_, there, .refl _ _ _⟩
      · refine ⟨next, there, more.accepted, more.auth, fun sent => ?_, more.greeter⟩
        exact (more.author sent).imp_right fun ⟨hello, greeted⟩ =>
          ⟨⟨i, x, hello ▸ rfl, held, own⟩, greeted⟩
  | _ =>
    cases wired
    exact .inr ⟨id, fun link found => ⟨link, found, .refl _ _ _⟩⟩

/-- The server only writes a greeting or an ack, and only on a link that it has accepted. -/
theorem lookup_answered {server : Server.State D} {a : Server.Action D} {link : Link}
    (found : s.links.lookup k = some link) : ∃ next,
      (s.answered server a).lookup k = some next ∧
        link.Grows next False (∃ c, s.conns.lookup c = some k) := by
  cases a with
  | readControlHello c d nonce =>
    exact lookup_mark (fun own => ⟨id, id, .inl, fun _ => .inr ⟨c, own⟩⟩) found
  | readAuth c d =>
    by_cases right : ((server.conns.lookup c).any fun conn => admitted conn.phase) = true
    · rw [State.answered, if_pos right]
      exact lookup_mark (fun _ => ⟨id, id, .inl, .inl⟩) found
    · rw [State.answered, if_neg right]
      exact ⟨link, found, .refl link _ _⟩
  | _ => exact ⟨link, found, .refl link _ _⟩


theorem lookup_answered_none {server : Server.State D} {a : Server.Action D}
    (none_ : s.links.lookup k = none) : (s.answered server a).lookup k = none := by
  have marked : ∀ c f, (s.mark c f).lookup k = none := by
    intro c f
    unfold State.mark
    split
    · exact lookup_modify_none none_
    · exact none_
  unfold State.answered
  split
  · exact marked _ _
  · split
    · exact marked _ _
    · exact none_
  · exact none_

end Links

section Sound

/-- What holds in every state of the links and the connections behind them. -/
structure Sound (s : State D) : Prop where
  fresh : ∀ i k link, s.links.lookup (i, k) = some link → ∃ x,
    s.client.tasks.lookup i = some x ∧ k ≤ x.session ∧ (x.phase = .resolving → k < x.session)
  accepted : ∀ key link, s.links.lookup key = some link →
    link.greeting = true ∨ link.auth = true → link.accepted = true
  linked : ∀ c key, s.conns.lookup c = some key →
    ∃ link, s.links.lookup key = some link ∧ link.accepted = true
  passed : ∀ c key conn, s.conns.lookup c = some key → s.server.conns.lookup c = some conn →
    admitted conn.phase = true → (s.links.lookup key).any Link.auth = true

/-- A session keeps its number below the ones that its task will have. -/
theorem Sound.fresh_step {a : Client.Action} {client : Client.State} {i k : Nat} {link : Link}
    (sound : Sound s) (bounded : Client.Bounded s.client)
    (moved : Client.step s.client a = some client)
    (found : s.links.lookup (i, k) = some link) : ∃ y, client.tasks.lookup i = some y ∧
      k ≤ y.session ∧ (y.phase = .resolving → k < y.session) := by
  obtain ⟨x, held, below, fresh⟩ := sound.fresh i k link found
  obtain ⟨y, there, ⟨b, -, stepped⟩ | ⟨-, rfl | ⟨tx, rfl⟩⟩⟩ := task_of_step bounded moved held
  · refine ⟨y, there, ?_⟩
    rcases session_step stepped with ⟨same, phase⟩ | next
    · rw [same]
      exact ⟨below, fun here => fresh (phase here)⟩
    · rw [next]
      exact ⟨Nat.le_succ_of_le below, fun _ => Nat.lt_succ_of_le below⟩
  · exact ⟨_, there, below, fresh⟩
  · refine ⟨_, there, ?_⟩
    rw [session_release, Client.release_phase]
    exact ⟨below, fresh⟩

/-- The link that a session opens is new. -/
theorem Sound.unopened {client : Client.State} {i : Nat} {addr : SocketAddr} {x : Task}
    (sound : Sound s) (moved : Client.step s.client (.task i (.connect addr)) = some client)
    (held : s.client.tasks.lookup i = some x) : s.links.lookup (i, x.session) = none ∧
      ∃ y, client.tasks.lookup i = some y ∧ y.session = x.session ∧ y.phase = .connecting := by
  obtain ⟨z, y, found, stepped, ⟨-, rfl⟩ | ⟨call, runtime, -, -, rfl⟩⟩ :=
    Client.task_cases moved <;>
  · cases held.symm.trans found
    obtain ⟨resolving, rfl⟩ := Client.advance_cases stepped
    refine ⟨?_, { x with phase := .connecting }, by rw [lookup_insert_eq, if_pos rfl], rfl, rfl⟩
    by_contra there
    obtain ⟨link, there⟩ := Option.ne_none_iff_exists'.mp there
    obtain ⟨x', held', -, fresh⟩ := sound.fresh i x.session link there
    cases held.symm.trans held'
    exact Nat.lt_irrefl _ (fresh resolving)

theorem any_auth {links : HashMap (Nat × Nat) Link} {key : Nat × Nat} :
    (links.lookup key).any Link.auth = true ↔
      ∃ link, links.lookup key = some link ∧ link.auth = true := by
  rw [Option.any_eq_true]

/-- The links of a step that lets all links there are grow. -/
theorem Sound.grow {links : HashMap (Nat × Nat) Link} {server : Server.State D}
    {sent greeted : Nat × Nat → Prop} (sound : Sound s)
    (grows : ∀ key link, s.links.lookup key = some link → ∃ next,
      links.lookup key = some next ∧ link.Grows next (sent key) (greeted key))
    (old : ∀ key, s.links.lookup key = none → ∀ next, links.lookup key = some next →
      next = .opened)
    (linked : ∀ key, greeted key → ∃ c, s.conns.lookup c = some key)
    (admits : ∀ c key conn, s.conns.lookup c = some key → server.conns.lookup c = some conn →
      admitted conn.phase = true → (s.links.lookup key).any Link.auth = true) :
    (∀ key link, links.lookup key = some link →
      link.greeting = true ∨ link.auth = true → link.accepted = true) ∧
    (∀ c key, s.conns.lookup c = some key →
      ∃ link, links.lookup key = some link ∧ link.accepted = true) ∧
    ∀ c key conn, s.conns.lookup c = some key → server.conns.lookup c = some conn →
      admitted conn.phase = true → (links.lookup key).any Link.auth = true := by
  refine ⟨fun key next there said => ?_, fun c key own => ?_, fun c key conn own found right => ?_⟩
  · cases found : s.links.lookup key with
    | none =>
      cases old key found next there
      rcases said with said | said <;> cases said
    | some link =>
      obtain ⟨next', there', more⟩ := grows key link found
      cases there.symm.trans there'
      refine more.accepted ?_
      rcases said with said | said
      · rcases more.greeter said with before | now
        · exact sound.accepted key link found (.inl before)
        · obtain ⟨c, own⟩ := linked key now
          obtain ⟨link', found', accepted⟩ := sound.linked c key own
          cases found.symm.trans found'
          exact accepted
      · rcases more.author said with before | ⟨-, before⟩
        · exact sound.accepted key link found (.inr before)
        · exact sound.accepted key link found (.inl before)
  · obtain ⟨link, found, accepted⟩ := sound.linked c key own
    obtain ⟨next, there, more⟩ := grows key link found
    exact ⟨next, there, more.accepted accepted⟩
  · obtain ⟨link, before, auth⟩ := any_auth.mp (admits c key conn own found right)
    obtain ⟨next, there, more⟩ := grows key link before
    exact any_auth.mpr ⟨next, there, more.auth auth⟩

theorem Sound.client {a : Client.Action} {client : Client.State}
    {links : HashMap (Nat × Nat) Link} (sound : Sound s) (bounded : Client.Bounded s.client)
    (moved : Client.step s.client a = some client) (wired : s.wires a = some links) :
    Sound { s with client := client, links := links } := by
  have kept : (∀ key, s.links.lookup key = none → ∀ next, links.lookup key = some next →
      next = .opened) ∧ ∀ key link, s.links.lookup key = some link → ∃ next,
        links.lookup key = some next ∧ link.Grows next (∃ i x, a = .task i .readHello ∧
          s.client.tasks.lookup i = some x ∧ key = (i, x.session)) False := by
    constructor
    · intro key none_ next there
      rcases lookup_wires (k := key) wired with ⟨i, x, addr, rfl, held, rfl⟩ | ⟨absent, -⟩
      · rw [lookup_insert_eq] at there
        split at there
        · exact (Option.some.inj there).symm
        · cases none_.symm.trans there
      · cases (absent none_).symm.trans there
    · intro key link found
      rcases lookup_wires (k := key) wired with ⟨i, x, addr, rfl, held, rfl⟩ | ⟨-, grows⟩
      · have other : key ≠ (i, x.session) := by
          rintro rfl
          cases (sound.unopened moved held).1.symm.trans found
        exact ⟨link, by rw [lookup_insert_eq, if_neg other, found], .refl _ _ _⟩
      · exact grows link found
  obtain ⟨accepted, linked, passed⟩ :=
    sound.grow kept.2 kept.1 (fun _ => False.elim) sound.passed
  refine ⟨fun i k next there => ?_, accepted, linked, passed⟩
  cases found : s.links.lookup (i, k) with
  | some link => exact sound.fresh_step bounded moved found
  | none =>
    rcases lookup_wires (k := (i, k)) wired with ⟨j, x, addr, rfl, held, rfl⟩ | ⟨absent, -⟩
    · dsimp only at there
      rw [lookup_insert_eq] at there
      split at there
      · next own =>
        cases own
        obtain ⟨-, y, here, session, phase⟩ := sound.unopened moved held
        refine ⟨y, here, session.ge, fun resolving => ?_⟩
        cases phase.symm.trans resolving
      · cases found.symm.trans there
    · cases (absent found).symm.trans there

/-- A connection that is accepted by the server only now has not been heard of. -/
theorem Sound.server {a : Server.Action D} {server : Server.State D} (sound : Sound s)
    (hears : s.hears a = true) (moved : Server.step digest s.server a = some server) :
    Sound { s with server := server, links := s.answered server a } := by
  have grows : ∀ key link, s.links.lookup key = some link → ∃ next,
      (s.answered server a).lookup key = some next ∧
        link.Grows next False (∃ c, s.conns.lookup c = some key) :=
    fun key link found => lookup_answered found
  have old : ∀ key, s.links.lookup key = none → ∀ next,
      (s.answered server a).lookup key = some next → next = .opened := by
    intro key none_ next there
    rw [lookup_answered_none none_] at there
    cases there
  have passes : ∀ c key conn, s.conns.lookup c = some key → server.conns.lookup c = some conn →
      admitted conn.phase = true → (s.links.lookup key).any Link.auth = true := by
    intro c key conn own found right
    rcases unsettled_of_step moved found (open_of_admitted right) with
      ⟨source, rfl, -, wrong⟩ | ⟨before, held, -, whence⟩
    · cases right.symm.trans wrong
    · rcases whence right with earlier | ⟨d, rfl⟩
      · exact sound.passed c key before own held earlier
      · have heard : s.heard c Link.auth = true := hears
        rwa [State.heard, own] at heard
  obtain ⟨accepted, linked, passed⟩ := sound.grow grows old (fun _ own => own) passes
  refine ⟨fun i k next there => ?_, accepted, linked, passed⟩
  cases found : s.links.lookup (i, k) with
  | some link => exact sound.fresh i k link found
  | none => cases (lookup_answered_none found).symm.trans there

theorem Sound.accept {c i k : Nat} {source : SocketAddr} {server : Server.State D}
    (sound : Sound s)
    (waits : ((s.links.lookup (i, k)).any fun link => !link.accepted) = true)
    (moved : s.server.accept c source = some server) :
    Sound { s with
      server := server
      links := HashMap.modify s.links (i, k) fun link => { link with accepted := true }
      conns := s.conns.insert c (i, k) } := by
  obtain ⟨⟨-, -, absent⟩, ⟨⟩⟩ := Option.ite_none_right_eq_some.mp moved
  have grows : ∀ key link, s.links.lookup key = some link → ∃ next,
      (HashMap.modify s.links (i, k) fun link => { link with accepted := true }).lookup key =
        some next ∧ link.Grows next False False := by
    intro key link found
    have modified : ∃ next,
        (HashMap.modify s.links (i, k) fun link => { link with accepted := true }).lookup key =
          some next ∧ (next = link ∨ key = (i, k) ∧ link.Grows next False False) :=
      lookup_modify (fun _ => ⟨fun _ => rfl, id, .inl, .inl⟩) found
    obtain ⟨next, there, rfl | ⟨-, more⟩⟩ := modified
    · exact ⟨_, there, .refl _ _ _⟩
    · exact ⟨next, there, more⟩
  obtain ⟨accepted, linked, passed⟩ := sound.grow grows
    (fun key none_ next there => by cases (lookup_modify_none none_).symm.trans there)
    (fun _ => False.elim) sound.passed
  refine ⟨fun j l next there => ?_, accepted, fun c' key own => ?_, fun c' key conn own found => ?_⟩
  · cases found : s.links.lookup (j, l) with
    | some link => exact sound.fresh j l link found
    | none => cases (lookup_modify_none found).symm.trans there
  · dsimp only at own
    rw [lookup_insert_eq] at own
    split at own
    · cases own
      obtain ⟨link, found, -⟩ := (Option.any_eq_true _ _).mp waits
      refine ⟨{ link with accepted := true }, ?_, rfl⟩
      dsimp only
      rw [lookup_modify_eq, if_pos rfl, found]
      rfl
    · exact linked c' key own
  · dsimp only at own found
    rw [Server.State.enter, lookup_insert_eq] at found
    rw [lookup_insert_eq] at own
    split at own
    · next here =>
      rw [if_pos here] at found
      cases found
      intro wrong
      cases wrong
    · next other =>
      rw [if_neg other] at found
      exact passed c' key conn own found

/-- One step of the two, and of what is between them. -/
theorem step_cases {a : Action D} (moved : step digest s a = some t) :
    (∃ b client links, a = .client b ∧ Client.step s.client b = some client ∧
      s.wires b = some links ∧ t = { s with client := client, links := links }) ∨
    (∃ b server, a = .server b ∧ s.hears b = true ∧
      Server.step digest s.server b = some server ∧
      t = { s with server := server, links := s.answered server b }) ∨
    ∃ c source i k server, a = .accept c source i k ∧
      ((s.links.lookup (i, k)).any fun link => !link.accepted) = true ∧
      s.server.accept c source = some server ∧ t = { s with
        server := server
        links := HashMap.modify s.links (i, k) fun link => { link with accepted := true }
        conns := s.conns.insert c (i, k) } := by
  cases a with
  | client b =>
    obtain ⟨client, stepped, moved⟩ := Option.bind_eq_some_iff.mp moved
    obtain ⟨links, wired, ⟨⟩⟩ := Option.bind_eq_some_iff.mp moved
    exact .inl ⟨b, client, links, rfl, stepped, wired, rfl⟩
  | server b =>
    obtain ⟨hears, moved⟩ := Option.ite_none_right_eq_some.mp moved
    obtain ⟨server, stepped, rfl⟩ := Option.map_eq_some_iff.mp moved
    exact .inr (.inl ⟨b, server, rfl, hears, stepped, rfl⟩)
  | accept c source i k =>
    obtain ⟨waits, moved⟩ := Option.ite_none_right_eq_some.mp moved
    obtain ⟨server, stepped, rfl⟩ := Option.map_eq_some_iff.mp moved
    exact .inr (.inr ⟨c, source, i, k, server, rfl, waits, stepped, rfl⟩)

theorem sound_of_reach {ok : State D → Action D → Prop} (reached : (system digest).Reach ok s) :
    Client.Bounded s.client ∧ Sound s := by
  refine reached.invariant (I := fun s => Client.Bounded s.client ∧ Sound s) ?_ ?_
  · rintro s ⟨client, -, links, conns⟩
    refine ⟨bounded_of_reach (.start client), ?_⟩
    constructor
    · simp [links]
    · simp [links]
    · simp [conns]
    · simp [conns]
  · rintro s a t - moved ⟨bounded, sound⟩
    rcases step_cases moved with ⟨b, client, links, -, stepped, wired, rfl⟩ |
      ⟨b, server, -, hears, stepped, rfl⟩ | ⟨c, source, i, k, server, -, waits, stepped, rfl⟩
    · exact ⟨bounded.step stepped, sound.client bounded stepped wired⟩
    · exact ⟨bounded, sound.server hears stepped⟩
    · exact ⟨bounded, sound.accept waits stepped⟩

end Sound

section Released

/-- The client of the two makes a run of its own, and gives up handles only when their tasks are
spent. -/
theorem client_reach (reached : (system digest).Reach ReleasesAnswered s) :
    Client.system.Reach (Client.Respects Client.ReleasesSpent) s.client := by
  refine reached.invariant
    (I := fun s => Client.system.Reach (Client.Respects Client.ReleasesSpent) s.client) ?_ ?_
  · rintro s ⟨client, -⟩
    exact .start client
  · rintro s a t allowed moved reached
    rcases step_cases moved with ⟨b, client, links, rfl, stepped, -, rfl⟩ |
      ⟨b, server, -, -, -, rfl⟩ | ⟨c, source, i, k, server, -, -, -, rfl⟩
    · refine reached.next (fun i x found => ⟨fun _ _ => trivial, fun tx releases => ?_⟩) stepped
      exact (allowed i tx x releases found).1
    · exact reached
    · exact reached

/-- A task that lost its handle is spent. -/
theorem spent_of_reach (reached : (system digest).Reach ReleasesAnswered s) {i : Nat} {x : Task}
    (found : s.client.tasks.lookup i = some x) (gone : x.shutdown ≠ .held) : x.Spent :=
  Client.spent_of_reach (Client.channel_reach (client_reach reached) found) gone

/-- A step of the client writes no auth for a spent task. -/
theorem Answered.client {a : Client.Action} {client : Client.State}
    {links : HashMap (Nat × Nat) Link} {i : Nat} {x : Task} (answered : Answered s i)
    (sound : Sound s) (found : s.client.tasks.lookup i = some x) (spent : x.Spent)
    (moved : Client.step s.client a = some client) (wired : s.wires a = some links) :
    Answered { s with client := client, links := links } i := by
  intro c k conn own held sent
  refine answered c k conn own held ?_
  obtain ⟨link, before, -⟩ := sound.linked c (i, k) own
  obtain ⟨next, there, auth⟩ := any_auth.mp sent
  rcases lookup_wires (k := (i, k)) wired with ⟨j, y, addr, rfl, there', rfl⟩ | ⟨-, grows⟩
  · have other : (i, k) ≠ (j, y.session) := by
      intro same
      rw [same] at before
      cases (sound.unopened moved there').1.symm.trans before
    dsimp only at there
    rw [lookup_insert_eq, if_neg other] at there
    exact any_auth.mpr ⟨next, there, auth⟩
  · obtain ⟨next', there', more⟩ := grows link before
    cases there.symm.trans there'
    rcases more.author auth with earlier | ⟨⟨j, y, rfl, here, same⟩, -⟩
    · exact any_auth.mpr ⟨link, before, earlier⟩
    · cases same
      cases found.symm.trans here
      obtain ⟨z, w, held', stepped, -⟩ := Client.task_cases moved
      cases found.symm.trans held'
      have ended := spent.phase
      rw [(Client.advance_cases stepped).1] at ended
      exact ended.elim

theorem Answered.server {a : Server.Action D} {server : Server.State D} {i : Nat}
    (answered : Answered s i) (sound : Sound s) (hears : s.hears a = true)
    (moved : Server.step digest s.server a = some server) :
    Answered { s with server := server, links := s.answered server a } i := by
  intro c k conn own held sent
  obtain ⟨link, before, -⟩ := sound.linked c (i, k) own
  have grown : ∃ next, (s.answered server a).lookup (i, k) = some next ∧
      link.Grows next False (∃ c, s.conns.lookup c = some (i, k)) := lookup_answered before
  obtain ⟨next, there, more⟩ := grown
  obtain ⟨next', there', auth⟩ := any_auth.mp sent
  cases there.symm.trans there'
  have earlier : (s.links.lookup (i, k)).any Link.auth = true := by
    rcases more.author auth with earlier | ⟨wrong, -⟩
    · exact any_auth.mpr ⟨link, before, earlier⟩
    · exact wrong.elim
  by_contra open_
  rw [Bool.not_eq_true] at open_
  rcases unsettled_of_step moved held open_ with ⟨source, rfl, -⟩ | ⟨conn', held', open', -⟩
  · have new : (s.conns.lookup c).isNone = true := hears
    rw [own] at new
    cases new
  · rw [answered c k conn' own held' earlier] at open'
    cases open'

theorem Answered.accept {c i j k : Nat} {source : SocketAddr} {server : Server.State D}
    (answered : Answered s j) (sound : Sound s)
    (waits : ((s.links.lookup (i, k)).any fun link => !link.accepted) = true)
    (moved : s.server.accept c source = some server) :
    Answered { s with
      server := server
      links := HashMap.modify s.links (i, k) fun link => { link with accepted := true }
      conns := s.conns.insert c (i, k) } j := by
  obtain ⟨⟨-, -, absent⟩, ⟨⟩⟩ := Option.ite_none_right_eq_some.mp moved
  obtain ⟨waiting, found, open_⟩ := (Option.any_eq_true _ _).mp waits
  -- What nobody has accepted was not greeted, and has no auth on it.
  have silent : waiting.auth = false := by
    by_contra auth
    rw [sound.accepted (i, k) waiting found (.inr (Bool.not_eq_false _ ▸ auth))] at open_
    cases open_
  intro c' l conn own held sent
  have earlier : (s.links.lookup (j, l)).any Link.auth = true := by
    dsimp only at sent
    rw [lookup_modify_eq] at sent
    split at sent
    · next same =>
      rw [found] at sent
      exact absurd sent (by simp [silent])
    · exact sent
  have other : (j, l) ≠ (i, k) := by
    intro same
    rw [same, found] at earlier
    exact absurd earlier (by simp [silent])
  dsimp only at own held
  rw [Server.State.enter, lookup_insert_eq] at held
  rw [lookup_insert_eq] at own
  split at own
  · exact absurd (Option.some.inj own).symm other
  · next apart =>
    rw [if_neg apart] at held
    exact answered c' l conn own held earlier

/-- The auths of a task that lost its handle are dealt with. -/
theorem answered_of_reach (reached : (system digest).Reach ReleasesAnswered s) :
    ∀ i x, s.client.tasks.lookup i = some x → x.shutdown ≠ .held → Answered s i := by
  refine reached.invariant_with (I := fun s => ∀ i x, s.client.tasks.lookup i = some x →
    x.shutdown ≠ .held → Answered s i)
    (fun s reached => And.intro (sound_of_reach reached) (client_reach reached)) ?_ ?_
  · rintro s ⟨-, -, -, conns⟩ i x - - c k conn own
    rw [conns] at own
    cases own
  · rintro s a t ⟨⟨bounded, sound⟩, mine⟩ - allowed moved answered
    rcases step_cases moved with ⟨b, client, links, rfl, stepped, wired, rfl⟩ |
      ⟨b, server, -, hears, stepped, rfl⟩ | ⟨c, source, j, k, server, -, waits, stepped, rfl⟩
    · intro i y found gone
      have spent : ∀ x, s.client.tasks.lookup i = some x → x.shutdown ≠ .held → x.Spent :=
        fun x found gone => Client.spent_of_reach (Client.channel_reach mine found) gone
      rcases descends_of_step bounded stepped i y found with ⟨service, rfl⟩ |
        ⟨x, before, rfl | ⟨c, -, moved⟩ | ⟨tx, releases, -⟩⟩
      · exact absurd rfl gone
      · exact (answered i _ before gone).client sound before (spent _ before gone) stepped wired
      · rw [(Client.step_fixed moved).2] at gone
        exact (answered i x before gone).client sound before (spent x before gone) stepped wired
      · obtain ⟨ended, dealt⟩ := allowed i tx x releases before
        exact dealt.client sound before ended stepped wired
    · exact fun i x found gone => (answered i x found gone).server sound hears stepped
    · exact fun i x found gone => (answered i x found gone).accept sound waits stepped

/-- In a run that gives up handles only when their tasks are spent and their auths dealt with, no
task comes back without its handle. -/
theorem never_back_of_releases_answered (reached : (system digest).Reach ReleasesAnswered s) :
    NeverBack s := by
  obtain ⟨-, sound⟩ := sound_of_reach reached
  intro i x found gone
  have spent := spent_of_reach reached found gone
  refine ⟨fun a returns => spent.blocks returns, fun c k own => ?_⟩
  have barred : ∀ conn, s.server.conns.lookup c = some conn → admitted conn.phase = false := by
    intro conn held
    by_contra right
    rw [Bool.not_eq_false] at right
    have sent := sound.passed c (i, k) conn own held right
    have ended := answered_of_reach reached i x found gone c k conn own held sent
    cases (open_of_admitted right).symm.trans ended
  constructor
  · intro now
    rw [Option.eq_none_iff_forall_ne_some]
    intro server moved
    obtain ⟨source, d, key, service, held, -⟩ := Server.connect_cases moved
    cases barred _ held
  · rw [Option.eq_none_iff_forall_ne_some]
    intro server moved
    obtain ⟨source, d, key, service, stamp, held, -⟩ := Server.register_cases moved
    cases barred _ held

end Released

section Runs

/-- The client with the service `ssh`, and a server that has it too. -/
def ssh : State (List UInt8) where
  client := Client.sshClient
  server := .start id ⟨"0.0.0.0:2333", none,
    (∅ : HashMap String _).insert "ssh" ⟨.tcp, "ssh", "0.0.0.0:5202", some "token", none⟩,
    .default, defaultHeartbeatInterval⟩ [("ssh", ⟨.tcp, "ssh", "0.0.0.0:5202", some "token", none⟩)]
    1 0
  links := ∅
  conns := ∅

theorem ssh_init : (system (D := List UInt8) id).init ssh := by
  refine ⟨Client.sshClient_init, ⟨_, _, _, _, enumerates_single "ssh" _, ?_, rfl⟩, rfl, rfl⟩
  intro name service found
  obtain ⟨rfl, rfl⟩ := lookup_single found
  rfl

/-- The first session of the task of `ssh`, up to the ack. -/
def establish : List (Action (List UInt8)) :=
  [.client (.task 0 .run), .client (.task 0 (.connect (.v4 1 2333))), .accept 0 (.v4 1 9) 0 1,
    .client (.task 0 .sendHello),
    .server (.readControlHello 0 (asBytes "ssh") Server.zeroNonce),
    .client (.task 0 .helloSent), .server (.greet 0), .client (.task 0 .readHello),
    .server (.lookup 0), .client (.task 0 .sendAuth),
    .server (.readAuth 0 (asBytes "token" ++ Server.zeroNonce)), .server (.connect 0 1000),
    .server (.register 0), .client (.task 0 (.readAck 1000))]

/-- `ReleasesAnswered`, as a check. -/
def releasesAnswered (s : State (List UInt8)) : Action (List UInt8) → Bool
  | .client a =>
    match s.client.releases a with
    | some (i, _) => (s.client.tasks.lookup i).all fun x =>
        decide (x.phase.Spent ∧
          (∀ d ∈ x.dataChannels.keys, (x.dataChannels.lookup d).all fun e => e.phase ≠ .setup) ∧
          ∀ c ∈ s.server.conns.keys, (s.server.conns.lookup c).all fun e => settled e.phase)
    | none => true
  | _ => true

theorem releases_answered_of_check (s : State (List UInt8)) (a : Action (List UInt8))
    (passed : releasesAnswered s a = true) : ReleasesAnswered s a := by
  have keyed : ∀ {V : Type} {m : HashMap Nat V} {c : Nat} {v : V}, m.lookup c = some v →
      c ∈ m.keys := by
    intro V m c v found
    rw [Finmap.mem_keys, ← Finmap.lookup_isSome, found]
    rfl
  cases a with
  | client a =>
    intro i tx x releases found
    simp only [releasesAnswered, releases, found, Option.all_some, decide_eq_true_eq] at passed
    obtain ⟨phase, channels, conns⟩ := passed
    refine ⟨⟨phase, fun d channel held => ?_⟩, fun c k conn _ held _ => ?_⟩
    · have here := channels d (keyed held)
      rw [held] at here
      simpa using here
    · have here := conns c (keyed held)
      rwa [held] at here
  | _ => trivial

/-- The session is over on both sides when its service is deleted. -/
theorem never_back_deleted_failed : ∃ s, (system id).Reach ReleasesAnswered s ∧
    (s.client.tasks.lookup 0).map Task.shutdown = some .dropped ∧
    s.conns.lookup 0 = some (0, 1) ∧ NeverBack s := by
  obtain ⟨s, reached, held⟩ := Transition.System.exists_reach ssh_init
    ([.client .createNext, .client .created] ++ establish ++ [.client (.task 0 .fail)] ++
      Client.deleteSsh.map .client)
    (fun s => (s.client.tasks.lookup 0).map Task.shutdown = some .dropped ∧
      s.conns.lookup 0 = some (0, 1))
    releasesAnswered releases_answered_of_check (by decide +kernel)
  obtain ⟨gone, linked⟩ := of_decide_eq_true held
  exact ⟨s, reached, gone, linked, never_back_of_releases_answered reached⟩

/-- An Add that replaces the handle while the task sleeps before its next attempt: after the sleep
the task is about to connect again. -/
theorem back_after_backoff : ¬ ∀ (D : Type) (_ : DecidableEq D) (digest : List UInt8 → D),
    Function.Injective digest → ∀ s, (system digest).Reachable s → NeverBack s := by
  intro never
  let schedule : List Client.Action := [.createNext, .created, .task 0 .run, .task 0 .fail,
    .task 0 (.checkShutdown 1000)] ++ Client.addSsh ++ [.task 0 .run]
  obtain ⟨s, reached, held⟩ := Transition.System.exists_reachable ssh_init (schedule.map .client)
    (fun s => (s.client.tasks.lookup 0).any fun x => x.shutdown = .dropped ∧ x.phase = .resolving)
    (by decide +kernel)
  obtain ⟨x, found, state⟩ := (Option.any_eq_true _ _).mp held
  obtain ⟨gone, resolving⟩ := of_decide_eq_true state
  have blocked := (never _ _ id Function.injective_id s reached 0 x found (by rw [gone]; nofun)).1
    (.connect (.v4 1 2333)) rfl
  simp [Task.step, Task.advance, resolving] at blocked

end Runs

end Rathole.Joint
