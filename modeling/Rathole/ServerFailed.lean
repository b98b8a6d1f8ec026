import Rathole.ServerRouting

set_option autoImplicit false

/- A handshake that fails, against the server on which its connection was never made. -/
namespace Rathole.Server

open Transition.System (Run Free)

variable {D : Type} [DecidableEq D] {digest : List UInt8 → D}

/-- The connection a step belongs to, be it of its own task or of the session it created. -/
def Action.conn : Action D → Option Nat
  | .accept c _ | .readControlHello c .. | .readDataHello c _ | .greet c | .lookup c
  | .readAuth c _ | .connect c _ | .register c | .route c | .deliver c | .ioError c
  | .deadline c | .endTask c _ | .disconnect c _ | .takeDataChannel c | .endPool c => some c
  | .reload _ | .reloadServices | .reloadChannels | .shutdown => none

/-- The server without the task of connection `c`. -/
def State.without (s : State D) (c : Nat) : State D :=
  { s with
    conns := s.conns.erase c
    serviceReaders := s.serviceReaders.filter (· ≠ c)
    channelReaders := s.channelReaders.filter (· ≠ c) }

section Others

variable {s t : State D} {c c' : Nat}

theorem lookup_without (s : State D) (other : c' ≠ c) :
    (s.without c).conns.lookup c' = s.conns.lookup c' :=
  Finmap.lookup_erase_ne other

theorem erase_insert_comm {V : Type} (m : HashMap Nat V) (other : c' ≠ c) (v : V) :
    (m.insert c' v).erase c = (m.erase c).insert c' v := by
  apply Finmap.ext_lookup
  intro k
  simp only [lookup_erase_eq, lookup_insert_eq]
  split
  · next here => rw [here, if_neg (Ne.symm other)]
  · rfl

theorem without_enter (s : State D) (other : c' ≠ c) (source : SocketAddr) (phase : Phase D) :
    (s.enter c' source phase).without c = (s.without c).enter c' source phase := by
  simp only [State.without, State.enter, erase_insert_comm s.conns other]

theorem without_close (s : State D) (other : c' ≠ c) (source : SocketAddr) :
    (s.close c' source).without c = (s.without c).close c' source := by
  simp only [State.without, State.close, erase_insert_comm s.conns other, List.erase_filter]

theorem readers_without {readers : List Nat} (free : readers = []) :
    readers.filter (· ≠ c) = [] := by
  rw [free, List.filter_nil]

theorem onSession_without {f : Session → Option Session} (moved : s.onSession c' f = some t) :
    (s.without c).onSession c' f = some (t.without c) := by
  obtain ⟨x, y, found, made, rfl⟩ := onSession_cases moved
  simp only [State.onSession, State.without, found, Option.bind_some, made, Option.map_some]

theorem lookup_step_without (other : c' ≠ c) (moved : s.lookup c' = some t) :
    (s.without c).lookup c' = some (t.without c) := by
  unfold State.lookup at moved ⊢
  rw [lookup_without s other]
  split at moved
  · next source d nonce found =>
    have reload : (s.without c).reload = s.reload := rfl
    have services : (s.without c).services = s.services := rfl
    simp only [reload, services]
    split at moved
    · cases moved
    · next unlocked =>
      rw [if_neg unlocked]
      split at moved
      · cases moved
        have kept : (c' :: s.serviceReaders).filter (· ≠ c) =
            c' :: s.serviceReaders.filter (· ≠ c) :=
          List.filter_cons_of_pos (decide_eq_true other)
        simp only [State.without, State.enter, erase_insert_comm s.conns other, kept]
      · split at moved
        · cases moved
          simp only [without_close s other]
        · cases moved
          simp only [without_enter s other]
  · cases moved

theorem readAuth_without {d : D} (other : c' ≠ c) (moved : s.readAuth digest c' d = some t) :
    (s.without c).readAuth digest c' d = some (t.without c) := by
  unfold State.readAuth at moved ⊢
  rw [lookup_without s other]
  split at moved
  · next source service_digest concat service found =>
    dsimp only at moved ⊢
    split at moved
    · next same =>
      cases moved
      rw [if_pos same, without_enter s other]
    · next wrong =>
      cases moved
      rw [if_neg wrong, without_enter s other]
  · cases moved

theorem connect_without {now : Nat} (other : c' ≠ c) (moved : s.connect c' now = some t) :
    (s.without c).connect c' now = some (t.without c) := by
  unfold State.connect at moved ⊢
  rw [lookup_without s other]
  split at moved
  · next source d key service found =>
    have runtime : (s.without c).runtime = s.runtime := rfl
    simp only [runtime]
    split at moved
    · cases moved
      rw [without_close s other]
    · cases moved
      simp only [State.without, State.enter, erase_insert_comm s.conns other]
  · cases moved

theorem register_without (other : c' ≠ c) (moved : s.register c' = some t) :
    (s.without c).register c' = some (t.without c) := by
  unfold State.register at moved ⊢
  rw [lookup_without s other]
  split at moved
  · next source d key service stamp found =>
    obtain ⟨free, ⟨⟩⟩ := Option.ite_none_right_eq_some.mp moved
    have unread : (s.without c).channelReaders = [] := readers_without free
    rw [if_pos unread]
    simp only [State.without, State.close, erase_insert_comm s.conns other, List.erase_filter]
  · cases moved

theorem route_without (other : c' ≠ c) (moved : s.route c' = some t) :
    (s.without c).route c' = some (t.without c) := by
  unfold State.route at moved ⊢
  rw [lookup_without s other]
  split at moved
  · next source key found =>
    have channels : (s.without c).controlChannels = s.controlChannels := rfl
    simp only [channels]
    split at moved
    · cases moved
      simp only [without_close s other]
    · cases moved
      have kept : (c' :: s.channelReaders).filter (· ≠ c) =
          c' :: s.channelReaders.filter (· ≠ c) :=
        List.filter_cons_of_pos (decide_eq_true other)
      simp only [State.without, State.enter, erase_insert_comm s.conns other, kept]
  · cases moved

theorem deliver_without (other : c' ≠ c) (moved : s.deliver c' = some t) :
    (s.without c).deliver c' = some (t.without c) := by
  unfold State.deliver at moved ⊢
  rw [lookup_without s other]
  split at moved
  · next source session found =>
    have sessions : (s.without c).sessions = s.sessions := rfl
    simp only [sessions]
    split at moved
    · cases moved
    · split at moved
      · next pool =>
        obtain ⟨room, ⟨⟩⟩ := Option.ite_none_right_eq_some.mp moved
        rw [if_pos pool, if_pos room]
        simp only [State.without, State.close, erase_insert_comm s.conns other, List.erase_filter]
      · next ended =>
        cases moved
        rw [if_neg ended, without_close s other]
  · cases moved

theorem ioError_without (other : c' ≠ c) (moved : s.ioError c' = some t) :
    (s.without c).ioError c' = some (t.without c) := by
  unfold State.ioError at moved ⊢
  rw [lookup_without s other]
  split at moved
  · split at moved <;> cases moved <;> rw [without_close s other]
  · cases moved

theorem deadline_without (other : c' ≠ c) (moved : s.deadline c' = some t) :
    (s.without c).deadline c' = some (t.without c) := by
  unfold State.deadline at moved ⊢
  rw [lookup_without s other]
  split at moved
  · split at moved
    · cases moved
    · next live =>
      cases moved
      rw [if_neg live, without_close s other]
  · cases moved

theorem disconnect_without {now : Nat} (moved : s.disconnect c' now = some t) :
    (s.without c).disconnect c' now = some (t.without c) := by
  obtain ⟨x, stuck, runtime, found, ended, written, rfl⟩ := disconnect_cases moved
  simp only [State.disconnect, State.without, found, ended, written, Option.map_some]

theorem reloadServices_without (moved : s.reloadServices digest = some t) :
    (s.without c).reloadServices digest = some (t.without c) := by
  unfold State.reloadServices at moved ⊢
  obtain ⟨free, moved⟩ := Option.ite_none_right_eq_some.mp moved
  have unread : (s.without c).serviceReaders = [] := readers_without free
  have reload : (s.without c).reload = s.reload := rfl
  rw [if_pos unread, reload]
  split at moved <;> cases moved <;> rfl

theorem reloadChannels_without (moved : s.reloadChannels = some t) :
    (s.without c).reloadChannels = some (t.without c) := by
  unfold State.reloadChannels at moved ⊢
  obtain ⟨free, moved⟩ := Option.ite_none_right_eq_some.mp moved
  have unread : (s.without c).channelReaders = [] := readers_without free
  have reload : (s.without c).reload = s.reload := rfl
  rw [if_pos unread, reload]
  split at moved <;> cases moved <;> rfl

/-- The other steps do not see the connection. -/
theorem step_without {a : Action D} (other : a.conn ≠ some c) (moved : step digest s a = some t) :
    step digest (s.without c) a = some (t.without c) := by
  have apart : ∀ c', a.conn = some c' → c' ≠ c := by
    rintro c' named rfl
    exact other named
  cases a with
  | accept c' source =>
    have other := apart c' rfl
    obtain ⟨⟨running, idle, absent⟩, ⟨⟩⟩ := Option.ite_none_right_eq_some.mp moved
    have absent' : (s.without c).conns.lookup c' = none := (lookup_without s other).trans absent
    rw [without_enter s other]
    exact if_pos ⟨running, idle, absent'⟩
  | readControlHello c' d nonce =>
    have other := apart c' rfl
    simp only [step, State.readControlHello, lookup_without s other] at moved ⊢
    split at moved
    · obtain ⟨full, ⟨⟩⟩ := Option.ite_none_right_eq_some.mp moved
      rw [if_pos full, without_enter s other]
    · cases moved
  | readDataHello c' key =>
    have other := apart c' rfl
    simp only [step, State.readDataHello, lookup_without s other] at moved ⊢
    split at moved <;> cases moved
    rw [without_enter s other]
  | greet c' =>
    have other := apart c' rfl
    simp only [step, State.greet, lookup_without s other] at moved ⊢
    split at moved <;> cases moved
    rw [without_enter s other]
  | lookup c' => exact lookup_step_without (apart c' rfl) moved
  | readAuth c' d => exact readAuth_without (apart c' rfl) moved
  | connect c' now => exact connect_without (apart c' rfl) moved
  | register c' => exact register_without (apart c' rfl) moved
  | route c' => exact route_without (apart c' rfl) moved
  | deliver c' => exact deliver_without (apart c' rfl) moved
  | ioError c' => exact ioError_without (apart c' rfl) moved
  | deadline c' => exact deadline_without (apart c' rfl) moved
  | endTask c' stuck | takeDataChannel c' | endPool c' => exact onSession_without moved
  | disconnect c' now => exact disconnect_without moved
  | reload e =>
    obtain ⟨⟨running, idle⟩, ⟨⟩⟩ := Option.ite_none_right_eq_some.mp moved
    have guard : (s.without c).running ∧ (s.without c).reload = .idle := ⟨running, idle⟩
    refine (if_pos guard).trans ?_
    unfold State.handleHotReload
    split <;> rfl
  | reloadServices => exact reloadServices_without moved
  | reloadChannels => exact reloadChannels_without moved
  | shutdown =>
    obtain ⟨⟨running, idle⟩, ⟨⟩⟩ := Option.ite_none_right_eq_some.mp moved
    have guard : (s.without c).running ∧ (s.without c).reload = .idle := ⟨running, idle⟩
    exact if_pos guard

end Others

/-- `handle_connection` of `c` ends with `Ok`: its handle is stored or its stream is queued. -/
def Succeeds (c : Nat) (s : State D) (a : Action D) : Prop :=
  a = .register c ∨ a = .deliver c ∧ ∃ source session x,
    s.conns.lookup c = some ⟨source, .delivering session⟩ ∧
    s.sessions.lookup session = some x ∧ x.pool = true

/-- The deadline does not cancel the task between `server_connected` and its map update. -/
def KeepsHandle (c : Nat) (s : State D) (a : Action D) : Prop :=
  a = .deadline c → s.pending c = none

/-- The stores end as they would without connection `c`, its session included. -/
def LeavesNoTrace (digest : List UInt8 → D) (c : Nat) (start : State D) (as : List (Action D))
    (s : State D) : Prop :=
  ∃ s', (system digest).Run Free start (as.filter fun a => a.conn ≠ some c) s' ∧
    s'.services = s.services ∧ s'.controlChannels = s.controlChannels ∧
    s'.runtime.services = s.runtime.services

section Own

variable {start s t : State D} {as : List (Action D)} {c : Nat}

theorem erase_insert_self {V : Type} (m : HashMap Nat V) (c : Nat) (v : V) :
    (m.insert c v).erase c = m.erase c := by
  apply Finmap.ext_lookup
  intro k
  simp only [lookup_erase_eq, lookup_insert_eq]
  split <;> rfl

theorem filter_erase_self (readers : List Nat) :
    (readers.erase c).filter (· ≠ c) = readers.filter (· ≠ c) := by
  rw [← List.erase_filter]
  apply List.erase_of_not_mem
  simp

theorem own_enter (s : State D) (source : SocketAddr) (phase : Phase D) :
    (s.enter c source phase).without c = s.without c := by
  simp only [State.without, State.enter, erase_insert_self]

theorem own_close (s : State D) (source : SocketAddr) :
    (s.close c source).without c = s.without c := by
  simp only [State.without, State.close, erase_insert_self, filter_erase_self]

theorem own_lookup (moved : s.lookup c = some t) : t.without c = s.without c := by
  unfold State.lookup at moved
  split at moved
  · split at moved
    · cases moved
    · split at moved
      · cases moved
        simp [State.without, State.enter, erase_insert_self]
      · split at moved
        · cases moved
          exact own_close s _
        · cases moved
          exact own_enter s _ _
  · cases moved

theorem own_readAuth {d : D} (moved : s.readAuth digest c d = some t) :
    t.without c = s.without c := by
  unfold State.readAuth at moved
  split at moved
  · dsimp only at moved
    split at moved <;> cases moved
    · exact own_enter s _ _
    · exact own_enter s _ _
  · cases moved

theorem own_route (moved : s.route c = some t) : t.without c = s.without c := by
  unfold State.route at moved
  split at moved
  · split at moved <;> cases moved
    · exact own_close s _
    · simp [State.without, State.enter, erase_insert_self]
  · cases moved

theorem own_deliver (moved : s.deliver c = some t) (failed : ¬ Succeeds c s (.deliver c)) :
    t.without c = s.without c := by
  unfold State.deliver at moved
  split at moved
  · next source session found =>
    split at moved
    · cases moved
    · next x held =>
      split at moved
      · next pool => exact absurd (.inr ⟨rfl, source, session, x, found, held, pool⟩) failed
      · cases moved
        exact own_close s _
  · cases moved

/-- A step of the connection is not seen by the others, until it creates its session. -/
theorem step_own {a : Action D} (own : a.conn = some c) (alone : s.sessions.lookup c = none)
    (failed : ¬ Succeeds c s a) (moved : step digest s a = some t) :
    t.without c = s.without c ∨ ∃ p, t.pending c = some p := by
  have absent : ∀ {f : Session → Option Session}, s.onSession c f ≠ some t := by
    intro f moved
    obtain ⟨x, y, found, -⟩ := onSession_cases moved
    rw [alone] at found
    cases found
  cases a with
  | accept c' source =>
    cases own
    obtain ⟨-, ⟨⟩⟩ := Option.ite_none_right_eq_some.mp moved
    exact .inl (own_enter s _ _)
  | readControlHello c' d nonce =>
    cases own
    simp only [step, State.readControlHello] at moved
    split at moved
    · obtain ⟨-, ⟨⟩⟩ := Option.ite_none_right_eq_some.mp moved
      exact .inl (own_enter s _ _)
    · cases moved
  | readDataHello c' key =>
    cases own
    simp only [step, State.readDataHello] at moved
    split at moved <;> cases moved
    exact .inl (own_enter s _ _)
  | greet c' =>
    cases own
    simp only [step, State.greet] at moved
    split at moved <;> cases moved
    exact .inl (own_enter s _ _)
  | lookup c' =>
    cases own
    exact .inl (own_lookup moved)
  | readAuth c' d =>
    cases own
    exact .inl (own_readAuth moved)
  | connect c' now =>
    cases own
    obtain ⟨source, d, key, service, found, rfl | ⟨entry, -, rfl⟩⟩ := connect_cases moved
    · exact .inl (own_close s _)
    · exact .inr ⟨_, (pending_insert rfl).trans (if_pos rfl)⟩
  | register c' =>
    cases own
    exact absurd (.inl rfl) failed
  | route c' =>
    cases own
    exact .inl (own_route moved)
  | deliver c' =>
    cases own
    exact .inl (own_deliver moved failed)
  | ioError c' =>
    cases own
    simp only [step, State.ioError] at moved
    split at moved
    · split at moved <;> cases moved <;> exact .inl (own_close s _)
    · cases moved
  | deadline c' =>
    cases own
    obtain ⟨source, phase, -, -, rfl⟩ := deadline_cases moved
    exact .inl (own_close s _)
  | endTask c' stuck | takeDataChannel c' | endPool c' =>
    cases own
    exact absurd moved absent
  | disconnect c' now =>
    cases own
    obtain ⟨x, stuck, runtime, found, -⟩ := disconnect_cases moved
    rw [alone] at found
    cases found
  | _ => cases own

/-- A handshake with its handle in hand goes on or is cancelled. -/
theorem pending_stays {a : Action D} {p : Pending D} (pending : s.pending c = some p)
    (unstored : a ≠ .register c) (kept : a ≠ .deadline c) (moved : step digest s a = some t) :
    t.pending c = some p := by
  have insert : ∀ {c' : Nat} {conn : Conn D} {u : State D}, u.conns = s.conns.insert c' conn →
      c ≠ c' → u.pending c = some p := by
    intro c' conn u conns other
    rw [pending_insert conns, if_neg other, pending]
  cases updates : a.updates with
  | false => rw [(quiet_of_step moved updates).pending, pending]
  | true =>
    cases a with
    | connect c' now =>
      obtain ⟨source, d, key, service, found, rfl | ⟨entry, -, rfl⟩⟩ := connect_cases moved
      all_goals
        refine insert rfl ?_
        rintro rfl
        cases (pending_of_lookup found).symm.trans pending
    | register c' =>
      obtain ⟨source, d, key, service, stamp, found, rfl⟩ := register_cases moved
      refine insert rfl ?_
      rintro rfl
      exact unstored rfl
    | deadline c' =>
      obtain ⟨source, phase, -, -, rfl⟩ := deadline_cases moved
      refine insert rfl ?_
      rintro rfl
      exact kept rfl
    | endTask c' stuck =>
      obtain ⟨x, y, -, -, rfl⟩ := onSession_cases moved
      exact pending
    | disconnect c' now =>
      obtain ⟨x, stuck, runtime, -, -, -, rfl⟩ := disconnect_cases moved
      exact pending
    | reload e =>
      obtain ⟨-, ⟨⟩⟩ := Option.ite_none_right_eq_some.mp moved
      unfold State.handleHotReload
      split <;> exact pending
    | reloadServices =>
      obtain ⟨-, moved⟩ := Option.ite_none_right_eq_some.mp moved
      split at moved <;> cases moved <;> exact pending
    | reloadChannels =>
      obtain ⟨-, moved⟩ := Option.ite_none_right_eq_some.mp moved
      split at moved <;> cases moved <;> exact pending
    | _ => cases updates

/-- Only the handshake of `c` creates a session of `c`. -/
theorem session_absent {a : Action D} (alone : s.sessions.lookup c = none)
    (moved : step digest s a = some t) :
    t.sessions.lookup c = none ∨ ∃ p, t.pending c = some p := by
  have insert : ∀ {c' : Nat} {x y : Session}, s.sessions.lookup c' = some x →
      t.sessions = s.sessions.insert c' y → t.sessions.lookup c = none := by
    intro c' x y found sessions
    have other : c ≠ c' := by
      rintro rfl
      rw [alone] at found
      cases found
    rw [sessions, lookup_insert_eq, if_neg other, alone]
  have stays : t.sessions = s.sessions → t.sessions.lookup c = none := by
    intro sessions
    rw [sessions, alone]
  cases effect_of_step moved with
  | still conns sessions channels readers => exact .inl (stays sessions)
  | enter conns sessions channels readers before plain labels => exact .inl (stays sessions)
  | close before live conns sessions channels readers => exact .inl (stays sessions)
  | @connect c' now source d key service before conns sessions channels readers =>
    by_cases here : c = c'
    · exact .inr ⟨_, (pending_insert conns).trans (if_pos here)⟩
    · rw [sessions, lookup_insert_eq, if_neg here]
      exact .inl alone
  | register before free conns sessions channels readers => exact .inl (stays sessions)
  | route before found conns sessions channels readers => exact .inl (stays sessions)
  | deliver before found conns sessions channels readers => exact .inl (insert found sessions)
  | session found service queue conns sessions channels readers =>
    exact .inl (insert found sessions)
  | reload free conns sessions channels readers => exact .inl (stays sessions)

/-- The run without the connection, as long as it holds no handle of its own. -/
def Shadowed (digest : List UInt8 → D) (c : Nat) (start : State D) (as : List (Action D))
    (s : State D) : Prop :=
  (∃ p, s.pending c = some p) ∨ s.sessions.lookup c = none ∧
    (system digest).Run Free start (as.filter fun a => a.conn ≠ some c) (s.without c)

theorem Shadowed.step {a : Action D} (shadowed : Shadowed digest c start as s)
    (failed : ¬ Succeeds c s a) (keeps : KeepsHandle c s a) (moved : step digest s a = some t) :
    Shadowed digest c start (as ++ [a]) t := by
  rcases shadowed with ⟨p, pending⟩ | ⟨alone, run⟩
  · have unstored : a ≠ .register c := fun label => failed (.inl label)
    have kept : a ≠ .deadline c := by
      intro label
      have idle := keeps label
      rw [pending] at idle
      cases idle
    exact .inl ⟨p, pending_stays pending unstored kept moved⟩
  · rcases session_absent alone moved with alone' | pending
    · rw [Shadowed, List.filter_append]
      by_cases own : a.conn = some c
      · rcases step_own own alone failed moved with same | pending
        · have erased : [a].filter (fun a => a.conn ≠ some c) = [] := by simp [own]
          rw [erased, List.append_nil, same]
          exact .inr ⟨alone', run⟩
        · exact .inl pending
      · have kept : [a].filter (fun a => a.conn ≠ some c) = [a] := by simp [own]
        rw [kept]
        exact .inr ⟨alone', run.append (.single trivial (step_without own moved))⟩
    · exact .inl pending

/-- A connection that ends without success, and not by the deadline while it waits for the
map of control channels, leaves no trace. -/
theorem no_trace_of_keeps_handle (initial : (system digest).init start)
    (run : (system digest).Run (fun s a => ¬ Succeeds c s a ∧ KeepsHandle c s a) start as s)
    (failed : s.gone c) : LeavesNoTrace digest c start as s := by
  have shadowed : Shadowed digest c start as s := by
    refine run.history (fun _ _ _ _ _ allowed moved here => here.step allowed.1 allowed.2 moved) ?_
    obtain ⟨config, entries, processId, now, -, -, rfl⟩ := initial
    have same : (State.start digest config entries processId now).without c =
        State.start digest config entries processId now := by
      have empty : (∅ : HashMap Nat (Conn D)).erase c = ∅ := by
        apply Finmap.ext_lookup
        intro k
        rw [lookup_erase_eq]
        split <;> rfl
      simp only [State.without, State.start, empty, List.filter_nil]
    rw [Shadowed, List.filter_nil, same]
    exact .inr ⟨Finmap.lookup_empty c, .nil _⟩
  rcases shadowed with ⟨p, pending⟩ | ⟨-, shadow⟩
  · exact absurd failed (not_gone_of_pending pending)
  · exact ⟨_, shadow, rfl, rfl, rfl⟩

/-- The connection does not even try to succeed. -/
def fails (c : Nat) : Action D → Bool
  | .register c' | .deliver c' => c' ≠ c
  | _ => true

omit [DecidableEq D] in
theorem not_fails_of_conn {a : Action D} (label : a = .register c ∨ a = .deliver c) :
    fails c a = false := by
  rcases label with rfl | rfl <;> exact decide_eq_false fun other => other rfl

theorem not_succeeds_of_check (s : State D) (a : Action D) (passed : fails c a = true) :
    ¬ Succeeds c s a := by
  intro succeeds
  rw [not_fails_of_conn (succeeds.imp_right And.left)] at passed
  cases passed

/-- `KeepsHandle` as a check. -/
def keepsHandle (c : Nat) (s : State D) : Action D → Bool
  | .deadline c' => c' ≠ c ∨ (s.pending c).isNone
  | _ => true

theorem keeps_handle_of_check (s : State D) (a : Action D) (passed : keepsHandle c s a = true) :
    KeepsHandle c s a := by
  rintro rfl
  rcases of_decide_eq_true passed with other | idle
  · exact absurd rfl other
  · exact Option.isNone_iff_eq_none.mp idle

/-- The entry of a connected service. -/
def webConnected (source : SocketAddr) : RuntimeStatus.RuntimeServiceSnapshot :=
  .server ⟨.connected, some source, some 1000, none⟩

/-- Connection 1 fails the authentication for a service that is connected. -/
def webRefused : List (Action (List UInt8)) :=
  webHandshake 0 zeroNonce ++ webHello 1 ++ [.readAuth 1 (webKey oneNonce), .ioError 1]

theorem no_trace_auth_failed : ∃ as s, LeavesNoTrace id 1 (webServer "old") as s ∧
    s.runtime.services.lookup "web" = some (webConnected (.v4 1 0)) := by
  have executed : ((system id).exec (fun s a => fails 1 a && keepsHandle 1 s a) (webServer "old")
      webRefused).any
      (fun s => s.conns.lookup 1 = some ⟨.v4 1 1, .closed⟩ ∧
        s.runtime.services.lookup "web" = some (webConnected (.v4 1 0))) = true := by
    decide +kernel
  obtain ⟨s, done, ended⟩ := (Option.any_eq_true _ _).mp executed
  obtain ⟨gone, entry⟩ := of_decide_eq_true ended
  have run : (system id).Run (fun s a => ¬ Succeeds 1 s a ∧ KeepsHandle 1 s a) (webServer "old")
      webRefused s := by
    refine Transition.System.run_of_exec ?_ done
    intro s a passed
    obtain ⟨failed, keeps⟩ := Bool.and_eq_true_iff.mp passed
    exact ⟨not_succeeds_of_check s a failed, keeps_handle_of_check s a keeps⟩
  exact ⟨_, s, no_trace_of_keeps_handle (webServer_init "old") run ⟨_, gone⟩, entry⟩

/-- Connection 1 authenticates for the service of the live session 0, and its deadline
expires while stream 2 holds a read guard of the map. -/
def webCancelled : List (Action (List UInt8)) :=
  webHandshake 0 zeroNonce ++ [.accept 2 (.v4 1 2), .readDataHello 2 (webKey zeroNonce), .route 2] ++
    webHello 1 ++ webAuth 1 "old" ++ [.deadline 1, .endTask 1 false, .disconnect 1 2000]

/-- The entry of the live session is lost to the one that was cancelled. -/
theorem trace_of_cancelled_handshake :
    ¬ ∀ (D : Type) (_ : DecidableEq D) (digest : List UInt8 → D), Function.Injective digest →
      ∀ start s as c, (system digest).init start →
        (system digest).Run (fun s a => ¬ Succeeds c s a) start as s → s.gone c →
        LeavesNoTrace digest c start as s := by
  intro clean
  have executed : ((system id).exec (fun _ a => fails 1 a) (webServer "old") webCancelled).any
      (fun s => s.conns.lookup 1 = some ⟨.v4 1 1, .closed⟩ ∧
        s.runtime.services.lookup "web" ≠ some (webConnected (.v4 1 0))) = true := by
    decide +kernel
  obtain ⟨s, done, ended⟩ := (Option.any_eq_true _ _).mp executed
  obtain ⟨gone, entry⟩ := of_decide_eq_true ended
  have run : (system id).Run (fun s a => ¬ Succeeds 1 s a) (webServer "old") webCancelled s :=
    Transition.System.run_of_exec not_succeeds_of_check done
  obtain ⟨s', shadow, -, -, same⟩ := clean _ _ id Function.injective_id _ _ _ 1
    (webServer_init "old") run ⟨_, gone⟩
  have without : ((system id).exec (fun _ _ => true) (webServer "old")
      (webCancelled.filter fun a => a.conn ≠ some 1)).any
      (fun s' => s'.runtime.services.lookup "web" = some (webConnected (.v4 1 0))) = true := by
    decide +kernel
  rw [shadow.exec] at without
  exact entry (same ▸ of_decide_eq_true without)

end Own

end Rathole.Server
