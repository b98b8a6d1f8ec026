import Rathole.ServerFrame

set_option autoImplicit false

/- Every config of the service table, and every config a connection task holds, is
named by the digest it is stored or was looked up under. -/
namespace Rathole.Server

variable {D : Type} [DecidableEq D] {digest : List UInt8 → D} {s t : State D}

/-- The config a connection task holds is named by the digest it was looked up under. -/
def Phase.Named (digest : List UInt8 → D) : Phase D → Prop
  | .authenticating d _ service | .accepting d _ service | .registering d _ service _ =>
    digest (asBytes service.name) = d
  | _ => True

structure Named (digest : List UInt8 → D) (s : State D) : Prop where
  services : ∀ d service, s.services.lookup d = some service → digest (asBytes service.name) = d
  phases : ∀ c conn, s.conns.lookup c = some conn → conn.phase.Named digest

theorem Named.enter (named : Named digest s) {c : Nat} {source : SocketAddr} {phase : Phase D}
    (conns : t.conns = s.conns.insert c ⟨source, phase⟩) (services : t.services = s.services)
    (next : phase.Named digest) : Named digest t := by
  refine ⟨by rw [services]; exact named.services, fun c' conn found => ?_⟩
  rw [conns, lookup_insert_eq] at found
  split at found
  · cases found
    exact next
  · exact named.phases c' conn found

theorem Named.keep (named : Named digest s) (services : t.services = s.services)
    (conns : t.conns = s.conns) : Named digest t :=
  ⟨by rw [services]; exact named.services, by rw [conns]; exact named.phases⟩

theorem Named.lookup {c : Nat} (named : Named digest s) (moved : s.lookup c = some t) :
    Named digest t := by
  unfold State.lookup at moved
  split at moved
  · next source d nonce found =>
    split at moved
    · cases moved
    · split at moved
      · cases moved
        exact named.enter rfl rfl trivial
      · next service held =>
        split at moved
        · cases moved
          exact named.enter rfl rfl trivial
        · cases moved
          exact named.enter rfl rfl (named.services d service held)
  · cases moved

theorem Named.readAuth {c : Nat} {d : D} (named : Named digest s)
    (moved : s.readAuth digest c d = some t) : Named digest t := by
  unfold State.readAuth at moved
  split at moved
  · next source service_digest concat service found =>
    have same := named.phases c _ found
    dsimp only at moved
    split at moved <;> cases moved
    · exact named.enter rfl rfl same
    · exact named.enter rfl rfl trivial
  · cases moved

theorem Named.connect {c now : Nat} (named : Named digest s)
    (moved : s.connect c now = some t) : Named digest t := by
  obtain ⟨source, d, key, service, found, rfl | ⟨entry, -, rfl⟩⟩ := connect_cases moved
  · exact named.enter rfl rfl trivial
  · exact named.enter rfl rfl (named.phases c _ found)

theorem Named.deliver {c : Nat} (named : Named digest s) (moved : s.deliver c = some t) :
    Named digest t := by
  unfold State.deliver at moved
  split at moved
  · split at moved
    · cases moved
    · split at moved
      · obtain ⟨-, ⟨⟩⟩ := Option.ite_none_right_eq_some.mp moved
        exact named.enter rfl rfl trivial
      · cases moved
        exact named.enter rfl rfl trivial
  · cases moved

theorem Named.reloadServices (named : Named digest s)
    (moved : s.reloadServices digest = some t) : Named digest t := by
  obtain ⟨-, moved⟩ := Option.ite_none_right_eq_some.mp moved
  split at moved
  · cases moved
    refine ⟨fun d service found => ?_, named.phases⟩
    rw [lookup_insert_eq] at found
    split at found
    · next same =>
      cases found
      exact same.symm
    · exact named.services d service found
  · cases moved
    refine ⟨fun d service found => ?_, named.phases⟩
    rw [lookup_erase_eq] at found
    split at found
    · cases found
    · exact named.services d service found
  · cases moved

theorem Named.step {a : Action D} (named : Named digest s) (moved : step digest s a = some t) :
    Named digest t := by
  cases a with
  | accept c source =>
    obtain ⟨-, ⟨⟩⟩ := Option.ite_none_right_eq_some.mp moved
    exact named.enter rfl rfl trivial
  | readControlHello c d nonce =>
    simp only [Server.step, State.readControlHello] at moved
    split at moved
    · obtain ⟨-, ⟨⟩⟩ := Option.ite_none_right_eq_some.mp moved
      exact named.enter rfl rfl trivial
    · cases moved
  | readDataHello c key =>
    simp only [Server.step, State.readDataHello] at moved
    split at moved <;> cases moved
    exact named.enter rfl rfl trivial
  | greet c =>
    simp only [Server.step, State.greet] at moved
    split at moved <;> cases moved
    exact named.enter rfl rfl trivial
  | lookup c => exact named.lookup moved
  | readAuth c d => exact named.readAuth moved
  | connect c now => exact named.connect moved
  | register c =>
    obtain ⟨source, d, key, service, stamp, -, rfl⟩ := register_cases moved
    exact named.enter rfl rfl trivial
  | route c =>
    simp only [Server.step, State.route] at moved
    split at moved
    · split at moved <;> cases moved <;> exact named.enter rfl rfl trivial
    · cases moved
  | deliver c => exact named.deliver moved
  | ioError c =>
    simp only [Server.step, State.ioError] at moved
    split at moved
    · split at moved <;> cases moved <;> exact named.enter rfl rfl trivial
    · cases moved
  | deadline c =>
    obtain ⟨source, phase, -, -, rfl⟩ := deadline_cases moved
    exact named.enter rfl rfl trivial
  | endTask c stuck | takeDataChannel c | endPool c =>
    obtain ⟨x, y, -, -, rfl⟩ := onSession_cases moved
    exact named.keep rfl rfl
  | disconnect c now =>
    obtain ⟨x, stuck, runtime, -, -, -, rfl⟩ := disconnect_cases moved
    exact named.keep rfl rfl
  | reload e =>
    obtain ⟨-, ⟨⟩⟩ := Option.ite_none_right_eq_some.mp moved
    unfold State.handleHotReload
    split <;> exact named.keep rfl rfl
  | reloadServices => exact named.reloadServices moved
  | reloadChannels =>
    obtain ⟨-, moved⟩ := Option.ite_none_right_eq_some.mp moved
    split at moved <;> cases moved <;> exact named.keep rfl rfl
  | shutdown =>
    obtain ⟨-, ⟨⟩⟩ := Option.ite_none_right_eq_some.mp moved
    exact named.keep rfl rfl

/-- `generate_service_hashmap` stores each service under the digest of its name. -/
theorem lookup_generateServiceHashmap {entries : List (String × ServerServiceConfig)} {d : D}
    {service : ServerServiceConfig}
    (found : (generateServiceHashmap digest entries).lookup d = some service) :
    ∃ name, (name, service) ∈ entries ∧ digest (asBytes name) = d := by
  unfold generateServiceHashmap at found
  have general : ∀ (entries : List (String × ServerServiceConfig)) (m : HashMap D _),
      (entries.foldl (fun ret u => ret.insert (digest (asBytes u.1)) u.2) m).lookup d =
        some service →
      m.lookup d = some service ∨ ∃ name, (name, service) ∈ entries ∧ digest (asBytes name) = d := by
    intro entries
    induction entries with
    | nil => exact fun m found => .inl found
    | cons u rest ih =>
      intro m found
      rcases ih _ found with before | ⟨name, member, same⟩
      · rw [lookup_insert_eq] at before
        split at before
        · next same =>
          cases before
          exact .inr ⟨u.1, List.mem_cons_self, same.symm⟩
        · exact .inl before
      · exact .inr ⟨name, List.mem_cons_of_mem _ member, same⟩
  rcases general entries ∅ found with absent | present
  · simp at absent
  · exact present

theorem Named.start (initial : (system digest).init s) : Named digest s := by
  obtain ⟨config, entries, processId, now, enumerates, names, rfl⟩ := initial
  refine ⟨fun d service found => ?_, fun c conn found => absurd found (by simp [State.start])⟩
  obtain ⟨name, member, same⟩ := lookup_generateServiceHashmap found
  rw [names name service ((enumerates.mem_iff name service).mp member)]
  exact same

theorem named_of_reach (reached : (system digest).Reachable s) : Named digest s :=
  reached.invariant (fun _ initial => .start initial) fun _ _ _ _ moved named => named.step moved

end Rathole.Server
