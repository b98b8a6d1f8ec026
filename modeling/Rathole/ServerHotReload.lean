import Rathole.ServerFrame

set_option autoImplicit false

/- Handles in `control_channels` against the configs in `services`, while
handshakes and hot reloads interleave. -/
namespace Rathole.Server

variable {D : Type} [DecidableEq D] {digest : List UInt8 → D} {s t : State D}

/-- The reload has updated `services` and is still to clear the handle under `d`. -/
def Reload.clears : Reload D → D → Prop
  | .added _ hash _, d | .deleted _ hash _, d => hash = d
  | _, _ => False

/-- Every stored handle was created from the config `services` maps its digest to. -/
def HandlesCurrent (s : State D) : Prop :=
  s.reload = .idle → ∀ d handle, s.controlChannels.get1 d = some handle →
    s.services.lookup d = some handle.service

/-- A handshake stores its handle only while `services` maps the digest to the
config it looked up, or while the reload that changed it is still to clear it. -/
def StoresCurrent (s : State D) (a : Action D) : Prop :=
  ∀ c p, a = .register c → s.pending c = some p →
    s.services.lookup p.digest = some p.service ∨ s.reload.clears p.digest

/-- `HandlesCurrent`, with the reload under way taken into account. -/
def HandlesTracked (s : State D) : Prop :=
  ∀ d handle, s.controlChannels.get1 d = some handle →
    s.services.lookup d = some handle.service ∨ s.reload.clears d

theorem HandlesTracked.current (tracked : HandlesTracked s) : HandlesCurrent s := by
  intro idle d handle held
  rcases tracked d handle held with found | clears
  · exact found
  · rw [idle] at clears
    exact clears.elim

theorem HandlesTracked.same (tracked : HandlesTracked s) (services : t.services = s.services)
    (channels : t.controlChannels = s.controlChannels) (reload : t.reload = s.reload) :
    HandlesTracked t := by
  intro d handle held
  rw [services, reload]
  rw [channels] at held
  exact tracked d handle held

theorem HandlesTracked.connect {c now : Nat} (tracked : HandlesTracked s)
    (moved : s.connect c now = some t) : HandlesTracked t := by
  obtain ⟨source, d, key, service, -, rfl | ⟨entry, -, rfl⟩⟩ := connect_cases moved
  · exact tracked.same rfl rfl rfl
  · exact tracked.same rfl rfl rfl

theorem HandlesTracked.register {c : Nat} (tracked : HandlesTracked s)
    (stores : StoresCurrent s (.register c)) (moved : s.register c = some t) :
    HandlesTracked t := by
  obtain ⟨source, d, key, service, stamp, found, rfl⟩ := register_cases moved
  have current := stores c _ rfl (pending_of_lookup found)
  intro d' handle held
  rcases get1_registered held with ⟨rfl, rfl⟩ | ⟨-, before⟩
  · exact current
  · exact tracked d' handle before

theorem HandlesTracked.reload (tracked : HandlesTracked s) (idle : s.reload = .idle)
    (e : ConfigChange) : HandlesTracked (s.handleHotReload e) := by
  have found : ∀ d handle, s.controlChannels.get1 d = some handle →
      s.services.lookup d = some handle.service := tracked.current idle
  unfold State.handleHotReload
  split
  · exact fun d handle held => .inl (found d handle held)
  · exact fun d handle held => .inl (found d handle held)
  · exact tracked

theorem HandlesTracked.reloadServices (tracked : HandlesTracked s)
    (moved : s.reloadServices digest = some t) : HandlesTracked t := by
  obtain ⟨-, moved⟩ := Option.ite_none_right_eq_some.mp moved
  split at moved
  · next cfg stamp adding =>
    cases moved
    intro d handle held
    by_cases changed : digest (asBytes cfg.name) = d
    · exact .inr changed
    · refine .inl ?_
      rw [lookup_insert_eq, if_neg (Ne.symm changed)]
      simpa [adding, Reload.clears] using tracked d handle held
  · next name stamp deleting =>
    cases moved
    intro d handle held
    by_cases changed : digest (asBytes name) = d
    · exact .inr changed
    · refine .inl ?_
      rw [lookup_erase_eq, if_neg (Ne.symm changed)]
      simpa [deleting, Reload.clears] using tracked d handle held
  · cases moved

theorem HandlesTracked.reloadChannels (tracked : HandlesTracked s)
    (moved : s.reloadChannels = some t) : HandlesTracked t := by
  obtain ⟨-, moved⟩ := Option.ite_none_right_eq_some.mp moved
  have cleared : ∀ hash, (∀ d, s.reload.clears d → hash = d) →
      HandlesTracked { s with
        controlChannels := (s.controlChannels.remove1 hash).2, reload := .idle } := by
    intro hash only d handle held
    rw [MultiMap.get1_remove1] at held
    split at held
    · cases held
    · next other =>
      rcases tracked d handle held with found | clears
      · exact .inl found
      · exact absurd (only d clears).symm other
  split at moved
  · next name hash stamp added =>
    cases moved
    exact cleared hash fun d clears => by simpa [added, Reload.clears] using clears
  · next name hash stamp deleted =>
    cases moved
    exact cleared hash fun d clears => by simpa [deleted, Reload.clears] using clears
  · cases moved

theorem HandlesTracked.step {a : Action D} (tracked : HandlesTracked s)
    (stores : StoresCurrent s a) (moved : step digest s a = some t) : HandlesTracked t := by
  cases updates : a.updates with
  | false =>
    have quiet := quiet_of_step moved updates
    exact tracked.same quiet.services quiet.channels quiet.reload
  | true =>
    cases a with
    | connect c now => exact tracked.connect moved
    | register c => exact tracked.register stores moved
    | deadline c =>
      obtain ⟨source, phase, -, -, rfl⟩ := deadline_cases moved
      exact tracked.same rfl rfl rfl
    | endTask c stuck =>
      obtain ⟨x, y, -, -, rfl⟩ := onSession_cases moved
      exact tracked.same rfl rfl rfl
    | disconnect c now =>
      obtain ⟨x, stuck, runtime, -, -, -, rfl⟩ := disconnect_cases moved
      exact tracked.same rfl rfl rfl
    | reload e =>
      obtain ⟨⟨-, idle⟩, ⟨⟩⟩ := Option.ite_none_right_eq_some.mp moved
      exact tracked.reload idle e
    | reloadServices => exact tracked.reloadServices moved
    | reloadChannels => exact tracked.reloadChannels moved
    | _ => cases updates

/-- In a run whose handshakes store only current handles, every stored handle is
current whenever no hot reload is in progress. -/
theorem handles_current_of_stores_current (reached : (system digest).Reach StoresCurrent s) :
    HandlesCurrent s := by
  have tracked : HandlesTracked s := by
    refine reached.invariant ?_ fun _ _ _ stores moved tracked => tracked.step stores moved
    rintro s ⟨config, entries, processId, now, -, -, rfl⟩ d handle held
    rw [show (State.start digest config entries processId now).controlChannels = .new from rfl,
      MultiMap.get1_new] at held
    cases held
  exact tracked.current

/-- A service of the runs on fixed inputs below. -/
def webService (token : String) : ServerServiceConfig :=
  ⟨.tcp, "web", "0.0.0.0:5202", some token, none⟩

/-- The server with the one service `web`, over digests that do not collide. -/
def webServer (token : String) : State (List UInt8) :=
  .start id ⟨"0.0.0.0:2333", none, (∅ : HashMap String _).insert "web" (webService token), .default,
    defaultHeartbeatInterval⟩ [("web", webService token)] 1 0

theorem webServer_init (token : String) : (system (D := List UInt8) id).init (webServer token) := by
  refine ⟨_, _, _, _, enumerates_single "web" (webService token), ?_, rfl⟩
  intro name service found
  obtain ⟨rfl, rfl⟩ := lookup_single found
  rfl

def zeroNonce : List UInt8 := List.replicate hashWidthInBytes 0

/-- A connection up to its authentication, and the authentication with a token. -/
def webHello (c : Nat) : List (Action (List UInt8)) :=
  [.accept c (.v4 1 c), .readControlHello c (asBytes "web") zeroNonce, .greet c, .lookup c]

def webAuth (c : Nat) (token : String) : List (Action (List UInt8)) :=
  [.readAuth c (asBytes token ++ zeroNonce), .connect c 1000]

/-- `StoresCurrent` with `services` still at the config looked up, as a check. -/
def storesCurrent (s : State D) : Action D → Bool
  | .register c =>
    match s.pending c with
    | some p => s.services.lookup p.digest = some p.service
    | none => true
  | _ => true

theorem stores_current_of_check (s : State D) (a : Action D) (passed : storesCurrent s a = true) :
    StoresCurrent s a := by
  rintro c p rfl pending
  simp only [storesCurrent, pending, decide_eq_true_eq] at passed
  exact .inl passed

/-- A reload between two handshakes changes the token: the handle with the old one goes, and the
one with the new token is stored. -/
theorem handles_current_undisturbed :
    ∃ s : State (List UInt8), (system id).Reach StoresCurrent s ∧
      s.services.lookup (asBytes "web") = some (webService "new") ∧
      s.controlChannels.get1 (asBytes "web") = some ⟨1, webService "new"⟩ ∧ HandlesCurrent s := by
  obtain ⟨s, reached, held⟩ := Transition.System.exists_reach (webServer_init "old")
    (webHello 0 ++ webAuth 0 "old" ++ [.register 0,
      .reload (.serverChange (.add (webService "new"))), .reloadServices, .reloadChannels] ++
      webHello 1 ++ webAuth 1 "new" ++ [.register 1])
    (fun s => s.services.lookup (asBytes "web") = some (webService "new") ∧
      s.controlChannels.get1 (asBytes "web") = some ⟨1, webService "new"⟩)
    storesCurrent stores_current_of_check (by decide +kernel)
  obtain ⟨service, handle⟩ := of_decide_eq_true held
  exact ⟨s, reached, service, handle, handles_current_of_stores_current reached⟩

/-- A token changed by hot reload while a handshake waits for the peer's auth: the
session that authenticated with the old token is registered. -/
theorem handle_stale_after_hot_reload :
    ¬ ∀ (D : Type) (_ : DecidableEq D) (digest : List UInt8 → D), Function.Injective digest →
      ∀ s, (system digest).Reachable s → HandlesCurrent s := by
  intro current
  obtain ⟨s, reached, held⟩ := Transition.System.exists_reachable (webServer_init "old")
    (webHello 0 ++ [.reload (.serverChange (.add (webService "new"))), .reloadServices,
      .reloadChannels] ++ webAuth 0 "old" ++ [.register 0])
    (fun s => s.reload = .idle ∧
      s.controlChannels.get1 (asBytes "web") = some ⟨0, webService "old"⟩ ∧
      s.services.lookup (asBytes "web") = some (webService "new"))
    (by decide +kernel)
  obtain ⟨idle, handle, service⟩ := of_decide_eq_true held
  have same := current _ _ id Function.injective_id s reached idle _ _ handle
  rw [service] at same
  exact absurd same (by decide)

/-- A stale handle that finds its key free is stored, and stays. -/
theorem handles_stale_of_register {c : Nat} {p : Pending D} (moved : s.register c = some t)
    (pending : s.pending c = some p) (idle : s.reload = .idle)
    (free : ∀ item, s.controlChannels.map2.lookup p.key = some item → item.1 = p.digest)
    (stale : s.services.lookup p.digest ≠ some p.service) : ¬ HandlesCurrent t := by
  obtain ⟨source, d, key, service, stamp, found, rfl⟩ := register_cases moved
  cases (pending_of_lookup found).symm.trans pending
  obtain ⟨channels, inserted, lookup⟩ := MultiMap.insert_ok (⟨c, service⟩ : Handle)
    (by rw [MultiMap.get1_remove1, if_pos rfl]) (MultiMap.get2_remove1_of_free free)
  intro current
  refine stale (current idle d ⟨c, service⟩ ?_)
  simp only [inserted, Except.toOption, Option.getD_some, lookup, if_pos]

end Rathole.Server
