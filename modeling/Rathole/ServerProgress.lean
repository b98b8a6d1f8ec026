import Rathole.ServerHotReload

set_option autoImplicit false

/- A hot reload of the server is never kept waiting for good: the tasks in front of it hold their
guards at most until their deadline. -/
namespace Rathole.Server

variable {D : Type} [DecidableEq D] {digest : List UInt8 → D} {s t : State D}

/-- A task in such a phase holds no read guard. -/
def Phase.Free : Phase D → Prop
  | .rejecting | .delivering _ => False
  | _ => True

/-- A read guard that is held over an await point belongs to a task that is still there. -/
structure Guarded (s : State D) : Prop where
  services : ∀ c ∈ s.serviceReaders, ∃ source, s.conns.lookup c = some ⟨source, .rejecting⟩
  channels : ∀ c ∈ s.channelReaders, ∃ source session,
    s.conns.lookup c = some ⟨source, .delivering session⟩
  servicesNodup : s.serviceReaders.Nodup
  channelsNodup : s.channelReaders.Nodup

theorem Guarded.same (guarded : Guarded s) (conns : t.conns = s.conns)
    (services : t.serviceReaders = s.serviceReaders)
    (channels : t.channelReaders = s.channelReaders) : Guarded t := by
  refine ⟨?_, ?_, services ▸ guarded.servicesNodup, channels ▸ guarded.channelsNodup⟩
  · rw [services, conns]
    exact guarded.services
  · rw [channels, conns]
    exact guarded.channels

/-- A task that holds no guard is not among the readers. -/
theorem Guarded.free (guarded : Guarded s) {c : Nat}
    (free : ∀ conn, s.conns.lookup c = some conn → conn.phase.Free) :
    c ∉ s.serviceReaders ∧ c ∉ s.channelReaders := by
  constructor
  · intro member
    obtain ⟨source, found⟩ := guarded.services c member
    exact free _ found
  · intro member
    obtain ⟨source, session, found⟩ := guarded.channels c member
    exact free _ found

omit [DecidableEq D] in
theorem lookup_insert_other {conns : HashMap Nat (Conn D)} {c c' : Nat} {conn : Conn D}
    (other : c' ≠ c) : (conns.insert c conn).lookup c' = conns.lookup c' := by
  rw [lookup_insert_eq, if_neg other]

theorem Guarded.enter (guarded : Guarded s) {c : Nat} {conn : Conn D}
    (free : ∀ conn, s.conns.lookup c = some conn → conn.phase.Free)
    (conns : t.conns = s.conns.insert c conn) (services : t.serviceReaders = s.serviceReaders)
    (channels : t.channelReaders = s.channelReaders) : Guarded t := by
  obtain ⟨notService, notChannel⟩ := guarded.free free
  refine ⟨fun c' member => ?_, fun c' member => ?_, services ▸ guarded.servicesNodup,
    channels ▸ guarded.channelsNodup⟩
  · rw [services] at member
    have other : c' ≠ c := fun same => notService (same ▸ member)
    rw [conns, lookup_insert_other other]
    exact guarded.services c' member
  · rw [channels] at member
    have other : c' ≠ c := fun same => notChannel (same ▸ member)
    rw [conns, lookup_insert_other other]
    exact guarded.channels c' member

theorem Guarded.enterFrom (guarded : Guarded s) {c : Nat} {source : SocketAddr}
    {phase : Phase D} {conn : Conn D} (found : s.conns.lookup c = some ⟨source, phase⟩)
    (free : phase.Free) (conns : t.conns = s.conns.insert c conn)
    (services : t.serviceReaders = s.serviceReaders)
    (channels : t.channelReaders = s.channelReaders) : Guarded t := by
  refine guarded.enter (fun conn held => ?_) conns services channels
  rw [found] at held
  cases held
  exact free

theorem Guarded.close (guarded : Guarded s) {c : Nat} {conn : Conn D}
    (conns : t.conns = s.conns.insert c conn)
    (services : t.serviceReaders = s.serviceReaders.erase c)
    (channels : t.channelReaders = s.channelReaders.erase c) : Guarded t := by
  refine ⟨fun c' member => ?_, fun c' member => ?_, services ▸ guarded.servicesNodup.erase c,
    channels ▸ guarded.channelsNodup.erase c⟩
  · rw [services, guarded.servicesNodup.mem_erase_iff] at member
    rw [conns, lookup_insert_other member.1]
    exact guarded.services c' member.2
  · rw [channels, guarded.channelsNodup.mem_erase_iff] at member
    rw [conns, lookup_insert_other member.1]
    exact guarded.channels c' member.2

theorem Guarded.lookup {c : Nat} (guarded : Guarded s) (moved : s.lookup c = some t) :
    Guarded t := by
  unfold State.lookup at moved
  split at moved
  · next source d nonce found =>
    split at moved
    · cases moved
    · split at moved
      · cases moved
        have entered : Guarded (s.enter c source .rejecting) :=
          guarded.enterFrom found trivial rfl rfl rfl
        have outside : c ∉ s.serviceReaders := (guarded.free fun conn held => by
          rw [found] at held
          cases held
          exact trivial).1
        refine ⟨fun c' member => ?_, entered.channels, List.nodup_cons.mpr
          ⟨outside, guarded.servicesNodup⟩, entered.channelsNodup⟩
        rcases List.mem_cons.mp member with rfl | member
        · exact ⟨source, Finmap.lookup_insert _⟩
        · exact entered.services c' member
      · split at moved
        · cases moved
          exact guarded.close rfl rfl rfl
        · cases moved
          exact guarded.enterFrom found trivial rfl rfl rfl
  · cases moved

theorem Guarded.route {c : Nat} (guarded : Guarded s) (moved : s.route c = some t) :
    Guarded t := by
  unfold State.route at moved
  split at moved
  · next source key found =>
    split at moved
    · cases moved
      exact guarded.close rfl rfl rfl
    · next handle held =>
      cases moved
      have entered : Guarded (s.enter c source (.delivering handle.session)) :=
        guarded.enterFrom found trivial rfl rfl rfl
      have outside : c ∉ s.channelReaders := (guarded.free fun conn held => by
        rw [found] at held
        cases held
        exact trivial).2
      refine ⟨entered.services, fun c' member => ?_, entered.servicesNodup, List.nodup_cons.mpr
        ⟨outside, guarded.channelsNodup⟩⟩
      rcases List.mem_cons.mp member with rfl | member
      · exact ⟨source, handle.session, Finmap.lookup_insert _⟩
      · exact entered.channels c' member
  · cases moved

theorem Guarded.deliver {c : Nat} (guarded : Guarded s) (moved : s.deliver c = some t) :
    Guarded t := by
  unfold State.deliver at moved
  split at moved
  · split at moved
    · cases moved
    · split at moved
      · obtain ⟨-, ⟨⟩⟩ := Option.ite_none_right_eq_some.mp moved
        exact guarded.close rfl rfl rfl
      · cases moved
        exact guarded.close rfl rfl rfl
  · cases moved

theorem Guarded.readAuth {c : Nat} {d : D} (guarded : Guarded s)
    (moved : s.readAuth digest c d = some t) : Guarded t := by
  unfold State.readAuth at moved
  split at moved
  · next source service_digest concat service found =>
    dsimp only at moved
    split at moved
    · cases moved
      exact guarded.enterFrom found trivial rfl rfl rfl
    · cases moved
      exact guarded.enterFrom found trivial rfl rfl rfl
  · cases moved

theorem Guarded.ioError {c : Nat} (guarded : Guarded s) (moved : s.ioError c = some t) :
    Guarded t := by
  unfold State.ioError at moved
  split at moved
  · split at moved
    all_goals first
      | cases moved
        exact guarded.close rfl rfl rfl
      | cases moved
  · cases moved

theorem Guarded.register {c : Nat} (guarded : Guarded s) (moved : s.register c = some t) :
    Guarded t := by
  obtain ⟨source, d, key, service, stamp, -, rfl⟩ := register_cases moved
  exact guarded.close rfl rfl rfl

theorem Guarded.connect {c now : Nat} (guarded : Guarded s) (moved : s.connect c now = some t) :
    Guarded t := by
  obtain ⟨source, d, key, service, found, rfl | ⟨entry, -, rfl⟩⟩ := connect_cases moved
  · exact guarded.close rfl rfl rfl
  · exact guarded.enterFrom found trivial rfl rfl rfl

theorem Guarded.onSession {c : Nat} {f : Session → Option Session} (guarded : Guarded s)
    (moved : s.onSession c f = some t) : Guarded t := by
  obtain ⟨x, y, -, -, rfl⟩ := onSession_cases moved
  exact guarded.same rfl rfl rfl

theorem Guarded.step {a : Action D} (guarded : Guarded s) (moved : step digest s a = some t) :
    Guarded t := by
  cases a with
  | accept c source =>
    obtain ⟨⟨-, -, absent⟩, ⟨⟩⟩ := Option.ite_none_right_eq_some.mp moved
    refine guarded.enter (fun conn held => ?_) rfl rfl rfl
    rw [absent] at held
    cases held
  | readControlHello c d nonce =>
    simp only [Server.step, State.readControlHello] at moved
    split at moved
    · next source found =>
      obtain ⟨-, ⟨⟩⟩ := Option.ite_none_right_eq_some.mp moved
      exact guarded.enterFrom found trivial rfl rfl rfl
    · cases moved
  | readDataHello c key =>
    simp only [Server.step, State.readDataHello] at moved
    split at moved
    · next source found =>
      cases moved
      exact guarded.enterFrom found trivial rfl rfl rfl
    · cases moved
  | greet c =>
    simp only [Server.step, State.greet] at moved
    split at moved
    · next source d nonce found =>
      cases moved
      exact guarded.enterFrom found trivial rfl rfl rfl
    · cases moved
  | lookup c => exact guarded.lookup moved
  | readAuth c d => exact guarded.readAuth moved
  | connect c now => exact guarded.connect moved
  | register c => exact guarded.register moved
  | route c => exact guarded.route moved
  | deliver c => exact guarded.deliver moved
  | ioError c => exact guarded.ioError moved
  | deadline c =>
    obtain ⟨source, phase, -, -, rfl⟩ := deadline_cases moved
    exact guarded.close rfl rfl rfl
  | endTask c stuck => exact guarded.onSession moved
  | disconnect c now =>
    obtain ⟨x, stuck, runtime, -, -, -, rfl⟩ := disconnect_cases moved
    exact guarded.same rfl rfl rfl
  | takeDataChannel c => exact guarded.onSession moved
  | endPool c => exact guarded.onSession moved
  | reload e =>
    obtain ⟨-, ⟨⟩⟩ := Option.ite_none_right_eq_some.mp moved
    unfold State.handleHotReload
    split
    · exact guarded.same rfl rfl rfl
    · exact guarded.same rfl rfl rfl
    · exact guarded
  | reloadServices =>
    obtain ⟨-, moved⟩ := Option.ite_none_right_eq_some.mp moved
    split at moved
    · cases moved
      exact guarded.same rfl rfl rfl
    · cases moved
      exact guarded.same rfl rfl rfl
    · cases moved
  | reloadChannels =>
    obtain ⟨-, moved⟩ := Option.ite_none_right_eq_some.mp moved
    split at moved
    · cases moved
      exact guarded.same rfl rfl rfl
    · cases moved
      exact guarded.same rfl rfl rfl
    · cases moved
  | shutdown =>
    obtain ⟨-, ⟨⟩⟩ := Option.ite_none_right_eq_some.mp moved
    exact guarded.same rfl rfl rfl

theorem guarded_of_reach (reached : (system digest).Reachable s) : Guarded s := by
  refine reached.invariant ?_ fun _ _ _ _ moved guarded => guarded.step moved
  rintro s ⟨config, entries, processId, now, -, -, rfl⟩
  exact ⟨fun c member => (List.not_mem_nil member).elim,
    fun c member => (List.not_mem_nil member).elim, List.nodup_nil, List.nodup_nil⟩

/-- Nothing has happened but that some tasks ran into their deadline. -/
structure Expired (s t : State D) (cs : List Nat) : Prop where
  config : t.config = s.config
  running : t.running = s.running
  services : t.services = s.services
  controlChannels : t.controlChannels = s.controlChannels
  runtime : t.runtime = s.runtime
  sessions : t.sessions = s.sessions
  reload : t.reload = s.reload
  serviceReaders : ∀ c ∈ t.serviceReaders, c ∈ s.serviceReaders ∧ c ∉ cs
  channelReaders : ∀ c ∈ t.channelReaders, c ∈ s.channelReaders ∧ c ∉ cs
  conns : ∀ c, c ∉ cs → t.conns.lookup c = s.conns.lookup c

variable (digest) in
/-- The deadlines of tasks that are still there can pass, one after the other. -/
theorem run_deadlines {cs : List Nat} (guarded : Guarded s) (distinct : cs.Nodup)
    (live : ∀ c ∈ cs, ∃ source phase, s.conns.lookup c = some ⟨source, phase⟩ ∧ phase ≠ .closed) :
    ∃ t, (system digest).Run Transition.System.Free s (cs.map .deadline) t ∧ Expired s t cs := by
  induction cs generalizing s with
  | nil =>
    have kept : ∀ {readers : List Nat}, ∀ c ∈ readers, c ∈ readers ∧ c ∉ ([] : List Nat) :=
      fun c member => ⟨member, List.not_mem_nil⟩
    exact ⟨s, .nil s, rfl, rfl, rfl, rfl, rfl, rfl, rfl, kept, kept, fun _ _ => rfl⟩
  | cons c cs ih =>
    obtain ⟨other, distinct⟩ := List.nodup_cons.mp distinct
    obtain ⟨source, phase, found, here⟩ := live c List.mem_cons_self
    have moved : step digest s (.deadline c) = some (s.close c source) := by
      simp only [step, State.deadline, found, here, if_false]
    have still : ∀ c' ∈ cs, (s.close c source).conns.lookup c' = s.conns.lookup c' :=
      fun c' member => lookup_insert_other fun same => other (same ▸ member)
    obtain ⟨t, run, expired⟩ := ih (guarded.step moved) distinct fun c' member => by
      rw [still c' member]
      exact live c' (List.mem_cons_of_mem c member)
    have erased : ∀ {readers : List Nat}, readers.Nodup → ∀ c', c' ∈ readers.erase c ∧ c' ∉ cs →
        c' ∈ readers ∧ c' ∉ c :: cs := by
      intro readers nodup c' held
      obtain ⟨apart, member⟩ := nodup.mem_erase_iff.mp held.1
      exact ⟨member, fun listed => (List.mem_cons.mp listed).elim apart held.2⟩
    refine ⟨t, .cons trivial moved run, expired.config, expired.running, expired.services,
      expired.controlChannels, expired.runtime, expired.sessions, expired.reload,
      fun c' member => erased guarded.servicesNodup c' (expired.serviceReaders c' member),
      fun c' member => erased guarded.channelsNodup c' (expired.channelReaders c' member),
      fun c' outside => ?_⟩
    rw [expired.conns c' fun member => outside (List.mem_cons_of_mem c member)]
    exact lookup_insert_other fun same => outside (same ▸ List.mem_cons_self)

/-- The digest of the service that a reload is about. -/
def Reload.hash (digest : List UInt8 → D) : Reload D → Option D
  | .idle => none
  | .adding cfg _ => some (digest (asBytes cfg.name))
  | .deleting name _ => some (digest (asBytes name))
  | .added _ hash _ | .deleted _ hash _ => some hash

/-- The services once the reload has updated them. -/
def Reload.update (digest : List UInt8 → D) (services : HashMap D ServerServiceConfig) :
    Reload D → HashMap D ServerServiceConfig
  | .adding cfg _ => services.insert (digest (asBytes cfg.name)) cfg
  | .deleting name _ => services.erase (digest (asBytes name))
  | _ => services

/-- The reload is done, and has done only what it is for. -/
structure Completed (digest : List UInt8 → D) (s t : State D) : Prop where
  idle : t.reload = .idle
  services : t.services = s.reload.update digest s.services
  channels : ∀ d ∈ s.reload.hash digest, t.controlChannels = (s.controlChannels.remove1 d).2
  config : t.config = s.config
  running : t.running = s.running
  runtime : t.runtime = s.runtime
  sessions : t.sessions = s.sessions
  conns : ∀ c, c ∉ s.serviceReaders → c ∉ s.channelReaders → t.conns.lookup c = s.conns.lookup c

variable (digest) in
/-- Nobody is in front of the reload. -/
theorem completed_of_free (services : s.serviceReaders = []) (channels : s.channelReaders = [])
    (busy : s.reload ≠ .idle) :
    ∃ as t, (system digest).Run Transition.System.Free s as t ∧
      (∀ a ∈ as, a = .reloadServices ∨ a = .reloadChannels) ∧ as.length ≤ 2 ∧
      Completed digest s t := by
  have clear : ∀ {u : State D} {hash : D}, u.serviceReaders = [] → u.channelReaders = [] →
      (∃ name stamp, u.reload = .added name hash stamp ∨ u.reload = .deleted name hash stamp) →
      (system digest).step u .reloadChannels = some { u with
        controlChannels := (u.controlChannels.remove1 hash).2, reload := .idle } := by
    rintro u hash - channels ⟨name, stamp, here | here⟩
    · simp only [system, step, State.reloadChannels, channels, if_true, here]
    · simp only [system, step, State.reloadChannels, channels, if_true, here]
  cases here : s.reload with
  | idle => exact absurd here busy
  | adding cfg stamp =>
    have first : (system digest).step s .reloadServices = some { s with
        services := s.services.insert (digest (asBytes cfg.name)) cfg
        reload := .added cfg.name (digest (asBytes cfg.name)) stamp } := by
      simp only [system, step, State.reloadServices, services, if_true, here]
    refine ⟨[.reloadServices, .reloadChannels], _, .cons trivial first (.single trivial
      (clear services channels ⟨_, _, .inl rfl⟩)), by simp, by simp, rfl, ?_, ?_, rfl, rfl, rfl,
      rfl, fun _ _ _ => rfl⟩
    · rw [here]
      rfl
    · rw [here]
      rintro d ⟨⟩
      rfl
  | deleting name stamp =>
    have first : (system digest).step s .reloadServices = some { s with
        services := s.services.erase (digest (asBytes name))
        reload := .deleted name (digest (asBytes name)) stamp } := by
      simp only [system, step, State.reloadServices, services, if_true, here]
    refine ⟨[.reloadServices, .reloadChannels], _, .cons trivial first (.single trivial
      (clear services channels ⟨_, _, .inr rfl⟩)), by simp, by simp, rfl, ?_, ?_, rfl, rfl, rfl,
      rfl, fun _ _ _ => rfl⟩
    · rw [here]
      rfl
    · rw [here]
      rintro d ⟨⟩
      rfl
  | added name hash stamp =>
    refine ⟨[.reloadChannels], _, .single trivial (clear services channels ⟨_, _, .inl here⟩),
      by simp, by simp, rfl, ?_, ?_, rfl, rfl, rfl, rfl, fun _ _ _ => rfl⟩
    · rw [here]
      rfl
    · rw [here]
      rintro d ⟨⟩
      rfl
  | deleted name hash stamp =>
    refine ⟨[.reloadChannels], _, .single trivial (clear services channels ⟨_, _, .inr here⟩),
      by simp, by simp, rfl, ?_, ?_, rfl, rfl, rfl, rfl, fun _ _ _ => rfl⟩
    · rw [here]
      rfl
    · rw [here]
      rintro d ⟨⟩
      rfl

theorem Guarded.readers (guarded : Guarded s) :
    (s.serviceReaders ++ s.channelReaders).Nodup ∧
      ∀ c ∈ s.serviceReaders ++ s.channelReaders,
        ∃ source phase, s.conns.lookup c = some ⟨source, phase⟩ ∧ phase ≠ .closed := by
  constructor
  · refine List.nodup_append.mpr ⟨guarded.servicesNodup, guarded.channelsNodup, ?_⟩
    intro c service c' channel same
    obtain ⟨source, found⟩ := guarded.services c service
    obtain ⟨source', session, held⟩ := guarded.channels c' channel
    rw [← same, found] at held
    cases held
  · intro c member
    rcases List.mem_append.mp member with service | channel
    · obtain ⟨source, found⟩ := guarded.services c service
      exact ⟨source, _, found, by simp⟩
    · obtain ⟨source, session, found⟩ := guarded.channels c channel
      exact ⟨source, _, found, by simp⟩

/-- From every state in which a hot reload is under way, the reload gets done once the tasks that
hold a read guard have come to their deadline, and nothing else of the server changes. -/
theorem reload_completes (reached : (system digest).Reachable s) (busy : s.reload ≠ .idle) :
    ∃ as t, (system digest).Run Transition.System.Free s as t ∧ Completed digest s t ∧
      as.length ≤ s.serviceReaders.length + s.channelReaders.length + 2 ∧
      ∀ a ∈ as, a = .reloadServices ∨ a = .reloadChannels ∨
        ∃ c, a = .deadline c ∧ (c ∈ s.serviceReaders ∨ c ∈ s.channelReaders) := by
  have guarded := guarded_of_reach reached
  obtain ⟨distinct, live⟩ := guarded.readers
  obtain ⟨u, first, expired⟩ := run_deadlines digest guarded distinct live
  have services : u.serviceReaders = [] := by
    rw [List.eq_nil_iff_forall_not_mem]
    intro c member
    obtain ⟨held, outside⟩ := expired.serviceReaders c member
    exact outside (List.mem_append_left _ held)
  have channels : u.channelReaders = [] := by
    rw [List.eq_nil_iff_forall_not_mem]
    intro c member
    obtain ⟨held, outside⟩ := expired.channelReaders c member
    exact outside (List.mem_append_right _ held)
  obtain ⟨as, t, second, own, short, done⟩ :=
    completed_of_free digest services channels (expired.reload ▸ busy)
  refine ⟨_, t, first.append second, ?_, ?_, ?_⟩
  · refine ⟨done.idle, ?_, ?_, done.config.trans expired.config, done.running.trans expired.running,
      done.runtime.trans expired.runtime, done.sessions.trans expired.sessions, ?_⟩
    · rw [done.services, expired.reload, expired.services]
    · rw [← expired.reload, ← expired.controlChannels]
      exact done.channels
    · intro c service channel
      rw [done.conns c (by simp [services]) (by simp [channels]),
        expired.conns c (by simp [service, channel])]
  · simp only [List.length_append, List.length_map]
    omega
  · intro a member
    rcases List.mem_append.mp member with expires | other
    · obtain ⟨c, held, rfl⟩ := List.mem_map.mp expires
      exact .inr (.inr ⟨c, rfl, List.mem_append.mp held⟩)
    · exact (own a other).imp_right .inl

/-- A peer that does not read the rejection of an unknown service is in front of a reload. -/
theorem web_reload_completes :
    ∃ s : State (List UInt8), (system id).Reachable s ∧ s.serviceReaders = [0] ∧
      ∃ as t, (system id).Run Transition.System.Free s as t ∧ Completed id s t ∧
        as.length ≤ s.serviceReaders.length + s.channelReaders.length + 2 ∧
        ∀ a ∈ as, a = .reloadServices ∨ a = .reloadChannels ∨
          ∃ c, a = .deadline c ∧ (c ∈ s.serviceReaders ∨ c ∈ s.channelReaders) := by
  obtain ⟨s, reached, held⟩ := Transition.System.exists_reachable (webServer_init "old")
    [.accept 0 (.v4 1 0), .readControlHello 0 (asBytes "ftp") zeroNonce, .greet 0, .lookup 0,
      .reload (.serverChange (.delete "web"))]
    (fun s => s.serviceReaders = [0] ∧ s.reload ≠ .idle) (by decide +kernel)
  obtain ⟨readers, busy⟩ := of_decide_eq_true held
  exact ⟨s, reached, readers, reload_completes reached busy⟩

end Rathole.Server
