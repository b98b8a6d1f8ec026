import Rathole.ServerHotReload
import Rathole.ServerFlight

set_option autoImplicit false

/- The registry entries against `control_channels`. -/
namespace Rathole.Server

variable {D : Type} [DecidableEq D] {digest : List UInt8 → D} {s t : State D}

/-- The registry entry of the service is Connected with this source and start time. -/
def Connected (s : State D) (name : String) (source : SocketAddr) (since : Nat) : Prop :=
  ∃ entry, s.runtime.services.lookup name = some (.server entry) ∧ entry.state = .connected ∧
    entry.controlChannelSource = some source ∧ entry.connectedSinceUnixMs = some since

/-- The map holds, for the service, a handle created with this source and start
time whose control channel task is running. -/
def Serving (digest : List UInt8 → D) (s : State D) (name : String) (source : SocketAddr)
    (since : Nat) : Prop :=
  ∃ handle x, s.controlChannels.get1 (digest (asBytes name)) = some handle ∧
    s.session handle.session = some x ∧ x.task = .running ∧ x.source = source ∧ x.since = since

/-- No update is half done and every ended control channel task has reported. -/
def Settled (s : State D) : Prop :=
  s.reload = .idle ∧ (∀ c, s.pending c = none) ∧
    ∀ c x stuck, s.session c = some x → x.task ≠ .ended stuck

def StatusAgrees (digest : List UInt8 → D) (s : State D) : Prop :=
  Settled s → ∀ name source since,
    Connected s name source since ↔ Serving digest s name source since

/-- No two sessions share a source and a start time. -/
def DistinctStarts (s : State D) (a : Action D) : Prop :=
  ∀ c now, a = .connect c now → ∀ conn, s.conns.lookup c = some conn →
    ∀ c' x, s.session c' = some x → ¬ (x.source = conn.source ∧ x.since = now)

/-- The registry entry of the service shows exactly the session `owner`, as long as
its task has not reported its end. -/
def Reflects (s : State D) (name : String) (owner : Option Nat) : Prop :=
  ∀ source since, Connected s name source since ↔
    ∃ c x, owner = some c ∧ s.session c = some x ∧ x.service.name = name ∧
      x.task ≠ .reported ∧ x.source = source ∧ x.since = since

def State.stored (s : State D) (d : D) : Option Nat := (s.controlChannels.get1 d).map Handle.session

/-- The entry reflects the newest update in flight; with none in flight, the map. -/
structure Tracks (digest : List UInt8 → D) (s : State D) : Prop where
  flying : ∀ name k owner, InFlight s name k owner →
    (∀ j owner', InFlight s name j owner' → j ≤ k) → Reflects s name owner
  settled : ∀ name, (∀ k owner, ¬ InFlight s name k owner) →
    Reflects s name (s.stored (digest (asBytes name)))

theorem Reflects.same {name : String} {owner : Option Nat} (reflects : Reflects s name owner)
    (entries : t.runtime.services.lookup name = s.runtime.services.lookup name)
    (session : ∀ c, t.session c = s.session c) : Reflects t name owner := by
  intro source since
  simpa only [Connected, entries, session] using reflects source since

theorem Tracks.keep (tracks : Tracks digest s)
    (reflects : ∀ name owner, Reflects s name owner → Reflects t name owner)
    (pending : ∀ c, t.pending c = s.pending c)
    (reload : t.reload.updating = s.reload.updating)
    (channels : t.controlChannels = s.controlChannels) : Tracks digest t := by
  refine ⟨fun name k owner flying newest => ?_, fun name none => ?_⟩
  · refine reflects name owner (tracks.flying name k owner ((InFlight.same pending reload).mp flying)
      fun j owner' other => ?_)
    exact newest j owner' ((InFlight.same pending reload).mpr other)
  · rw [State.stored, channels]
    exact reflects name _ (tracks.settled name fun k owner flying =>
      none k owner ((InFlight.same pending reload).mpr flying))

/-- A new update takes its place in flight, newer than all the others. -/
theorem Tracks.began (tracks : Tracks digest s) (name : String) (owner : Option Nat)
    (below : ∀ name' k owner', InFlight s name' k owner' → k < s.stamp)
    (flying : ∀ name' k owner', InFlight t name' k owner' ↔
      InFlight s name' k owner' ∨ name' = name ∧ k = s.stamp ∧ owner' = owner)
    (channels : t.controlChannels = s.controlChannels)
    (others : ∀ name' owner', name' ≠ name → Reflects s name' owner' → Reflects t name' owner')
    (here : Reflects t name owner) : Tracks digest t := by
  have present : InFlight t name s.stamp owner := (flying _ _ _).mpr (.inr ⟨rfl, rfl, rfl⟩)
  refine ⟨fun name' k owner' inside newest => ?_, fun name' none => ?_⟩
  · rcases (flying _ _ _).mp inside with before | ⟨rfl, rfl, rfl⟩
    · by_cases same : name' = name
      · subst same
        exact absurd (newest _ _ present) (Nat.not_le_of_lt (below _ _ _ before))
      · refine others name' owner' same (tracks.flying name' k owner' before fun j other found => ?_)
        exact newest j other ((flying _ _ _).mpr (.inl found))
    · exact here
  · by_cases same : name' = name
    · subst same
      exact absurd present (none _ _)
    · rw [State.stored, channels]
      exact others name' _ same (tracks.settled name' fun k owner' found =>
        none k owner' ((flying _ _ _).mpr (.inl found)))

/-- An update leaves the flight: a newer one is still to come, or it was the only
one and the map now holds its owner. -/
theorem Tracks.left {name : String} {k : Nat} {owner : Option Nat} (tracks : Tracks digest s)
    (was : InFlight s name k owner)
    (flying : ∀ name' j owner', InFlight t name' j owner' ↔
      InFlight s name' j owner' ∧ owner' ≠ owner)
    (single : ∀ name' j, InFlight s name' j owner → name' = name ∧ j = k)
    (reflects : ∀ name' owner', Reflects s name' owner' → Reflects t name' owner')
    (others : ∀ name', name' ≠ name →
      t.stored (digest (asBytes name')) = s.stored (digest (asBytes name')))
    (ordered : Overtaken s name k ∨
      Alone s name k ∧ t.stored (digest (asBytes name)) = owner) : Tracks digest t := by
  refine ⟨fun name' j owner' inside newest => ?_, fun name' none => ?_⟩
  · obtain ⟨before, other⟩ := (flying _ _ _).mp inside
    refine reflects name' owner' (tracks.flying name' j owner' before fun i owner'' found => ?_)
    by_cases gone : owner'' = owner
    · -- The update that left; one of the newer ones bounds it.
      subst gone
      obtain ⟨rfl, rfl⟩ := single _ _ found
      rcases ordered with ⟨l, last, newer, above⟩ | ⟨alone, -⟩
      · have different : last ≠ owner'' := by
          rintro rfl
          exact absurd (single _ _ newer).2 (Nat.ne_of_gt above)
        exact Nat.le_trans (Nat.le_of_lt above) (newest l last ((flying _ _ _).mpr ⟨newer, different⟩))
      · exact Nat.le_of_eq (alone j owner' before).symm
    · exact newest i owner'' ((flying _ _ _).mpr ⟨found, gone⟩)
  · by_cases same : name' = name
    · subst same
      rcases ordered with ⟨l, last, newer, above⟩ | ⟨alone, holds⟩
      · have different : last ≠ owner := by
          rintro rfl
          exact absurd (single _ _ newer).2 (Nat.ne_of_gt above)
        exact absurd ((flying _ _ _).mpr ⟨newer, different⟩) (none l last)
      · rw [holds]
        exact reflects name' owner (tracks.flying name' k owner was fun j owner' found =>
          Nat.le_of_eq (alone j owner' found))
    · rw [others name' same]
      refine reflects name' _ (tracks.settled name' fun j owner' found => ?_)
      have different : owner' ≠ owner := by
        rintro rfl
        exact same (single _ _ found).1
      exact none j owner' ((flying _ _ _).mpr ⟨found, different⟩)

/-- What the end of a control channel task writes to the registry. -/
theorem disconnected_entries {now : Nat} {r r' : RuntimeStatus.RuntimeSnapshot} {name : String}
    {source : SocketAddr} {since : Nat} {detail : Option String}
    (written : RuntimeStatus.serverDisconnected now r name source since detail = some r') :
    (r' = r ∧ ∀ entry, r.services.lookup name = some (.server entry) →
        ¬ (entry.controlChannelSource = some source ∧ entry.connectedSinceUnixMs = some since)) ∨
      (∃ entry, r.services.lookup name = some (.server entry) ∧
        entry.controlChannelSource = some source ∧ entry.connectedSinceUnixMs = some since) ∧
        ∃ event, r' = r.setServer name ⟨.waiting, none, none, event⟩ := by
  unfold RuntimeStatus.serverDisconnected at written
  split at written
  · next entry found =>
    split at written
    · next other =>
      cases written
      refine .inl ⟨rfl, fun entry' found' owned => ?_⟩
      cases found.symm.trans found'
      exact other.elim (· owned.1) (· owned.2)
    · next owned =>
      simp only [not_or, ne_eq, not_not] at owned
      refine .inr ⟨⟨entry, found, owned⟩, ?_⟩
      split at written
      · exact ⟨none, (Option.some.inj written).symm⟩
      · obtain ⟨event, -, same⟩ := Option.map_eq_some_iff.mp written
        exact ⟨some event, same.symm⟩
  · next absent =>
    cases written
    exact .inl ⟨rfl, fun entry found => absurd found (absent entry)⟩

theorem Connected.unique {name : String} {source source' : SocketAddr} {since : Nat}
    {entry : RuntimeStatus.ServerSnapshot} (connected : Connected s name source since)
    (found : s.runtime.services.lookup name = some (.server entry))
    (owned : entry.controlChannelSource = some source') : source = source' := by
  obtain ⟨entry', found', -, source_eq, -⟩ := connected
  cases found.symm.trans found'
  exact Option.some.inj (source_eq.symm.trans owned)

/-- The report of an ended task clears the entry exactly when the entry shows it. -/
theorem Reflects.disconnect {c now : Nat} {name : String} {owner : Option Nat}
    (wired : Wired digest s) (moved : s.disconnect c now = some t)
    (reflects : Reflects s name owner) : Reflects t name owner := by
  obtain ⟨x, stuck, r, found, ended, written, rfl⟩ := disconnect_cases moved
  have held : s.session c = some x.core := by rw [State.session, found, Option.map_some]
  have session : ∀ c', State.session { s with
        runtime := r, sessions := s.sessions.insert c { x with task := .reported } } c' =
      if c' = c then some { x.core with task := .reported } else s.session c' :=
    fun c' => session_task .reported c' rfl
  intro source since
  simp only [session]
  rcases disconnected_entries written with ⟨rfl, foreign⟩ | ⟨⟨entry, entry_eq, source_eq, since_eq⟩,
    event, rfl⟩
  · refine (reflects source since).trans ⟨?_, ?_⟩
    · rintro ⟨c', y, rfl, before, named, unreported, rfl, rfl⟩
      refine ⟨c', y, rfl, ?_, named, unreported, rfl, rfl⟩
      rw [if_neg, before]
      rintro rfl
      cases held.symm.trans before
      -- The entry would show the task that reports.
      obtain ⟨entry, entry_eq, -, source_eq, since_eq⟩ :=
        (reflects x.source x.since).mpr ⟨c', x.core, rfl, held, named, unreported, rfl, rfl⟩
      exact foreign entry (named ▸ entry_eq) ⟨source_eq, since_eq⟩
    · rintro ⟨c', y, rfl, after, named, unreported, same⟩
      split at after
      · cases after
        exact absurd rfl unreported
      · exact ⟨c', y, rfl, after, named, unreported, same⟩
  · by_cases same : name = x.service.name
    · subst same
      refine ⟨?_, ?_⟩
      · rintro ⟨entry', found', connected, -⟩
        simp only [RuntimeStatus.RuntimeSnapshot.setServer, Finmap.lookup_insert,
          Option.some.injEq, RuntimeStatus.RuntimeServiceSnapshot.server.injEq] at found'
        rw [← found'] at connected
        cases connected
      · rintro ⟨c', y, rfl, after, named, unreported, rfl, rfl⟩
        split at after
        · cases after
          exact absurd rfl unreported
        · next other =>
          obtain ⟨entry', entry_eq', -, source_eq', since_eq'⟩ :=
            (reflects y.source y.since).mpr ⟨c', y, rfl, after, named, unreported, rfl, rfl⟩
          cases entry_eq.symm.trans entry_eq'
          refine absurd (wired.distinct c' c y x.core after held ?_ ?_) other
          · exact Option.some.inj (source_eq'.symm.trans source_eq)
          · exact Option.some.inj (since_eq'.symm.trans since_eq)
    · have connected : Connected { s with
          runtime := s.runtime.setServer x.service.name ⟨.waiting, none, none, event⟩,
          sessions := s.sessions.insert c { x with task := .reported } } name source since ↔
          Connected s name source since := by
        simp only [Connected, RuntimeStatus.RuntimeSnapshot.setServer,
          Finmap.lookup_insert_of_ne _ same]
      refine (connected.trans (reflects source since)).trans ⟨?_, ?_⟩
      · rintro ⟨c', y, rfl, before, named, rest⟩
        refine ⟨c', y, rfl, ?_, named, rest⟩
        rw [if_neg, before]
        rintro rfl
        cases held.symm.trans before
        exact same named.symm
      · rintro ⟨c', y, rfl, after, named, unreported, rest⟩
        split at after
        · cases after
          exact absurd rfl unreported
        · exact ⟨c', y, rfl, after, named, unreported, rest⟩

/-- An ended task still owns its entry until it reports. -/
theorem Reflects.endTask {c : Nat} {stuck : Bool} {name : String} {owner : Option Nat}
    (moved : s.endTask c stuck = some t) (reflects : Reflects s name owner) :
    Reflects t name owner := by
  obtain ⟨x, y, found, made, rfl⟩ := onSession_cases moved
  obtain ⟨running, ⟨⟩⟩ := Option.ite_none_right_eq_some.mp made
  have held : s.session c = some x.core := by rw [State.session, found, Option.map_some]
  intro source since
  refine (reflects source since).trans ⟨?_, ?_⟩
  · rintro ⟨c', y, rfl, before, named, unreported, rest⟩
    by_cases here : c' = c
    · subst here
      cases held.symm.trans before
      exact ⟨c', _, rfl, (session_task (.ended stuck) c' rfl).trans (if_pos rfl), named,
        (by simp), rest⟩
    · exact ⟨c', y, rfl, (session_task (.ended stuck) c' rfl).trans ((if_neg here).trans before), named,
        unreported, rest⟩
  · rintro ⟨c', y, rfl, after, named, unreported, rest⟩
    rw [session_task (.ended stuck) c' rfl] at after
    split at after
    · next here =>
      cases after
      refine ⟨c', x.core, rfl, here ▸ held, named, ?_, rest⟩
      rw [show x.core.task = .running from running]
      intro same
      cases same
    · exact ⟨c', y, rfl, after, named, unreported, rest⟩

theorem Tracks.connect {c now : Nat} {p : Pending D} (tracks : Tracks digest s)
    (wired : Wired digest s) (entered : Entered s t c p now) : Tracks digest t := by
  have absent : ∀ x, s.session c ≠ some x := by
    intro x held
    obtain ⟨d, key, service, found⟩ := entered.phase
    rcases wired.live c x held with ⟨q, pending⟩ | gone
    · cases (pending_of_lookup found).symm.trans pending
    · exact (entered.gone c gone).1 rfl
  have unseen : s.pending c = none := by
    obtain ⟨d, key, service, found⟩ := entered.phase
    exact pending_of_lookup found
  refine tracks.began p.service.name (some c) (fun _ _ _ => wired.below)
    (fun name k owner => ⟨?_, ?_⟩) entered.channels
    (fun name owner other reflects source since => ?_) fun source since => ?_
  · rintro (⟨pending, named⟩ | updating)
    · rw [entered.pending] at pending
      split at pending
      · next here =>
        cases pending
        exact .inr ⟨named.symm, entered.stamped, congrArg some here⟩
      · exact .inl (.handshake pending named)
    · exact .inl (.reload (entered.reload ▸ updating))
  · rintro ((⟨pending, named⟩ | updating) | ⟨rfl, rfl, rfl⟩)
    · refine .handshake ?_ named
      rw [entered.pending, if_neg, pending]
      rintro rfl
      rw [unseen] at pending
      cases pending
    · exact .reload (entered.reload ▸ updating)
    · rw [← entered.stamped]
      exact .handshake ((entered.pending c).trans (if_pos rfl)) rfl
  · have kept : t.runtime.services.lookup name = s.runtime.services.lookup name :=
      (entered.entries name).trans (if_neg other)
    have connected : Connected t name source since ↔ Connected s name source since := by
      simp only [Connected, kept]
    refine (connected.trans (reflects source since)).trans ⟨?_, ?_⟩
    · rintro ⟨c', x, rfl, before, rest⟩
      refine ⟨c', x, rfl, ?_, rest⟩
      rw [entered.session, if_neg, before]
      rintro rfl
      exact absent x before
    · rintro ⟨c', x, rfl, found, named, rest⟩
      rw [entered.session] at found
      split at found
      · cases found
        exact absurd named.symm other
      · exact ⟨c', x, rfl, found, named, rest⟩
  · have here := (entered.entries p.service.name).trans (if_pos rfl)
    refine ⟨?_, ?_⟩
    · rintro ⟨entry, found, -, source_eq, since_eq⟩
      cases here.symm.trans found
      exact ⟨c, _, rfl, (entered.session c).trans (if_pos rfl), rfl, nofun, Option.some.inj source_eq,
        Option.some.inj since_eq⟩
    · rintro ⟨c', x, same, found, -, -, rfl, rfl⟩
      cases same
      rw [entered.session, if_pos rfl] at found
      cases found
      exact ⟨_, here, rfl, rfl, rfl⟩

theorem Tracks.reload {name : String} (tracks : Tracks digest s) (wired : Wired digest s)
    (began : Began s t name) : Tracks digest t := by
  refine tracks.began name none (fun _ _ _ => wired.below) (fun _ _ _ => began.inFlight) began.channels
    (fun name' owner other reflects => reflects.same (began.others name' other) began.session)
    fun source since => ⟨?_, ?_⟩
  · rintro ⟨entry, found, connected, -⟩
    rw [began.waiting entry found] at connected
    cases connected
  · rintro ⟨c, x, same, -⟩
    cases same

theorem Left.tracks {c : Nat} {p : Pending D} (left : Left s t c p) (tracks : Tracks digest s)
    (others : ∀ name, name ≠ p.service.name →
      t.stored (digest (asBytes name)) = s.stored (digest (asBytes name)))
    (ordered : Overtaken s p.service.name p.stamp ∨ Alone s p.service.name p.stamp ∧
      t.stored (digest (asBytes p.service.name)) = some c) : Tracks digest t := by
  refine tracks.left (.handshake left.was rfl) (fun _ _ _ => left.inFlight) ?_ ?_ others ordered
  · rintro name j (⟨pending, named⟩ | _)
    cases left.was.symm.trans pending
    exact ⟨named.symm, rfl⟩
  · exact fun name owner reflects => reflects.same (by rw [left.entries]) left.session

theorem left_of_register {c : Nat} (moved : s.register c = some t) :
    ∃ p, Left s t c p ∧ t.controlChannels =
      ((s.controlChannels.remove1 p.digest).2.insert p.digest p.key ⟨c, p.service⟩).toOption.getD
        (s.controlChannels.remove1 p.digest).2 := by
  obtain ⟨source, d, key, service, stamp, found, rfl⟩ := register_cases moved
  exact ⟨_, left_of_close (pending_of_lookup found) _, rfl⟩

theorem Named.pending {c : Nat} {p : Pending D} (named : Named digest s)
    (pending : s.pending c = some p) : digest (asBytes p.service.name) = p.digest :=
  named.phases c _ (lookup_of_pending pending)

omit [DecidableEq D] in
theorem digest_name_ne (injective : Function.Injective digest) {name other : String}
    (different : other ≠ name) : digest (asBytes other) ≠ digest (asBytes name) :=
  fun same => different (asBytes_injective (injective same))

theorem Tracks.register {c : Nat} {p : Pending D} (tracks : Tracks digest s)
    (left : Left s t c p) (named : digest (asBytes p.service.name) = p.digest)
    (injective : Function.Injective digest) (ordered : InOrder s (.register c))
    (channels : t.controlChannels =
      ((s.controlChannels.remove1 p.digest).2.insert p.digest p.key ⟨c, p.service⟩).toOption.getD
        (s.controlChannels.remove1 p.digest).2) : Tracks digest t := by
  obtain ⟨order, free⟩ := ordered p left.was
  obtain ⟨stored, inserted, lookup⟩ := MultiMap.insert_ok (⟨c, p.service⟩ : Handle)
    (by rw [MultiMap.get1_remove1, if_pos rfl]) (MultiMap.get2_remove1_of_free free)
  rw [inserted, Except.toOption, Option.getD_some] at channels
  refine left.tracks tracks (fun name other => ?_) (order.imp_right fun alone => ⟨alone, ?_⟩)
  · have different := named ▸ digest_name_ne injective other
    rw [State.stored, State.stored, channels, lookup, if_neg different, MultiMap.get1_remove1,
      if_neg different]
  · rw [State.stored, channels, lookup, if_pos named]
    rfl

theorem Tracks.deadline {c : Nat} {source : SocketAddr} {p : Pending D} (tracks : Tracks digest s)
    (pending : s.pending c = some p) (ordered : InOrder s (.deadline c)) :
    Tracks digest (s.close c source) :=
  (left_of_close pending s.controlChannels).tracks tracks (fun _ _ => rfl)
    (.inl (ordered p pending))

theorem Tracks.reloadChannels {name : String} {k : Nat} (tracks : Tracks digest s)
    (injective : Function.Injective digest) (finished : Finished digest s t name k)
    (ordered : InOrder s .reloadChannels) : Tracks digest t := by
  refine tracks.left (.reload finished.updating) (fun _ _ _ => finished.inFlight) ?_
    (fun name owner reflects => reflects.same (by rw [finished.entries]) finished.session) ?_
    ((ordered name k finished.updating).imp_right fun alone => ⟨alone, ?_⟩)
  · rintro name' j (_ | updating)
    cases finished.updating.symm.trans updating
    exact ⟨rfl, rfl⟩
  · intro name' other
    rw [State.stored, State.stored, finished.channels, if_neg (digest_name_ne injective other)]
  · rw [State.stored, finished.channels, if_pos rfl, Option.map_none]

theorem reloadServices_cases (moved : s.reloadServices digest = some t) :
    t.reload.updating = s.reload.updating ∧ t.reload.Hashed digest ∧
      t.controlChannels = s.controlChannels ∧ t.conns = s.conns ∧ t.sessions = s.sessions ∧
      t.runtime = s.runtime ∧ t.stamp = s.stamp := by
  obtain ⟨-, moved⟩ := Option.ite_none_right_eq_some.mp moved
  split at moved
  · next cfg stamp adding =>
    cases moved
    exact ⟨by rw [adding]; rfl, rfl, rfl, rfl, rfl, rfl, rfl⟩
  · next name stamp deleting =>
    cases moved
    exact ⟨by rw [deleting]; rfl, rfl, rfl, rfl, rfl, rfl, rfl⟩
  · cases moved

/-- The invariant of the two stores: one step. -/
theorem tracks_step {a : Action D} (injective : Function.Injective digest) (named : Named digest s)
    (wired : Wired digest s) (tracks : Tracks digest s) (distinct : DistinctStarts s a)
    (ordered : InOrder s a) (moved : step digest s a = some t) :
    Wired digest t ∧ Tracks digest t := by
  have calm : Quiet s t → Wired digest t ∧ Tracks digest t := fun quiet =>
    ⟨wired.quiet quiet, tracks.keep (fun _ _ reflects => reflects.same (by rw [quiet.entries])
      quiet.sessions) quiet.pending (by rw [quiet.reload]) quiet.channels⟩
  cases updates : a.updates with
  | false => exact calm (quiet_of_step moved updates)
  | true =>
    cases a with
    | connect c now =>
      rcases entered_of_connect moved with quiet | ⟨p, entered⟩
      · exact calm quiet
      · obtain ⟨d, key, service, found⟩ := entered.phase
        have after := wired.enter entered (distinct c now rfl _ found)
        exact ⟨after, tracks.connect wired entered⟩
    | register c =>
      obtain ⟨p, left, channels⟩ := left_of_register moved
      have same := named.pending left.was
      refine ⟨wired.leave left same fun d handle held => ?_,
        tracks.register left same injective ordered channels⟩
      rw [channels] at held
      exact (get1_registered held).imp_right And.right
    | deadline c =>
      obtain ⟨source, phase, found, live, rfl⟩ := deadline_cases moved
      cases pending : s.pending c with
      | none => exact calm (.close found live ((pending_of_lookup found).symm.trans pending))
      | some p =>
        exact ⟨wired.leave (left_of_close pending _) (named.pending pending)
          fun d handle held => .inr held, tracks.deadline pending ordered⟩
    | endTask c stuck =>
      obtain ⟨x, y, found, made, rfl⟩ := onSession_cases moved
      obtain ⟨-, ⟨⟩⟩ := Option.ite_none_right_eq_some.mp made
      exact ⟨wired.task _ found rfl rfl rfl rfl rfl,
        tracks.keep (fun _ _ reflects => reflects.endTask moved) (fun _ => rfl) rfl rfl⟩
    | disconnect c now =>
      obtain ⟨x, stuck, r, found, -, -, rfl⟩ := disconnect_cases moved
      exact ⟨wired.task _ found rfl rfl rfl rfl rfl,
        tracks.keep (fun _ _ reflects => reflects.disconnect wired moved) (fun _ => rfl) rfl rfl⟩
    | reload e =>
      obtain ⟨⟨-, idle⟩, ⟨⟩⟩ := Option.ite_none_right_eq_some.mp moved
      rcases began_of_reload idle e with same | ⟨name, began⟩
      · rw [same]
        exact ⟨wired, tracks⟩
      · exact ⟨wired.begin began, tracks.reload wired began⟩
    | reloadServices =>
      obtain ⟨updating, hashed, channels, conns, sessions, runtime, stamp⟩ :=
        reloadServices_cases moved
      have session : ∀ c, t.session c = s.session c := fun c => by
        rw [State.session, sessions, State.session]
      have pending : ∀ c, t.pending c = s.pending c := fun c => by
        rw [State.pending, conns, State.pending]
      refine ⟨wired.keep channels pending (fun c gone => by simpa only [State.gone, conns] using gone)
        hashed updating stamp (fun c x found => ⟨x, (session c).symm.trans found, rfl, rfl, rfl⟩)
        fun c y found => ⟨y, (session c).trans found, rfl, rfl⟩, ?_⟩
      exact tracks.keep (fun _ _ reflects => reflects.same (by rw [runtime]) session) pending
        updating channels
    | reloadChannels =>
      obtain ⟨name, k, finished⟩ := finished_of_reloadChannels wired moved
      exact ⟨wired.finish finished, tracks.reloadChannels injective finished ordered⟩
    | _ => cases updates

theorem session_start {c : Nat} (initial : (system digest).init s) : s.session c = none := by
  obtain ⟨config, entries, processId, now, -, -, rfl⟩ := initial
  simp [State.session, State.start]

theorem pending_start {c : Nat} (initial : (system digest).init s) : s.pending c = none := by
  obtain ⟨config, entries, processId, now, -, -, rfl⟩ := initial
  simp [State.pending, State.start]

theorem reload_start (initial : (system digest).init s) : s.reload = .idle := by
  obtain ⟨config, entries, processId, now, -, -, rfl⟩ := initial
  rfl

theorem get1_start {d : D} (initial : (system digest).init s) : s.controlChannels.get1 d = none := by
  obtain ⟨config, entries, processId, now, -, -, rfl⟩ := initial
  exact MultiMap.get1_new d

theorem inFlight_start (initial : (system digest).init s) {name : String} {k : Nat}
    {owner : Option Nat} : ¬ InFlight s name k owner := by
  rintro (⟨pending, -⟩ | updating)
  · rw [pending_start initial] at pending
    cases pending
  · rw [reload_start initial] at updating
    cases updating

theorem Wired.start (initial : (system digest).init s) : Wired digest s where
  hashed := by rw [reload_start initial]; trivial
  live c x session := by rw [session_start initial] at session; cases session
  pending c p pending := by rw [pending_start initial] at pending; cases pending
  reload name k updating := by rw [reload_start initial] at updating; cases updating
  stored d handle held := by rw [get1_start initial] at held; cases held
  stamps _ _ _ _ _ flying := absurd flying (inFlight_start initial)
  distinct c c' x x' session := by rw [session_start initial] at session; cases session

theorem Tracks.start (initial : (system digest).init s) : Tracks digest s where
  flying _ _ _ flying := absurd flying (inFlight_start initial)
  settled name _ := by
    intro source since
    rw [State.stored, get1_start initial, Option.map_none]
    refine ⟨?_, by rintro ⟨c, x, same, -⟩; cases same⟩
    rintro ⟨entry, found, connected, -⟩
    obtain ⟨config, entries, processId, now, -, -, rfl⟩ := initial
    cases RuntimeStatus.lookup_collect found
    cases connected

theorem tracks_of_reach (injective : Function.Injective digest)
    (reached : (system digest).Reach (fun s a => DistinctStarts s a ∧ InOrder s a) s) :
    Wired digest s ∧ Tracks digest s :=
  reached.invariant_with (I := fun s => Wired digest s ∧ Tracks digest s)
    (fun _ known => named_of_reach known.reachable)
    (fun _ initial => ⟨.start initial, .start initial⟩)
    fun _ _ _ named _ allowed moved both =>
      tracks_step injective named both.1 both.2 allowed.1 allowed.2 moved

theorem Tracks.agrees (tracks : Tracks digest s) (wired : Wired digest s)
    (injective : Function.Injective digest) : StatusAgrees digest s := by
  rintro ⟨idle, landed, reported⟩ name source since
  have quiet : ∀ k owner, ¬ InFlight s name k owner := by
    rintro k owner (⟨pending, -⟩ | updating)
    · rw [landed] at pending
      cases pending
    · rw [idle] at updating
      cases updating
  refine (tracks.settled name quiet source since).trans ⟨?_, ?_⟩
  · rintro ⟨c, x, stored, held, -, unreported, same⟩
    obtain ⟨handle, found, rfl⟩ := Option.map_eq_some_iff.mp stored
    refine ⟨handle, x, found, held, ?_, same⟩
    cases task : x.task with
    | running => rfl
    | ended stuck => exact absurd task (reported _ x stuck held)
    | reported => exact absurd task unreported
  · rintro ⟨handle, x, found, held, running, same⟩
    obtain ⟨named, -, x', held', service⟩ := wired.stored _ handle found
    cases held.symm.trans held'
    refine ⟨handle.session, x, by rw [State.stored, found]; rfl, held, ?_, ?_, same⟩
    · rw [service]
      exact asBytes_injective (injective named)
    · rw [running]
      nofun

/-- A task whose session the entry does not show leaves the entry Connected. -/
def OwnersKept (digest : List UInt8 → D) (s : State D) : Prop :=
  ∀ c now t x name source since, step digest s (.disconnect c now) = some t →
    s.session c = some x → ¬ (x.source = source ∧ x.since = since) →
    Connected s name source since → Connected t name source since

theorem owners_kept (s : State D) : OwnersKept digest s := by
  intro c now t x name source since moved held foreign connected
  obtain ⟨y, stuck, r, found, -, written, rfl⟩ := disconnect_cases moved
  have core : x = y.core := by
    rw [State.session, found] at held
    exact (Option.some.inj held).symm
  subst core
  rcases disconnected_entries written with ⟨rfl, -⟩ | ⟨⟨entry, entry_eq, source_eq, since_eq⟩,
    event, rfl⟩
  · exact connected
  · obtain ⟨shown, shown_eq, state, shown_source, shown_since⟩ := connected
    have other : name ≠ y.service.name := by
      rintro rfl
      cases entry_eq.symm.trans shown_eq
      exact foreign ⟨Option.some.inj (source_eq.symm.trans shown_source),
        Option.some.inj (since_eq.symm.trans shown_since)⟩
    refine ⟨shown, ?_, state, shown_source, shown_since⟩
    exact (Finmap.lookup_insert_of_ne _ other).trans shown_eq

/-- While the update that reached a registry entry last is also the last to reach the
map, the entries agree with the map whenever nothing is half done. -/
theorem status_agrees_of_in_order (injective : Function.Injective digest)
    (reached : (system digest).Reach (fun s a => DistinctStarts s a ∧ InOrder s a) s) :
    StatusAgrees digest s ∧ OwnersKept digest s := by
  obtain ⟨wired, tracks⟩ := tracks_of_reach injective reached
  exact ⟨tracks.agrees wired injective, owners_kept s⟩

/-- `DistinctStarts`, as a check of the sessions the state holds. -/
def distinctStarts (s : State D) : Action D → Bool
  | .connect c now =>
    match s.conns.lookup c with
    | some conn => ∀ e ∈ s.sessions.entries, ¬ (e.2.source = conn.source ∧ e.2.since = now)
    | none => true
  | _ => true

theorem distinct_starts_of_check (s : State D) (a : Action D) (passed : distinctStarts s a = true) :
    DistinctStarts s a := by
  rintro c now rfl conn found c' x held
  simp only [distinctStarts, found, decide_eq_true_eq] at passed
  obtain ⟨y, present, rfl⟩ := Option.map_eq_some_iff.mp held
  exact passed ⟨c', y⟩ (Finmap.mem_lookup_iff.mp present)

/-- `InOrder` for runs in which a map update is the only one in flight. -/
def inOrder (s : State D) : Action D → Bool
  | .register c =>
    match s.pending c with
    | some p => s.reload = .idle ∧ (∀ e ∈ s.conns.entries, e.1 = c ∨ e.2.pending = none) ∧
        (s.controlChannels.map2.lookup p.key).all fun item => item.1 = p.digest
    | none => true
  | .deadline _ | .reloadChannels => false
  | _ => true

theorem in_order_of_check (s : State D) (a : Action D) (passed : inOrder s a = true) :
    InOrder s a := by
  cases a with
  | register c =>
    intro p pending
    simp only [inOrder, pending, decide_eq_true_eq] at passed
    obtain ⟨idle, others, free⟩ := passed
    refine ⟨.inr ?_, fun item held => ?_⟩
    · rintro k owner (⟨found, -⟩ | updating)
      · rename_i c' q
        obtain ⟨conn, present, made⟩ := Option.bind_eq_some_iff.mp found
        rcases others ⟨c', conn⟩ (Finmap.mem_lookup_iff.mp present) with here | none
        · cases here
          cases pending.symm.trans found
          rfl
        · cases none.symm.trans made
      · rw [idle] at updating
        cases updating
    · simpa [held] using free
  | deadline c => cases passed
  | reloadChannels => cases passed
  | _ => trivial

theorem settled_of_entries (idle : s.reload = .idle)
    (landed : ∀ e ∈ s.conns.entries, e.2.pending = none)
    (tasks : ∀ e ∈ s.sessions.entries, e.2.task = .running ∨ e.2.task = .reported) :
    Settled s := by
  refine ⟨idle, fun c => ?_, fun c x stuck held => ?_⟩
  · cases found : s.conns.lookup c with
    | none => rw [State.pending, found, Option.bind_none]
    | some conn =>
      rw [pending_of_lookup found]
      exact landed ⟨c, conn⟩ (Finmap.mem_lookup_iff.mp found)
  · obtain ⟨y, present, rfl⟩ := Option.map_eq_some_iff.mp held
    rcases tasks ⟨c, y⟩ (Finmap.mem_lookup_iff.mp present) with running | reported
    · rw [show y.core.task = .running from running]
      intro same
      cases same
    · rw [show y.core.task = .reported from reported]
      intro same
      cases same

/-- Two sessions of one service, one after the other; the first one then ends. -/
theorem status_agrees_in_order : ∃ s : State (List UInt8), Settled s ∧
    Connected s "web" (.v4 1 1) 1000 ∧ StatusAgrees id s ∧ OwnersKept id s := by
  obtain ⟨s, reached, held⟩ := Transition.System.exists_reach (webServer_init "old")
    (webHello 0 ++ webAuth 0 "old" ++ [.register 0] ++ webHello 1 ++ webAuth 1 "old" ++
      [.register 1, .endTask 0 false, .disconnect 0 2000])
    (fun s => s.reload = .idle ∧ (∀ e ∈ s.conns.entries, e.2.pending = none) ∧
      (∀ e ∈ s.sessions.entries, e.2.task = .running ∨ e.2.task = .reported) ∧
      s.runtime.services.lookup "web" =
        some (.server ⟨.connected, some (.v4 1 1), some 1000, none⟩))
    (fun s a => distinctStarts s a && inOrder s a)
    (fun s a passed => And.intro (distinct_starts_of_check s a (Bool.and_eq_true_iff.mp passed).1)
      (in_order_of_check s a (Bool.and_eq_true_iff.mp passed).2)) (by decide +kernel)
  obtain ⟨idle, landed, tasks, entry⟩ := of_decide_eq_true held
  have connected : Connected s "web" (.v4 1 1) 1000 := ⟨_, entry, rfl, rfl, rfl⟩
  exact ⟨s, settled_of_entries idle landed tasks, connected,
    status_agrees_of_in_order Function.injective_id reached⟩

/-- Two handshakes of one service that reach the registry in one order and the map in
the other: the superseded session turns the entry of the live one into Waiting. -/
theorem status_disagrees_out_of_order :
    ¬ ∀ (D : Type) (_ : DecidableEq D) (digest : List UInt8 → D), Function.Injective digest →
      ∀ s, (system digest).Reach DistinctStarts s → StatusAgrees digest s ∧ OwnersKept digest s := by
  intro agree
  obtain ⟨s, reached, held⟩ := Transition.System.exists_reach (webServer_init "old")
    (webHello 0 ++ webHello 1 ++ webAuth 0 "old" ++ webAuth 1 "old" ++
      [.register 1, .register 0, .endTask 1 false, .disconnect 1 2000])
    (fun s => s.reload = .idle ∧ (∀ e ∈ s.conns.entries, e.2.pending = none) ∧
      (∀ e ∈ s.sessions.entries, e.2.task = .running ∨ e.2.task = .reported) ∧
      s.controlChannels.get1 (asBytes "web") = some ⟨0, webService "old"⟩ ∧
      s.sessions.lookup 0 = some ⟨webService "old", .v4 1 0, 1000, .running, true, [], 0⟩ ∧
      (s.runtime.services.lookup "web").map
        (fun entry => match entry with | .server e => e.state | .client _ => .stopped) =
          some .waiting)
    distinctStarts distinct_starts_of_check (by decide +kernel)
  obtain ⟨idle, landed, tasks, handle, session, entry⟩ := of_decide_eq_true held
  have agrees := (agree _ _ id Function.injective_id s reached).1
    (settled_of_entries idle landed tasks) "web" (.v4 1 0) 1000
  obtain ⟨shown, found, connected, -⟩ := agrees.mpr
    ⟨_, _, handle, by rw [State.session, session]; rfl, rfl, rfl, rfl⟩
  rw [found] at entry
  cases connected.symm.trans (Option.some.inj entry)

end Rathole.Server
