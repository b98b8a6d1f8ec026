import Rathole.ServerNames

set_option autoImplicit false

/- Updates in flight: a handshake and a hot reload each update the registry first
and the map later, under two different locks. -/
namespace Rathole.Server

variable {D : Type} [DecidableEq D] {digest : List UInt8 → D} {s t : State D}

def Reload.updating : Reload D → Option (String × Nat)
  | .idle => none
  | .adding service stamp => some (service.name, stamp)
  | .added name _ stamp | .deleting name stamp | .deleted name _ stamp => some (name, stamp)

/-- A handshake (with the session it made) or a reload has updated the registry
entry of the service, at the given stamp, and is still to update the map. -/
inductive InFlight (s : State D) (name : String) : Nat → Option Nat → Prop
  | handshake {c : Nat} {p : Pending D} (pending : s.pending c = some p)
      (named : p.service.name = name) : InFlight s name p.stamp (some c)
  | reload {stamp : Nat} (updating : s.reload.updating = some (name, stamp)) :
      InFlight s name stamp none

/-- A later update of the same entry is still to reach the map. -/
def Overtaken (s : State D) (name : String) (stamp : Nat) : Prop :=
  ∃ k owner, InFlight s name k owner ∧ stamp < k

/-- Nothing else is in flight for the service. -/
def Alone (s : State D) (name : String) (stamp : Nat) : Prop :=
  ∀ k owner, InFlight s name k owner → k = stamp

/-- The update that reached the registry entry last also reaches the map last, and
it does reach it: the deadline does not cancel it and its key is free. -/
def InOrder (s : State D) : Action D → Prop
  | .register c => ∀ p, s.pending c = some p →
      (Overtaken s p.service.name p.stamp ∨ Alone s p.service.name p.stamp) ∧
        ∀ item, s.controlChannels.map2.lookup p.key = some item → item.1 = p.digest
  | .deadline c => ∀ p, s.pending c = some p → Overtaken s p.service.name p.stamp
  | .reloadChannels => ∀ name stamp, s.reload.updating = some (name, stamp) →
      Overtaken s name stamp ∨ Alone s name stamp
  | _ => True

def Reload.Hashed (digest : List UInt8 → D) : Reload D → Prop
  | .added name hash _ | .deleted name hash _ => digest (asBytes name) = hash
  | _ => True

/-- How sessions, updates in flight and stored handles refer to each other. -/
structure Wired (digest : List UInt8 → D) (s : State D) : Prop where
  hashed : s.reload.Hashed digest
  live : ∀ c x, s.session c = some x → (∃ p, s.pending c = some p) ∨ s.gone c
  pending : ∀ c p, s.pending c = some p → p.stamp < s.stamp ∧
    ∃ x, s.session c = some x ∧ x.service = p.service ∧ x.source = p.source
  reload : ∀ name stamp, s.reload.updating = some (name, stamp) → stamp < s.stamp
  stored : ∀ d handle, s.controlChannels.get1 d = some handle →
    digest (asBytes handle.service.name) = d ∧ s.gone handle.session ∧
      ∃ x, s.session handle.session = some x ∧ x.service = handle.service
  stamps : ∀ name name' k owner owner', InFlight s name k owner → InFlight s name' k owner' →
    owner = owner'
  distinct : ∀ c c' x x', s.session c = some x → s.session c' = some x' →
    x.source = x'.source → x.since = x'.since → c = c'

theorem InFlight.same (pending : ∀ c, t.pending c = s.pending c)
    (reload : t.reload.updating = s.reload.updating) {name : String} {k : Nat}
    {owner : Option Nat} : InFlight t name k owner ↔ InFlight s name k owner := by
  constructor
  · rintro (⟨found, named⟩ | updating)
    · exact .handshake ((pending _).symm.trans found) named
    · exact .reload (reload.symm.trans updating)
  · rintro (⟨found, named⟩ | updating)
    · exact .handshake ((pending _).trans found) named
    · exact .reload (reload.trans updating)

theorem Wired.below (wired : Wired digest s) {name : String} {k : Nat} {owner : Option Nat}
    (flying : InFlight s name k owner) : k < s.stamp := by
  rcases flying with ⟨found, -⟩ | updating
  · exact (wired.pending _ _ found).1
  · exact wired.reload _ _ updating

/-- Steps that keep the sessions' identities and what is in flight. -/
theorem Wired.keep (wired : Wired digest s) (channels : t.controlChannels = s.controlChannels)
    (pending : ∀ c, t.pending c = s.pending c) (gone : ∀ c, s.gone c → t.gone c)
    (hashed : t.reload.Hashed digest) (reload : t.reload.updating = s.reload.updating)
    (stamp : t.stamp = s.stamp)
    (back : ∀ c x, t.session c = some x → ∃ y, s.session c = some y ∧ y.service = x.service ∧
      y.source = x.source ∧ y.since = x.since)
    (forth : ∀ c y, s.session c = some y → ∃ x, t.session c = some x ∧ x.service = y.service ∧
      x.source = y.source) : Wired digest t := by
  refine ⟨hashed, ?_, ?_, ?_, ?_, ?_, ?_⟩
  · intro c x found
    obtain ⟨y, before, -⟩ := back c x found
    rw [pending]
    exact (wired.live c y before).imp_right (gone c)
  · intro c p found
    rw [pending] at found
    obtain ⟨below, y, session, service, source⟩ := wired.pending c p found
    obtain ⟨x, after, service', source'⟩ := forth c y session
    exact ⟨stamp ▸ below, x, after, service'.trans service, source'.trans source⟩
  · intro name k updating
    rw [stamp]
    exact wired.reload name k (reload.symm.trans updating)
  · intro d handle held
    rw [channels] at held
    obtain ⟨named, before, y, session, service⟩ := wired.stored d handle held
    obtain ⟨x, after, service', -⟩ := forth _ y session
    exact ⟨named, gone _ before, x, after, service'.trans service⟩
  · intro name name' k owner owner' one two
    exact wired.stamps name name' k owner owner' ((InFlight.same pending reload).mp one)
      ((InFlight.same pending reload).mp two)
  · intro c c' x x' one two source since
    obtain ⟨y, before, -, ysource, ysince⟩ := back c x one
    obtain ⟨y', before', -, ysource', ysince'⟩ := back c' x' two
    exact wired.distinct c c' y y' before before' (ysource.trans (source.trans ysource'.symm))
      (ysince.trans (since.trans ysince'.symm))

theorem Wired.quiet (wired : Wired digest s) (quiet : Quiet s t) : Wired digest t :=
  wired.keep quiet.channels quiet.pending quiet.gone (by rw [quiet.reload]; exact wired.hashed)
    (by rw [quiet.reload]) quiet.stamp
    (fun c x found => ⟨x, (quiet.sessions c).symm.trans found, rfl, rfl, rfl⟩)
    fun c y found => ⟨y, (quiet.sessions c).trans found, rfl, rfl⟩

/-- A session whose task moved on. -/
theorem session_task {c : Nat} {x : Session} (task : ControlTask) (c' : Nat)
    (same : t.sessions = s.sessions.insert c { x with task := task }) :
    t.session c' = if c' = c then some { x.core with task := task } else s.session c' := by
  rw [State.session, same, lookup_insert_eq]
  split <;> rfl

theorem Wired.task (wired : Wired digest s) {c : Nat} {x : Session} (task : ControlTask)
    (found : s.sessions.lookup c = some x)
    (same : t.sessions = s.sessions.insert c { x with task := task })
    (channels : t.controlChannels = s.controlChannels) (conns : t.conns = s.conns)
    (reload : t.reload = s.reload) (stamp : t.stamp = s.stamp) : Wired digest t := by
  have held : s.session c = some x.core := by rw [State.session, found, Option.map_some]
  refine wired.keep channels (fun _ => by rw [State.pending, conns]; rfl)
    (fun _ gone => by simpa only [State.gone, conns] using gone)
    (by rw [reload]; exact wired.hashed) (by rw [reload]) stamp ?_ ?_
  · intro c' y after
    rw [session_task task c' same] at after
    split at after
    · next here =>
      cases after
      exact ⟨x.core, here ▸ held, rfl, rfl, rfl⟩
    · exact ⟨y, after, rfl, rfl, rfl⟩
  · intro c' y before
    rw [session_task task c' same]
    split
    · next here =>
      rw [here, held] at before
      cases before
      exact ⟨_, rfl, rfl, rfl⟩
    · exact ⟨y, before, rfl, rfl⟩

/-- The sessions and places after a handshake took its place in flight. -/
structure Entered (s t : State D) (c : Nat) (p : Pending D) (now : Nat) : Prop where
  phase : ∃ d key service, s.conns.lookup c = some ⟨p.source, .accepting d key service⟩
  stamped : p.stamp = s.stamp
  stamp : t.stamp = s.stamp + 1
  channels : t.controlChannels = s.controlChannels
  reload : t.reload = s.reload
  pending : ∀ c', t.pending c' = if c' = c then some p else s.pending c'
  session : ∀ c', t.session c' =
    if c' = c then some ⟨p.service, p.source, now, .running⟩ else s.session c'
  gone : ∀ c', s.gone c' → c' ≠ c ∧ t.gone c'
  entries : ∀ name, t.runtime.services.lookup name =
    if name = p.service.name then
      some (.server ⟨.connected, some p.source, some now, none⟩)
    else s.runtime.services.lookup name

theorem entered_of_connect {c now : Nat} (moved : s.connect c now = some t) :
    Quiet s t ∨ ∃ p, Entered s t c p now := by
  obtain ⟨source, d, key, service, found, rfl | ⟨entry, present, rfl⟩⟩ := connect_cases moved
  · exact .inl (.close found nofun rfl)
  · refine .inr ⟨⟨source, d, key, service, s.stamp⟩, ⟨d, key, service, found⟩, rfl, rfl, rfl, rfl,
      fun c' => ?_, fun c' => ?_, fun c' gone => ?_, fun name => ?_⟩
    · simp only [State.pending, State.enter, lookup_insert_eq]
      split <;> rfl
    · simp only [State.session, lookup_insert_eq]
      split <;> rfl
    · have other : c' ≠ c := by
        rintro rfl
        exact not_gone found nofun gone
      obtain ⟨source', gone⟩ := gone
      exact ⟨other, source', by simp only [State.enter, lookup_insert_eq, if_neg other, gone]⟩
    · exact lookup_insert_eq _ _ _ _

theorem Wired.enter {c now : Nat} {p : Pending D} (wired : Wired digest s)
    (entered : Entered s t c p now)
    (distinct : ∀ c' x, s.session c' = some x → ¬ (x.source = p.source ∧ x.since = now)) :
    Wired digest t := by
  obtain ⟨d, key, service, found⟩ := entered.phase
  have absent : s.session c = none := by
    cases held : s.session c with
    | none => rfl
    | some x =>
      rcases wired.live c x held with ⟨p, pending⟩ | gone
      · cases (pending_of_lookup found).symm.trans pending
      · exact absurd rfl (entered.gone c gone).1
  have flying : ∀ name k owner, InFlight t name k owner → k = s.stamp ∧ owner = some c ∨
      k < s.stamp ∧ InFlight s name k owner := by
    rintro name k owner (⟨pending, named⟩ | updating)
    · rw [entered.pending] at pending
      split at pending
      · next here =>
        cases pending
        exact .inl ⟨entered.stamped, congrArg some here⟩
      · exact .inr ⟨wired.below (.handshake pending named), .handshake pending named⟩
    · rw [entered.reload] at updating
      exact .inr ⟨wired.reload _ _ updating, .reload updating⟩
  refine ⟨by rw [entered.reload]; exact wired.hashed, ?_, ?_, ?_, ?_, ?_, ?_⟩
  · intro c' x session
    rw [entered.pending]
    rw [entered.session] at session
    split at session
    · next here => exact .inl ⟨p, if_pos here⟩
    · next other =>
      rw [if_neg other]
      exact (wired.live c' x session).imp_right fun gone => (entered.gone c' gone).2
  · intro c' q pending
    rw [entered.stamp, entered.session]
    rw [entered.pending] at pending
    split at pending
    · next here =>
      cases pending
      exact ⟨entered.stamped ▸ Nat.lt_succ_self _, _, if_pos here, rfl, rfl⟩
    · next other =>
      obtain ⟨below, x, session, same⟩ := wired.pending c' q pending
      exact ⟨Nat.lt_succ_of_lt below, x, (if_neg other).trans session, same⟩
  · intro name k updating
    rw [entered.stamp]
    rw [entered.reload] at updating
    exact Nat.lt_succ_of_lt (wired.reload name k updating)
  · intro d handle held
    rw [entered.channels] at held
    obtain ⟨named, gone, x, session, service⟩ := wired.stored d handle held
    have other := (entered.gone _ gone).1
    exact ⟨named, (entered.gone _ gone).2, x, by rw [entered.session, if_neg other, session], service⟩
  · intro name name' k owner owner' one two
    rcases flying name k owner one with ⟨rfl, rfl⟩ | ⟨below, one⟩ <;>
      rcases flying name' _ owner' two with ⟨same, rfl⟩ | ⟨below', two⟩
    · rfl
    · omega
    · omega
    · exact wired.stamps name name' k owner owner' one two
  · intro c₁ c₂ x₁ x₂ one two source since
    rw [entered.session] at one two
    split at one <;> split at two
    · next here there => rw [here, there]
    · cases one
      exact absurd ⟨source.symm, since.symm⟩ (distinct c₂ x₂ two)
    · cases two
      exact absurd ⟨source, since⟩ (distinct c₁ x₁ one)
    · exact wired.distinct c₁ c₂ x₁ x₂ one two source since

/-- A handshake leaves the flight, by its map update or because it was cancelled. -/
structure Left (s t : State D) (c : Nat) (p : Pending D) : Prop where
  was : s.pending c = some p
  stamp : t.stamp = s.stamp
  reload : t.reload = s.reload
  entries : t.runtime.services = s.runtime.services
  session : ∀ c', t.session c' = s.session c'
  pending : ∀ c', t.pending c' = if c' = c then none else s.pending c'
  gone : ∀ c', s.gone c' ∨ c' = c → t.gone c'

theorem left_of_close {c : Nat} {source : SocketAddr} {p : Pending D} (was : s.pending c = some p)
    (channels : MultiMap D D Handle) :
    Left s { s.close c source with controlChannels := channels } c p := by
  refine ⟨was, rfl, rfl, rfl, fun _ => rfl, fun c' => ?_, ?_⟩
  · simp only [State.pending, State.close, lookup_insert_eq]
    split <;> rfl
  · intro c' gone
    by_cases here : c' = c
    · exact ⟨source, by simp only [State.close, lookup_insert_eq, if_pos here]⟩
    · obtain ⟨source', found⟩ := gone.resolve_right here
      exact ⟨source', by simp only [State.close, lookup_insert_eq, if_neg here, found]⟩

theorem Left.inFlight {c : Nat} {p : Pending D} (left : Left s t c p) {name : String} {k : Nat}
    {owner : Option Nat} :
    InFlight t name k owner ↔ InFlight s name k owner ∧ owner ≠ some c := by
  constructor
  · rintro (⟨pending, named⟩ | updating)
    · rw [left.pending] at pending
      split at pending
      · cases pending
      · next other => exact ⟨.handshake pending named, fun same => other (Option.some.inj same)⟩
    · rw [left.reload] at updating
      exact ⟨.reload updating, nofun⟩
  · rintro ⟨⟨pending, named⟩ | updating, other⟩
    · refine .handshake ?_ named
      rw [left.pending, if_neg fun here => other (congrArg some here), pending]
    · exact .reload (left.reload ▸ updating)

theorem Wired.leave {c : Nat} {p : Pending D} (wired : Wired digest s) (left : Left s t c p)
    (named : digest (asBytes p.service.name) = p.digest)
    (channels : ∀ d handle, t.controlChannels.get1 d = some handle →
      d = p.digest ∧ handle = ⟨c, p.service⟩ ∨ s.controlChannels.get1 d = some handle) :
    Wired digest t := by
  refine ⟨by rw [left.reload]; exact wired.hashed, ?_, ?_, ?_, ?_, ?_, ?_⟩
  · intro c' x session
    rw [left.session] at session
    rw [left.pending]
    split
    · next here => exact .inr (left.gone c' (.inr here))
    · exact (wired.live c' x session).imp_right fun gone => left.gone c' (.inl gone)
  · intro c' q pending
    rw [left.pending] at pending
    rw [left.stamp, left.session]
    split at pending
    · cases pending
    · exact wired.pending c' q pending
  · intro name k updating
    rw [left.stamp]
    rw [left.reload] at updating
    exact wired.reload name k updating
  · intro d handle held
    rw [left.session]
    rcases channels d handle held with ⟨rfl, rfl⟩ | before
    · obtain ⟨-, x, session, service, -⟩ := wired.pending c p left.was
      exact ⟨named, left.gone c (.inr rfl), x, session, service⟩
    · obtain ⟨named, gone, stored⟩ := wired.stored d handle before
      exact ⟨named, left.gone _ (.inl gone), stored⟩
  · intro name name' k owner owner' one two
    exact wired.stamps name name' k owner owner' (left.inFlight.mp one).1 (left.inFlight.mp two).1
  · intro c₁ c₂ x₁ x₂ one two
    rw [left.session] at one two
    exact wired.distinct c₁ c₂ x₁ x₂ one two

/-- A reload starts: only the registry entry of its service changes. -/
structure Began (s t : State D) (name : String) : Prop where
  idle : s.reload = .idle
  updating : t.reload.updating = some (name, s.stamp)
  hashed : ∀ digest, t.reload.Hashed digest
  stamp : t.stamp = s.stamp + 1
  channels : t.controlChannels = s.controlChannels
  conns : t.conns = s.conns
  sessions : t.sessions = s.sessions
  others : ∀ other, other ≠ name →
    t.runtime.services.lookup other = s.runtime.services.lookup other
  waiting : ∀ entry, t.runtime.services.lookup name = some (.server entry) →
    entry.state = .waiting

theorem began_of_reload (idle : s.reload = .idle) (e : ConfigChange) :
    s.handleHotReload e = s ∨ ∃ name, Began s (s.handleHotReload e) name := by
  unfold State.handleHotReload
  split
  · next cfg =>
    refine .inr ⟨cfg.name, idle, rfl, fun _ => trivial, rfl, rfl, rfl, rfl, ?_, ?_⟩
    · intro other different
      exact Finmap.lookup_insert_of_ne _ different
    · intro entry found
      rw [RuntimeStatus.serverAdd, RuntimeStatus.RuntimeSnapshot.setServer,
        Finmap.lookup_insert] at found
      cases found
      rfl
  · next name =>
    refine .inr ⟨name, idle, rfl, fun _ => trivial, rfl, rfl, rfl, rfl, ?_, ?_⟩
    · intro other different
      exact Finmap.lookup_erase_ne different
    · intro entry found
      rw [RuntimeStatus.remove, Finmap.lookup_erase] at found
      cases found
  · exact .inl rfl

theorem Began.pending {name : String} (began : Began s t name) (c : Nat) :
    t.pending c = s.pending c := by rw [State.pending, began.conns, State.pending]

theorem Began.session {name : String} (began : Began s t name) (c : Nat) :
    t.session c = s.session c := by rw [State.session, began.sessions, State.session]

theorem Began.gone {name : String} (began : Began s t name) {c : Nat} (gone : s.gone c) :
    t.gone c := by simpa only [State.gone, began.conns] using gone

theorem Began.inFlight {name : String} (began : Began s t name) {name' : String} {k : Nat}
    {owner : Option Nat} :
    InFlight t name' k owner ↔
      InFlight s name' k owner ∨ name' = name ∧ k = s.stamp ∧ owner = none := by
  constructor
  · rintro (⟨pending, named⟩ | updating)
    · exact .inl (.handshake (began.pending _ ▸ pending) named)
    · cases began.updating.symm.trans updating
      exact .inr ⟨rfl, rfl, rfl⟩
  · rintro ((⟨pending, named⟩ | updating) | ⟨rfl, rfl, rfl⟩)
    · exact .handshake ((began.pending _).trans pending) named
    · rw [began.idle] at updating
      cases updating
    · exact .reload began.updating

theorem Wired.begin {name : String} (wired : Wired digest s) (began : Began s t name) :
    Wired digest t := by
  refine ⟨began.hashed digest, ?_, ?_, ?_, ?_, ?_, ?_⟩
  · intro c x session
    rw [began.session] at session
    rw [began.pending]
    exact (wired.live c x session).imp_right began.gone
  · intro c p pending
    rw [began.pending] at pending
    rw [began.session, began.stamp]
    exact (wired.pending c p pending).imp_left Nat.lt_succ_of_lt
  · intro name' k updating
    cases began.updating.symm.trans updating
    rw [began.stamp]
    exact Nat.lt_succ_self _
  · intro d handle held
    rw [began.channels] at held
    rw [began.session]
    obtain ⟨named, gone, stored⟩ := wired.stored d handle held
    exact ⟨named, began.gone gone, stored⟩
  · intro name₁ name₂ k owner owner' one two
    rcases began.inFlight.mp one with one | ⟨-, rfl, rfl⟩ <;>
      rcases began.inFlight.mp two with two | ⟨-, same, rfl⟩
    · exact wired.stamps name₁ name₂ k owner owner' one two
    · exact absurd (wired.below one) (by omega)
    · exact absurd (wired.below two) (Nat.lt_irrefl _)
    · rfl
  · intro c₁ c₂ x₁ x₂ one two
    rw [began.session] at one two
    exact wired.distinct c₁ c₂ x₁ x₂ one two

/-- The reload clears the map and is over. -/
structure Finished (digest : List UInt8 → D) (s t : State D) (name : String) (k : Nat) :
    Prop where
  updating : s.reload.updating = some (name, k)
  idle : t.reload = .idle
  stamp : t.stamp = s.stamp
  channels : ∀ d, t.controlChannels.get1 d =
    if d = digest (asBytes name) then none else s.controlChannels.get1 d
  conns : t.conns = s.conns
  sessions : t.sessions = s.sessions
  entries : t.runtime.services = s.runtime.services

theorem finished_of_reloadChannels (wired : Wired digest s) (moved : s.reloadChannels = some t) :
    ∃ name k, Finished digest s t name k := by
  obtain ⟨-, moved⟩ := Option.ite_none_right_eq_some.mp moved
  have hashed := wired.hashed
  split at moved
  · next name hash k added =>
    cases moved
    rw [added] at hashed
    exact ⟨name, k, by rw [added]; rfl, rfl, rfl,
      fun d => hashed ▸ MultiMap.get1_remove1 _ _ _, rfl, rfl, rfl⟩
  · next name hash k deleted =>
    cases moved
    rw [deleted] at hashed
    exact ⟨name, k, by rw [deleted]; rfl, rfl, rfl,
      fun d => hashed ▸ MultiMap.get1_remove1 _ _ _, rfl, rfl, rfl⟩
  · cases moved

theorem Finished.pending {name : String} {k : Nat} (finished : Finished digest s t name k)
    (c : Nat) : t.pending c = s.pending c := by
  rw [State.pending, finished.conns, State.pending]

theorem Finished.session {name : String} {k : Nat} (finished : Finished digest s t name k)
    (c : Nat) : t.session c = s.session c := by
  rw [State.session, finished.sessions, State.session]

theorem Finished.gone {name : String} {k : Nat} (finished : Finished digest s t name k) {c : Nat}
    (gone : s.gone c) : t.gone c := by simpa only [State.gone, finished.conns] using gone

theorem Finished.inFlight {name : String} {k : Nat} (finished : Finished digest s t name k)
    {name' : String} {k' : Nat} {owner : Option Nat} :
    InFlight t name' k' owner ↔ InFlight s name' k' owner ∧ owner ≠ none := by
  constructor
  · rintro (⟨pending, named⟩ | updating)
    · exact ⟨.handshake (finished.pending _ ▸ pending) named, nofun⟩
    · rw [finished.idle] at updating
      cases updating
  · rintro ⟨⟨pending, named⟩ | updating, other⟩
    · exact .handshake ((finished.pending _).trans pending) named
    · exact absurd rfl other

theorem Wired.finish {name : String} {k : Nat} (wired : Wired digest s)
    (finished : Finished digest s t name k) : Wired digest t := by
  refine ⟨by rw [finished.idle]; trivial, ?_, ?_, ?_, ?_, ?_, ?_⟩
  · intro c x session
    rw [finished.session] at session
    rw [finished.pending]
    exact (wired.live c x session).imp_right finished.gone
  · intro c p pending
    rw [finished.pending] at pending
    rw [finished.session, finished.stamp]
    exact wired.pending c p pending
  · intro name' k updating
    rw [finished.idle] at updating
    cases updating
  · intro d handle held
    rw [finished.channels] at held
    split at held
    · cases held
    · rw [finished.session]
      obtain ⟨named, gone, stored⟩ := wired.stored d handle held
      exact ⟨named, finished.gone gone, stored⟩
  · intro name₁ name₂ k owner owner' one two
    exact wired.stamps name₁ name₂ k owner owner' (finished.inFlight.mp one).1
      (finished.inFlight.mp two).1
  · intro c₁ c₂ x₁ x₂ one two
    rw [finished.session] at one two
    exact wired.distinct c₁ c₂ x₁ x₂ one two

end Rathole.Server
