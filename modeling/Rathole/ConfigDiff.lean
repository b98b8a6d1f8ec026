import Rathole.ConfigAccepted
import Rathole.ConfigChange
import Rathole.Reconcile

set_option autoImplicit false

/- What `calculate_events` answers: nothing for equal configurations, a restart when
more than services differs, and otherwise one event for every service that differs. -/
namespace Rathole

open InstanceConfig

def ServerConfig.withoutServices (config : ServerConfig) : ServerConfig :=
  { config with services := ∅ }

def ClientConfig.withoutServices (config : ClientConfig) : ClientConfig :=
  { config with services := ∅ }

/-- Everything of a configuration but its services: which sections there are, and the
other fields of each. -/
def Config.withoutServices (config : Config) : Config where
  server := config.server.map ServerConfig.withoutServices
  client := config.client.map ClientConfig.withoutServices

section Changes

variable {T S : Type} [DecidableEq S] [InstanceConfig T S]

/-- The events of two sections that differ in their services only. -/
def changes (T : Type) [InstanceConfig T S] (order : HashOrder) (old new : HashMap String S) :
    List ConfigChange :=
  (deletions order old new).map (serviceDeleteChange T) ++
    (additions order old new).map fun e => serviceAddChange T e.2

/-- The event that says what the new section has under a name. -/
def tell (T : Type) [InstanceConfig T S] (name : String) : Option S → ConfigChange
  | none => serviceDeleteChange T name
  | some service => serviceAddChange T service

omit [DecidableEq S] in
theorem mem_deletions (order : HashOrder) (old new : HashMap String S) (name : String) :
    name ∈ deletions order old new ↔ name ∈ old ∧ new.lookup name = none := by
  rw [deletions, List.mem_filter, order.mem_keys, Option.isNone_iff_eq_none]

theorem mem_additions (order : HashOrder) (old new : HashMap String S) (name : String) (service : S) :
    (name, service) ∈ additions order old new ↔
      new.lookup name = some service ∧ old.lookup name ≠ some service := by
  rw [additions, List.mem_filter, order.mem_entries, decide_eq_true_eq]

theorem nodup_additions (order : HashOrder) (old new : HashMap String S) :
    ((additions order old new).map Prod.fst).Nodup :=
  (order.nodup_keys new).sublist (List.filter_sublist.map _)

/-- The events of a section tell every difference between its two service tables once,
given that `key` reads the name off an event of the section. -/
theorem tells_changes (order : HashOrder) (old new : HashMap String S)
    {key : ConfigChange → Option String}
    (deletes : ∀ name, key (serviceDeleteChange T name) = some name)
    (adds : ∀ name service, new.lookup name = some service →
      key (serviceAddChange T service) = some name) :
    Reconcile.Tells key (tell T) old.lookup new.lookup (changes T order old new) := by
  have deleted : ((deletions order old new).map (serviceDeleteChange T)).filterMap key =
      deletions order old new := by
    rw [List.filterMap_map]
    exact (List.filterMap_congr fun name _ => deletes name).trans List.filterMap_some
  have added : ((additions order old new).map fun e => serviceAddChange T e.2).filterMap key =
      (additions order old new).map Prod.fst := by
    rw [List.filterMap_map, ← List.filterMap_eq_map]
    apply List.filterMap_congr
    rintro ⟨name, service⟩ member
    exact adds name service ((mem_additions order old new name service).mp member).1
  refine ⟨?_, fun e member name own => ?_, fun name differs => ?_⟩
  · rw [changes, List.filterMap_append, deleted, added, List.nodup_append]
    refine ⟨(order.nodup_keys old).filter _, nodup_additions order old new, ?_⟩
    rintro name left other right rfl
    obtain ⟨⟨name, service⟩, member, rfl⟩ := List.mem_map.mp right
    have gone := ((mem_deletions order old new name).mp left).2
    have here := ((mem_additions order old new name service).mp member).1
    rw [gone] at here
    cases here
  · rcases List.mem_append.mp member with member | member
    · obtain ⟨other, deleted, rfl⟩ := List.mem_map.mp member
      cases (deletes other).symm.trans own
      obtain ⟨held, gone⟩ := (mem_deletions order old new name).mp deleted
      rw [gone]
      exact ⟨Option.isSome_iff_ne_none.mp (Finmap.lookup_isSome.mpr held), rfl⟩
    · obtain ⟨⟨other, service⟩, added, rfl⟩ := List.mem_map.mp member
      obtain ⟨here, differs⟩ := (mem_additions order old new other service).mp added
      cases (adds other service here).symm.trans own
      rw [here]
      exact ⟨differs, rfl⟩
  · cases here : new.lookup name with
    | none =>
      refine ⟨List.mem_append_left _ (List.mem_map_of_mem ?_), deletes name⟩
      rw [here] at differs
      exact (mem_deletions order old new name).mpr
        ⟨Finmap.lookup_isSome.mp (Option.isSome_iff_ne_none.mpr differs), here⟩
    | some service =>
      rw [here] at differs
      have added := (mem_additions order old new name service).mpr ⟨here, differs⟩
      exact ⟨List.mem_append_right _ (List.mem_map.mpr ⟨_, added, rfl⟩), adds name service here⟩

theorem changes_self (order : HashOrder) (services : HashMap String S) :
    changes T order services services = [] := by
  have none_deleted : deletions order services services = [] := by
    rw [List.eq_nil_iff_forall_not_mem]
    intro name member
    obtain ⟨held, gone⟩ := (mem_deletions order services services name).mp member
    exact Option.isSome_iff_ne_none.mp (Finmap.lookup_isSome.mpr held) gone
  have none_added : additions order services services = [] := by
    rw [List.eq_nil_iff_forall_not_mem]
    rintro ⟨name, service⟩ member
    obtain ⟨here, differs⟩ := (mem_additions order services services name service).mp member
    exact differs here
  rw [changes, none_deleted, none_added]
  rfl

/-- The events of one section between two configurations. -/
def sectionChanges (order : HashOrder) : Option T → Option T → List ConfigChange
  | some old, some new => changes T order (getServices old) (getServices new)
  | _, _ => []

/-- `strip` forgets exactly what `equal_without_service` does not compare. -/
theorem sectionEvents_eq [DecidableEq T] (order : HashOrder) (strip : T → T)
    (stripped : ∀ old new : T, equalWithoutService old new = decide (strip old = strip new))
    {old new : Option T} (present : old.isSome = new.isSome) :
    sectionEvents order old new =
      if old.map strip = new.map strip then some (sectionChanges order old new) else none := by
  cases old with
  | none =>
    cases new with
    | none => rfl
    | some new => cases present
  | some old =>
    cases new with
    | none => cases present
    | some new =>
      simp only [Option.map_some, Option.some.injEq]
      by_cases same : old = new
      · subst same
        rw [sectionEvents, if_pos rfl, if_pos rfl, sectionChanges, changes_self]
      · rw [sectionEvents, if_neg fun h => same (Option.some.inj h)]
        simp only [calculateInstanceConfigEvents, stripped, decide_eq_true_eq]
        rfl

/-- What holds of both kinds of events holds of every event of the section. -/
theorem forall_sectionChanges {P : ConfigChange → Prop}
    (deletes : ∀ name, P (serviceDeleteChange T name)) (adds : ∀ service, P (serviceAddChange T service))
    {order : HashOrder} {old new : Option T} {e : ConfigChange}
    (member : e ∈ sectionChanges order old new) : P e := by
  unfold sectionChanges at member
  split at member
  · rcases List.mem_append.mp member with member | member
    · obtain ⟨name, -, rfl⟩ := List.mem_map.mp member
      exact deletes name
    · obtain ⟨x, -, rfl⟩ := List.mem_map.mp member
      exact adds x.2
  · cases member

end Changes

theorem isSome_eq_of_map_eq {T U : Type} {f : T → U} {x y : Option T} (same : x.map f = y.map f) :
    x.isSome = y.isSome := by
  rw [← Option.isSome_map (f := f), same, Option.isSome_map]

/-- The three answers of `calculate_events`. -/
theorem calculateEvents_eq (order : HashOrder) (old new : Config) :
    calculateEvents order old new =
      if old = new then none
      else if old.withoutServices = new.withoutServices then
        some (sectionChanges order old.server new.server ++
          sectionChanges order old.client new.client)
      else some [.general new] := by
  unfold calculateEvents
  by_cases same : old = new
  · rw [if_pos same, if_pos same]
  · rw [if_neg same, if_neg same]
    by_cases present : old.server.isSome = new.server.isSome ∧ old.client.isSome = new.client.isSome
    · rw [if_neg (by rintro (h | h); exacts [h present.1, h present.2]),
        sectionEvents_eq order ServerConfig.withoutServices (fun _ _ => rfl) present.1,
        sectionEvents_eq order ClientConfig.withoutServices (fun _ _ => rfl) present.2]
      simp only [Config.withoutServices, Config.mk.injEq]
      by_cases server : old.server.map ServerConfig.withoutServices =
          new.server.map ServerConfig.withoutServices
      · by_cases client : old.client.map ClientConfig.withoutServices =
            new.client.map ClientConfig.withoutServices
        · simp only [server, client, if_true, and_self]
        · simp only [server, client, if_true, if_false, and_false]
      · simp only [server, if_false, false_and]
    · have absent : old.server.isSome ≠ new.server.isSome ∨ old.client.isSome ≠ new.client.isSome :=
        not_and_or.mp present
      rw [if_pos absent, if_neg]
      intro alike
      have server := isSome_eq_of_map_eq (congrArg Config.server alike)
      have client := isSome_eq_of_map_eq (congrArg Config.client alike)
      exact present ⟨server, client⟩

section Keys

variable {order : HashOrder} {old new : Config}

/-- The name of the service a server event is about. -/
def serverKey : ConfigChange → Option String
  | .serverChange (.add cfg) => some cfg.name
  | .serverChange (.delete name) => some name
  | _ => none

/-- The name of the service a client event is about. -/
def clientKey : ConfigChange → Option String
  | .clientChange (.add cfg) => some cfg.name
  | .clientChange (.delete name) => some name
  | _ => none

/-- What an event leaves at its name. -/
def serverOutcome : ConfigChange → Option ServerServiceConfig
  | .serverChange (.add cfg) => some cfg
  | _ => none

def clientOutcome : ConfigChange → Option ClientServiceConfig
  | .clientChange (.add cfg) => some cfg
  | _ => none

/-- The events between two accepted configurations that differ in services only. -/
structure ServiceEvents (old new : Config) (events : List ConfigChange) : Prop where
  alike : old.withoutServices = new.withoutServices
  special : ∀ e ∈ events, e.isGeneral = false
  server : ∀ o n, old.server = some o → new.server = some n →
    Reconcile.Tells serverKey (tell ServerConfig) o.services.lookup n.services.lookup events
  client : ∀ o n, old.client = some o → new.client = some n →
    Reconcile.Tells clientKey (tell ClientConfig) o.services.lookup n.services.lookup events

/-- Neither section asks for a restart by an event of its own. -/
theorem special_sectionChanges {e : ConfigChange}
    (member : e ∈ sectionChanges order old.server new.server ++
      sectionChanges order old.client new.client) : e.isGeneral = false := by
  rcases List.mem_append.mp member with member | member
  · exact forall_sectionChanges (P := fun e => e.isGeneral = false) (fun _ => rfl) (fun _ => rfl)
      member
  · exact forall_sectionChanges (P := fun e => e.isGeneral = false) (fun _ => rfl) (fun _ => rfl)
      member

theorem ServiceEvents.server_alike {events : List ConfigChange} (told : ServiceEvents old new events)
    {o n : ServerConfig} (before : old.server = some o) (after : new.server = some n) :
    o.withoutServices = n.withoutServices := by
  have alike : old.server.map _ = new.server.map _ := congrArg Config.server told.alike
  rw [before, after] at alike
  exact Option.some.inj alike

theorem ServiceEvents.client_alike {events : List ConfigChange} (told : ServiceEvents old new events)
    {o n : ClientConfig} (before : old.client = some o) (after : new.client = some n) :
    o.withoutServices = n.withoutServices := by
  have alike : old.client.map _ = new.client.map _ := congrArg Config.client told.alike
  rw [before, after] at alike
  exact Option.some.inj alike

theorem calculateEvents_none : calculateEvents order old new = none ↔ old = new := by
  rw [calculateEvents_eq]
  constructor
  · intro none_told
    by_contra differs
    rw [if_neg differs] at none_told
    split at none_told <;> cases none_told
  · exact fun same => if_pos same

/-- The section lists hold no General, so the only list with one is the restart. -/
theorem calculateEvents_general (config : Config) :
    calculateEvents order old new = some [.general config] ↔
      config = new ∧ old.withoutServices ≠ new.withoutServices := by
  rw [calculateEvents_eq]
  constructor
  · intro told
    split at told
    · cases told
    · split at told
      · have member : ConfigChange.general config ∈ sectionChanges order old.server new.server ++
            sectionChanges order old.client new.client := by
          rw [Option.some.inj told]
          exact List.mem_singleton_self _
        cases special_sectionChanges member
      · next restarts =>
        cases told
        exact ⟨rfl, restarts⟩
  · rintro ⟨rfl, restarts⟩
    rw [if_neg fun same => restarts (congrArg _ same), if_neg restarts]

/-- Every other answer is a list of service events. -/
theorem calculateEvents_services {events : List ConfigChange} (filled : new.Filled)
    (told : calculateEvents order old new = some events)
    (alike : old.withoutServices = new.withoutServices) : ServiceEvents old new events := by
  rw [calculateEvents_eq] at told
  split at told
  · cases told
  · cases told
    refine ⟨alike, fun e => special_sectionChanges, fun o n before after => ?_,
      fun o n before after => ?_⟩
    · have own : Reconcile.Tells serverKey (tell ServerConfig) o.services.lookup n.services.lookup
          (changes ServerConfig order o.services n.services) :=
        tells_changes order o.services n.services (fun _ => rfl) fun name service found =>
          congrArg some (filled.server n after name service found).name
      have silent : ∀ e ∈ sectionChanges order old.client new.client, serverKey e = none :=
        fun e => forall_sectionChanges (P := fun e => serverKey e = none) (fun _ => rfl) (fun _ => rfl)
      have widened := own.append (fun _ member => absurd member List.not_mem_nil) silent
      rw [before, after]
      exact widened
    · have own : Reconcile.Tells clientKey (tell ClientConfig) o.services.lookup n.services.lookup
          (changes ClientConfig order o.services n.services) :=
        tells_changes order o.services n.services (fun _ => rfl) fun name service found =>
          congrArg some (filled.client n after name service found).name
      have silent : ∀ e ∈ sectionChanges order old.server new.server, clientKey e = none :=
        fun e => forall_sectionChanges (P := fun e => clientKey e = none) (fun _ => rfl) (fun _ => rfl)
      have widened := own.append silent fun _ member => absurd member List.not_mem_nil
      rw [List.append_nil] at widened
      rw [before, after]
      exact widened

end Keys

end Rathole
