import Rathole.ConfigResolved
import Rathole.ConfigServices
import Rathole.SchemaSame

set_option autoImplicit false

/- What a running instance is told when services are added to its configuration file, or removed
from it. -/
namespace Rathole

open InstanceConfig
open ConfigEdit (ServiceSide)

section Changes

variable {T S : Type} [DecidableEq S] [InstanceConfig T S]

/-- One event for every name that is told differently, in some order. -/
theorem changes_perm (order : HashOrder) (old new : HashMap String S) {names : List String}
    (nodup : names.Nodup) (differ : ∀ n, n ∈ names ↔ old.lookup n ≠ new.lookup n) :
    (changes T order old new).Perm (names.map fun n => tell T n (new.lookup n)) := by
  have told : changes T order old new =
      (deletions order old new ++ (additions order old new).map Prod.fst).map
        fun n => tell T n (new.lookup n) := by
    rw [changes, List.map_append, List.map_map]
    congr 1
    · refine List.map_congr_left fun n member => ?_
      rw [((mem_deletions order old new n).mp member).2]
      rfl
    · refine List.map_congr_left fun e member => ?_
      obtain ⟨n, service⟩ := e
      rw [Function.comp_apply, ((mem_additions order old new n service).mp member).1]
      rfl
  rw [told]
  refine List.Perm.map _ ((List.perm_ext_iff_of_nodup ?_ nodup).mpr fun n => ?_)
  · rw [List.nodup_append]
    refine ⟨(order.nodup_keys old).filter _, nodup_additions order old new, ?_⟩
    rintro n left other right rfl
    obtain ⟨⟨n, service⟩, member, rfl⟩ := List.mem_map.mp right
    have gone := ((mem_deletions order old new n).mp left).2
    rw [((mem_additions order old new n service).mp member).1] at gone
    cases gone
  · rw [differ, List.mem_append, mem_deletions, List.mem_map]
    constructor
    · rintro (⟨held, gone⟩ | ⟨⟨n, service⟩, member, rfl⟩)
      · rw [gone]
        exact Option.isSome_iff_ne_none.mp (Finmap.lookup_isSome.mpr held)
      · obtain ⟨here, other⟩ := (mem_additions order old new n service).mp member
        rwa [here]
    · intro other
      cases here : new.lookup n with
      | none =>
        rw [here] at other
        exact .inl ⟨Finmap.lookup_isSome.mp (Option.isSome_iff_ne_none.mpr other), rfl⟩
      | some service =>
        rw [here] at other
        exact .inr ⟨(n, service), (mem_additions order old new n service).mpr ⟨here, other⟩, rfl⟩

end Changes

/-- The names are there on one side and not on the other, and all others are as they were. -/
structure EditedServices {S : Type} (names : List String) (old new : HashMap String S) : Prop where
  same : ∀ n, n ∉ names → new.lookup n = old.lookup n
  edited : ∀ n ∈ names, (new.lookup n).isSome ≠ (old.lookup n).isSome

theorem EditedServices.differ {S : Type} {names : List String} {old new : HashMap String S}
    (edit : EditedServices names old new) (n : String) :
    n ∈ names ↔ old.lookup n ≠ new.lookup n := by
  constructor
  · intro member same
    exact edit.edited n member (by rw [same])
  · intro other
    by_contra absent
    exact other (edit.same n absent).symm

namespace Config

/-- The names of one side. -/
def namesOf (side : ServiceSide) (edited : List (ServiceSide × String)) : List String :=
  (edited.filter fun e => e.1 = side).map Prod.snd

/-- What an instance is told of a name. -/
def event (config : Config) : ServiceSide × String → ConfigChange
  | (.server, n) => tell ServerConfig n (config.server.bind fun s => s.services.lookup n)
  | (.client, n) => tell ClientConfig n (config.client.bind fun c => c.services.lookup n)

/-- Nothing but the services of these sides and names is edited. -/
structure Edited (edited : List (ServiceSide × String)) (old new : Config) : Prop where
  alike : old.withoutServices = new.withoutServices
  server : ∀ o n, old.server = some o → new.server = some n →
    EditedServices (namesOf .server edited) o.services n.services
  client : ∀ o n, old.client = some o → new.client = some n →
    EditedServices (namesOf .client edited) o.services n.services
  held : (namesOf .server edited ≠ [] → old.server.isSome = true) ∧
    (namesOf .client edited ≠ [] → old.client.isSome = true)

section Events

variable {edited : List (ServiceSide × String)} {old new : Config}

theorem nodup_namesOf (nodup : edited.Nodup) (side : ServiceSide) :
    (namesOf side edited).Nodup := by
  refine List.Nodup.map_on ?_ (nodup.filter _)
  rintro ⟨left, n⟩ first ⟨right, m⟩ second same
  have own := (List.mem_filter.mp first).2
  have other := (List.mem_filter.mp second).2
  simp only [decide_eq_true_eq] at own other
  exact Prod.ext (own.trans other.symm) same

/-- The edited names, side by side. -/
theorem perm_namesOf (edited : List (ServiceSide × String)) :
    edited.Perm ((namesOf .server edited).map (ServiceSide.server, ·) ++
      (namesOf .client edited).map (ServiceSide.client, ·)) := by
  induction edited with
  | nil => exact .nil
  | cons e edited ih =>
    obtain ⟨side, n⟩ := e
    cases side with
    | server => exact (ih.cons _)
    | client => exact (ih.cons _).trans List.perm_middle.symm

/-- The events of an edit are those of the names that were edited. -/
theorem events_of_edited (order : HashOrder) (nodup : edited.Nodup) (edit : Edited edited old new) :
    ((calculateEvents order old new).getD []).Perm (edited.map new.event) := by
  have server : (sectionChanges order old.server new.server).Perm
      (((namesOf .server edited).map (ServiceSide.server, ·)).map new.event) := by
    rw [List.map_map]
    have same := isSome_eq_of_map_eq (congrArg Config.server edit.alike)
    cases before : old.server with
    | none =>
      have none_ : namesOf .server edited = [] := by
        by_contra some_
        have held := edit.held.1 some_
        rw [before] at held
        cases held
      rw [none_]
      exact .nil
    | some o =>
      rw [before] at same
      obtain ⟨n, after⟩ := Option.isSome_iff_exists.mp same.symm
      have own := changes_perm (T := ServerConfig) order o.services n.services
        (nodup_namesOf nodup .server) (edit.server o n before after).differ
      rw [after]
      refine own.trans (List.Perm.of_eq (List.map_congr_left fun name _ => ?_))
      simp only [Function.comp_apply, event, after, Option.bind_some]
  have client : (sectionChanges order old.client new.client).Perm
      (((namesOf .client edited).map (ServiceSide.client, ·)).map new.event) := by
    rw [List.map_map]
    have same := isSome_eq_of_map_eq (congrArg Config.client edit.alike)
    cases before : old.client with
    | none =>
      have none_ : namesOf .client edited = [] := by
        by_contra some_
        have held := edit.held.2 some_
        rw [before] at held
        cases held
      rw [none_]
      exact .nil
    | some o =>
      rw [before] at same
      obtain ⟨n, after⟩ := Option.isSome_iff_exists.mp same.symm
      have own := changes_perm (T := ClientConfig) order o.services n.services
        (nodup_namesOf nodup .client) (edit.client o n before after).differ
      rw [after]
      refine own.trans (List.Perm.of_eq (List.map_congr_left fun name _ => ?_))
      simp only [Function.comp_apply, event, after, Option.bind_some]
  have both := (server.append client).trans
    (List.Perm.of_eq List.map_append.symm |>.trans ((perm_namesOf edited).symm.map new.event))
  rw [calculateEvents_eq]
  by_cases same : old = new
  · subst same
    have server : sectionChanges order old.server old.server = [] := by
      cases old.server with
      | none => rfl
      | some o => exact changes_self order o.services
    have client : sectionChanges order old.client old.client = [] := by
      cases old.client with
      | none => rfl
      | some o => exact changes_self order o.services
    rw [server, client] at both
    rw [if_pos rfl]
    exact both
  · rw [if_neg same, if_pos edit.alike]
    exact both

end Events

section Validated

variable {edited : List (ServiceSide × String)} {parsed parsed' old new : Config}
  {order order' : HashOrder}

theorem withoutServices_validated (valid : validateSections order parsed = .ok old) :
    old.withoutServices = parsed.withoutServices := by
  obtain ⟨server, client, -⟩ := validateSections_iff.mp valid
  have servers : old.server.map ServerConfig.withoutServices =
      parsed.server.map ServerConfig.withoutServices := by
    cases after : old.server with
    | none =>
      have same := mapM_isNone server
      rw [after] at same
      rw [Option.isNone_iff_eq_none.mp same.symm]
    | some o =>
      rw [after] at server
      obtain ⟨s, held, checked⟩ := mapM_ok server
      have same := (validateServerConfig_iff.mp checked).2.1
      rw [held, Option.map_some, Option.map_some, same]
      rfl
  have clients : old.client.map ClientConfig.withoutServices =
      parsed.client.map ClientConfig.withoutServices := by
    cases after : old.client with
    | none =>
      have same := mapM_isNone client
      rw [after] at same
      rw [Option.isNone_iff_eq_none.mp same.symm]
    | some o =>
      rw [after] at client
      obtain ⟨s, held, checked⟩ := mapM_ok client
      have same := (validateClientConfig_iff.mp checked).2.1
      rw [held, Option.map_some, Option.map_some, same]
      rfl
  rw [Config.withoutServices, servers, clients]
  rfl

theorem editedServices_filled {V : Type} {names : List String} {fill : String → V → V}
    {s s' o n : HashMap String V} (edit : EditedServices names s s') (before : Fills fill s o)
    (after : Fills fill s' n) : EditedServices names o n := by
  constructor
  · intro name other
    rw [after name, before name, edit.same name other]
  · intro name member
    rw [after name, before name, Option.isSome_map, Option.isSome_map]
    exact edit.edited name member

/-- Defaults are filled in alike before and after an edit. -/
theorem Edited.validated (edit : Edited edited parsed parsed')
    (valid : validateSections order parsed = .ok old)
    (valid' : validateSections order' parsed' = .ok new) : Edited edited old new := by
  have alike : old.withoutServices = new.withoutServices := by
    rw [withoutServices_validated valid, withoutServices_validated valid', edit.alike]
  obtain ⟨server, client, -⟩ := validateSections_iff.mp valid
  obtain ⟨server', client', -⟩ := validateSections_iff.mp valid'
  refine ⟨alike, fun o n before after => ?_, fun o n before after => ?_, fun some_ => ?_,
    fun some_ => ?_⟩
  · rw [before] at server
    rw [after] at server'
    obtain ⟨s, held, checked⟩ := mapM_ok server
    obtain ⟨s', held', checked'⟩ := mapM_ok server'
    have same : parsed.server.map ServerConfig.withoutServices =
        parsed'.server.map ServerConfig.withoutServices := congrArg Config.server edit.alike
    rw [held, held', Option.map_some, Option.map_some] at same
    have token : s.withoutServices.defaultToken = s'.withoutServices.defaultToken := by
      rw [Option.some.inj same]
    change s.defaultToken = s'.defaultToken at token
    have fills := (validateServerConfig_iff.mp checked).2.2
    have fills' := (validateServerConfig_iff.mp checked').2.2
    rw [← token] at fills'
    exact editedServices_filled (edit.server s s' held held') fills fills'
  · rw [before] at client
    rw [after] at client'
    obtain ⟨s, held, checked⟩ := mapM_ok client
    obtain ⟨s', held', checked'⟩ := mapM_ok client'
    have same : parsed.client.map ClientConfig.withoutServices =
        parsed'.client.map ClientConfig.withoutServices := congrArg Config.client edit.alike
    rw [held, held', Option.map_some, Option.map_some] at same
    have fill : fillClient s'.withoutServices = fillClient s.withoutServices := by
      rw [Option.some.inj same]
    change fillClient s' = fillClient s at fill
    have fills := (validateClientConfig_iff.mp checked).2.2
    have fills' := (validateClientConfig_iff.mp checked').2.2
    rw [fill] at fills'
    exact editedServices_filled (edit.client s s' held held') fills fills'
  · have present := edit.held.1 some_
    rw [← Option.not_isNone, mapM_isNone server, Option.not_isNone]
    exact present
  · have present := edit.held.2 some_
    rw [← Option.not_isNone, mapM_isNone client, Option.not_isNone]
    exact present

end Validated

end Config

namespace Schema

open Toml (Value Table)
open Config (namesOf Edited)

/-- The tables of services of a section differ at these names, and nothing else does. -/
structure SectionEdited (names : List String) (u u' : Table) : Prop where
  alike : Alike "services" u u'
  services : ∃ s s', u.lookup "services" = some (.table s) ∧
    u'.lookup "services" = some (.table s') ∧ (∀ n, n ∉ names → s'.lookup n = s.lookup n) ∧
    ∀ n ∈ names, (s'.lookup n).isSome ≠ (s.lookup n).isSome

/-- The sections differ at these services, and nothing else of them does. -/
def TableEdited (edited : List (ServiceSide × String)) (t t' : Table) : Prop :=
  ∀ side : ServiceSide,
    (namesOf side edited = [] ∧ t'.lookup side.key = t.lookup side.key) ∨
      ∃ u u', t.lookup side.key = some (.table u) ∧ t'.lookup side.key = some (.table u') ∧
        SectionEdited (namesOf side edited) u u'

section Read

variable {A : Type} {read : Value → Option A} {s s' : Table} {m m' : HashMap String A}

theorem isSome_lookup_entries (found : entries read s = some m) (n : String) :
    (m.lookup n).isSome = (s.lookup n).isSome := by
  rw [lookup_entries found]
  cases held : s.lookup n with
  | none => rfl
  | some v =>
    have all := entries_isSome.mp (Option.isSome_of_eq_some found)
    exact all (n, v) (Toml.mem_of_lookup held)

theorem editedServices_of_section {u u' : Table} {names : List String}
    (edit : SectionEdited names u u')
    (found : required u "services" (hashMap read) = some m)
    (found' : required u' "services" (hashMap read) = some m') : EditedServices names m m' := by
  obtain ⟨s, s', held, held', same, edited⟩ := edit.services
  rw [required, held] at found
  rw [required, held'] at found'
  have entries_ : entries read s = some m := found
  have entries' : entries read s' = some m' := found'
  constructor
  · intro n other
    rw [lookup_entries entries', lookup_entries entries_, same n other]
  · intro n member
    rw [isSome_lookup_entries entries', isSome_lookup_entries entries_]
    exact edited n member

variable {parseUrl : String → Option Url} {u u' : Table} {names : List String}

theorem server_edited {c c' : ServerConfig} (edit : SectionEdited names u u')
    (here : server parseUrl (.table u) = some c) (here' : server parseUrl (.table u') = some c') :
    c.withoutServices = c'.withoutServices ∧ EditedServices names c.services c'.services := by
  have fields := (server_iff c).mp here
  have fields' := (server_iff c').mp here'
  have again := (server_iff _).mpr (fields.withServices edit.alike fields'.services)
  refine ⟨?_, editedServices_of_section edit fields.services fields'.services⟩
  rw [Option.some.inj (here'.symm.trans again)]
  rfl

theorem client_edited {c c' : ClientConfig} (edit : SectionEdited names u u')
    (here : client parseUrl (.table u) = some c) (here' : client parseUrl (.table u') = some c') :
    c.withoutServices = c'.withoutServices ∧ EditedServices names c.services c'.services := by
  have fields := (client_iff c).mp here
  have fields' := (client_iff c').mp here'
  have again := (client_iff _).mpr (fields.withServices edit.alike fields'.services)
  refine ⟨?_, editedServices_of_section edit fields.services fields'.services⟩
  rw [Option.some.inj (here'.symm.trans again)]
  rfl

/-- What is read from an edited table is edited at the same services. -/
theorem edited_of_tables {edited : List (ServiceSide × String)} {t t' : Table}
    {parsed parsed' : Config} (edit : TableEdited edited t t')
    (here : config parseUrl t = some parsed) (here' : config parseUrl t' = some parsed') :
    Edited edited parsed parsed' := by
  obtain ⟨-, server, client⟩ := (config_iff parsed).mp here
  obtain ⟨-, server', client'⟩ := (config_iff parsed').mp here'
  have servers : parsed.server.map ServerConfig.withoutServices =
      parsed'.server.map ServerConfig.withoutServices ∧
      (∀ o n, parsed.server = some o → parsed'.server = some n →
        EditedServices (namesOf .server edited) o.services n.services) ∧
      (namesOf .server edited ≠ [] → parsed.server.isSome = true) := by
    rcases edit .server with ⟨none_, same⟩ | ⟨u, u', held, held', sections⟩
    · change t'.lookup "server" = t.lookup "server" at same
      rw [optional_congr same, server] at server'
      rw [Option.some.inj server'.symm]
      refine ⟨rfl, fun o n before after => ?_, fun some_ => absurd none_ some_⟩
      rw [before] at after
      cases after
      rw [none_]
      exact ⟨fun n _ => rfl, fun n member => absurd member List.not_mem_nil⟩
    · obtain ⟨c, own, read⟩ := ConfigEdit.optional_of_lookup server held
      obtain ⟨c', own', read'⟩ := ConfigEdit.optional_of_lookup server' held'
      obtain ⟨alike, services⟩ := server_edited sections read read'
      rw [own, own']
      refine ⟨congrArg some alike, ?_, fun _ => rfl⟩
      rintro o n ⟨⟩ ⟨⟩
      exact services
  have clients : parsed.client.map ClientConfig.withoutServices =
      parsed'.client.map ClientConfig.withoutServices ∧
      (∀ o n, parsed.client = some o → parsed'.client = some n →
        EditedServices (namesOf .client edited) o.services n.services) ∧
      (namesOf .client edited ≠ [] → parsed.client.isSome = true) := by
    rcases edit .client with ⟨none_, same⟩ | ⟨u, u', held, held', sections⟩
    · change t'.lookup "client" = t.lookup "client" at same
      rw [optional_congr same, client] at client'
      rw [Option.some.inj client'.symm]
      refine ⟨rfl, fun o n before after => ?_, fun some_ => absurd none_ some_⟩
      rw [before] at after
      cases after
      rw [none_]
      exact ⟨fun n _ => rfl, fun n member => absurd member List.not_mem_nil⟩
    · obtain ⟨c, own, read⟩ := ConfigEdit.optional_of_lookup client held
      obtain ⟨c', own', read'⟩ := ConfigEdit.optional_of_lookup client' held'
      obtain ⟨alike, services⟩ := client_edited sections read read'
      rw [own, own']
      refine ⟨congrArg some alike, ?_, fun _ => rfl⟩
      rintro o n ⟨⟩ ⟨⟩
      exact services
  obtain ⟨sameServer, server, serverHeld⟩ := servers
  obtain ⟨sameClient, client, clientHeld⟩ := clients
  exact ⟨by rw [Config.withoutServices, sameServer, sameClient]; rfl, server, client, serverHeld,
    clientHeld⟩

end Read

section Put

variable {edited : List (ServiceSide × String)} {t t' u s new : Table} {side : ServiceSide}
  {n : String}

/-- The table of services of a side. -/
def servicesIn (t : Table) (side : ServiceSide) : Table := (t.inner side.key).inner "services"

theorem namesOf_append (other : ServiceSide) : namesOf other (edited ++ [(side, n)]) =
    namesOf other edited ++ if side = other then [n] else [] := by
  unfold namesOf
  rw [List.filter_append, List.map_append]
  congr 1
  by_cases same : side = other
  · rw [if_pos same, List.filter_cons_of_pos (by simpa using same)]
    rfl
  · rw [if_neg same, List.filter_cons_of_neg (by simpa using same)]
    rfl

theorem mem_namesOf : n ∈ namesOf side edited ↔ (side, n) ∈ edited := by
  unfold namesOf
  rw [List.mem_map]
  constructor
  · rintro ⟨⟨other, m⟩, member, rfl⟩
    obtain ⟨held, same⟩ := List.mem_filter.mp member
    cases of_decide_eq_true same
    exact held
  · intro held
    exact ⟨(side, n), List.mem_filter.mpr ⟨held, by simp⟩, rfl⟩

theorem inner_of_lookup {key : String} (held : t.lookup key = some (.table u)) :
    t.inner key = u := by
  unfold Table.inner
  rw [held]

theorem servicesIn_of_lookup (held : t.lookup side.key = some (.table u))
    (listed : u.lookup "services" = some (.table s)) : servicesIn t side = s := by
  unfold servicesIn
  rw [inner_of_lookup held, inner_of_lookup listed]

theorem servicesIn_put (other : ServiceSide) : servicesIn
    (t.put [side.key, "services"] (.table new)) other =
      if other = side then new else servicesIn t other := by
  unfold servicesIn
  change Table.inner (Table.inner (Toml.insertKey t side.key _) other.key) "services" = _
  by_cases same : other = side
  · rw [if_pos same, same, Toml.inner_insertKey]
    exact Toml.inner_insertKey _ _ _
  · have apart : other.key ≠ side.key := ConfigEdit.key_ne_of_ne same
    have kept : Table.inner (Toml.insertKey t side.key
        (.table ((t.inner side.key).put ["services"] (.table new)))) other.key =
        t.inner other.key := by
      unfold Table.inner
      rw [Toml.lookup_insertKey, if_neg apart]
    rw [if_neg same, kept]

theorem TableEdited.refl (t : Table) : TableEdited [] t t := fun _ => .inl ⟨rfl, rfl⟩

/-- The section, of which every edit has left the table of services. -/
theorem TableEdited.section_ (edit : TableEdited edited t t')
    (held : t.lookup side.key = some (.table u)) (listed : u.lookup "services" = some (.table s)) :
    ∃ u' s', t'.lookup side.key = some (.table u') ∧ u'.lookup "services" = some (.table s') ∧
      SectionEdited (namesOf side edited) u u' ∧
      ∀ n, (side, n) ∉ edited → s'.lookup n = s.lookup n := by
  rcases edit side with ⟨none_, same⟩ | ⟨v, u', held', here, sections⟩
  · rw [none_]
    refine ⟨u, s, same.trans held, listed, ⟨fun _ _ => rfl, s, s, listed, listed, fun _ _ => rfl,
      fun n member => absurd member List.not_mem_nil⟩, fun _ _ => rfl⟩
  · rw [held] at held'
    cases held'
    obtain ⟨old, s', listed', there, same, -⟩ := sections.services
    rw [listed] at listed'
    cases listed'
    exact ⟨u', s', here, there, sections, fun n other => same n fun member =>
      other (mem_namesOf.mp member)⟩

/-- One more service is edited. -/
theorem TableEdited.edit (edit : TableEdited edited t t')
    (held : t.lookup side.key = some (.table u)) (listed : u.lookup "services" = some (.table s))
    (fresh : (side, n) ∉ edited)
    (same : ∀ m, m ≠ n → new.lookup m = (servicesIn t' side).lookup m)
    (differs : (new.lookup n).isSome ≠ ((servicesIn t' side).lookup n).isSome) :
    TableEdited (edited ++ [(side, n)]) t (t'.put [side.key, "services"] (.table new)) := by
  intro other
  change _ ∨ ∃ u u', t.lookup other.key = some (.table u) ∧
    (Toml.insertKey t' side.key (.table (Toml.insertKey (t'.inner side.key) "services"
      (.table new)))).lookup other.key = some (.table u') ∧ _
  rw [namesOf_append]
  by_cases own : side = other
  · subst own
    obtain ⟨u', s', here, there, sections, kept⟩ := edit.section_ held listed
    rw [servicesIn_of_lookup here there] at same differs
    obtain ⟨first, last, found, found', apart, edits⟩ := sections.services
    rw [listed] at found
    cases found
    rw [there] at found'
    cases found'
    rw [if_pos rfl, inner_of_lookup here]
    refine .inr ⟨u, Toml.insertKey u' "services" (.table new), held, ?_,
      ⟨fun key different => ?_, s, new, listed, ?_, fun m absent => ?_, fun m member => ?_⟩⟩
    · rw [Toml.lookup_insertKey, if_pos rfl]
    · rw [Toml.lookup_insertKey, if_neg different, sections.alike key different]
    · rw [Toml.lookup_insertKey, if_pos rfl]
    · obtain ⟨before, different⟩ := not_or.mp (mt List.mem_append.mpr absent)
      rw [same m fun equal => different (List.mem_singleton.mpr equal), apart m before]
    · by_cases equal : m = n
      · subst equal
        rw [← kept m fresh]
        exact differs
      · rcases List.mem_append.mp member with member | member
        · rw [same m equal]
          exact edits m member
        · exact absurd (List.mem_singleton.mp member) equal
  · rw [if_neg own, List.append_nil]
    have apart : other.key ≠ side.key := ConfigEdit.key_ne_of_ne (Ne.symm own)
    rw [Toml.lookup_insertKey, if_neg apart]
    have kept : (t'.put [side.key, "services"] (.table new)).lookup other.key =
        t'.lookup other.key := by
      change (Toml.insertKey t' side.key _).lookup other.key = _
      rw [Toml.lookup_insertKey, if_neg apart]
    rw [kept]
    exact edit other

/-- New services, each under a name that its table of services did not have. -/
theorem tableEdited_puts (news : List ((ServiceSide × String) × Value))
    (edit : TableEdited edited t t') (nodup : (edited ++ news.map Prod.fst).Nodup)
    (listed : ∀ e ∈ news, ∃ u s, t.lookup e.1.1.key = some (.table u) ∧
      u.lookup "services" = some (.table s) ∧ s.lookup e.1.2 = none) :
    TableEdited (edited ++ news.map Prod.fst) t
        (t'.puts (news.map fun e => ([e.1.1.key, "services", e.1.2], e.2))) ∧
      (∀ e ∈ news, (servicesIn (t'.puts
        (news.map fun e => ([e.1.1.key, "services", e.1.2], e.2))) e.1.1).lookup e.1.2 =
          some e.2) ∧
      ∀ side n, (side, n) ∉ news.map Prod.fst → (servicesIn (t'.puts
        (news.map fun e => ([e.1.1.key, "services", e.1.2], e.2))) side).lookup n =
          (servicesIn t' side).lookup n := by
  induction news generalizing edited t' with
  | nil =>
    rw [List.map_nil, List.append_nil]
    exact ⟨edit, fun e member => absurd member List.not_mem_nil, fun _ _ _ => rfl⟩
  | cons e news ih =>
    obtain ⟨⟨side, n⟩, v⟩ := e
    obtain ⟨u, s, held, services, vacant⟩ := listed _ List.mem_cons_self
    have split : edited ++ List.map Prod.fst (((side, n), v) :: news) =
        (edited ++ [(side, n)]) ++ news.map Prod.fst := by
      rw [List.append_assoc]
      rfl
    rw [split] at nodup ⊢
    have fresh : (side, n) ∉ edited := by
      intro member
      exact (List.nodup_append.mp (List.nodup_append.mp nodup).1).2.2 _ member _
        List.mem_cons_self rfl
    have later : (side, n) ∉ news.map Prod.fst := fun member =>
      (List.nodup_append.mp nodup).2.2 _ (List.mem_append_right _ List.mem_cons_self) _ member rfl
    obtain ⟨u', s', here, there, -, kept⟩ := edit.section_ held services
    have now := servicesIn_of_lookup here there
    have one : TableEdited (edited ++ [(side, n)]) t (t'.put [side.key, "services"]
        (.table (Toml.insertKey (servicesIn t' side) n v))) := by
      refine edit.edit held services fresh (fun m other => ?_) ?_
      · rw [Toml.lookup_insertKey, if_neg other]
      · rw [Toml.lookup_insertKey, if_pos rfl, now, kept n fresh, vacant]
        simp
    obtain ⟨all, values, others⟩ := ih one nodup fun e member =>
      listed e (List.mem_cons_of_mem _ member)
    have step : ∀ other m, (servicesIn (t'.put [side.key, "services"]
        (.table (Toml.insertKey (servicesIn t' side) n v))) other).lookup m =
        if other = side ∧ m = n then some v else (servicesIn t' other).lookup m := by
      intro other m
      rw [servicesIn_put]
      by_cases own : other = side
      · subst own
        rw [if_pos rfl, Toml.lookup_insertKey]
        by_cases equal : m = n
        · rw [if_pos equal, if_pos ⟨rfl, equal⟩]
        · rw [if_neg equal, if_neg fun both => equal both.2]
      · rw [if_neg own, if_neg fun both => own both.1]
    refine ⟨all, ?_, fun other m absent => ?_⟩
    · intro e member
      rcases List.mem_cons.mp member with rfl | member
      · refine (others side n later).trans ?_
        rw [step, if_pos ⟨rfl, rfl⟩]
      · exact values e member
    · obtain ⟨apart, absent⟩ := not_or.mp (mt List.mem_cons.mpr absent)
      refine (others other m absent).trans ?_
      rw [step, if_neg]
      rintro ⟨rfl, rfl⟩
      exact apart rfl

end Put

end Schema

end Rathole
