import Rathole.ConfigFresh
import Rathole.ConfigReloads

set_option autoImplicit false

/- The events with which a running instance follows an edit of its services. -/
namespace Rathole.ConfigEdit

open Toml (Entries Table TableKind Value)
open Schema (servicesIn TableEdited)

/-- The service as it was asked for is added. What was not asked for is a default. -/
def Requested.announced (r : Requested) (fresh : String) (config : Config) : ConfigChange :=
  let kind : ServiceType := if r.udp then .udp else .tcp
  match r.side with
  | .server => .serverChange (.add
    { serviceType := kind
      name := r.name
      bindAddr := r.addr
      token := some (r.token.getD fresh)
      nodelay := none })
  | .client => .clientChange (.add
    { serviceType := kind
      name := r.name
      localAddr := r.addr
      preferIpv6 := false
      token := some (r.token.getD fresh)
      nodelay := none
      retryInterval := config.client.map ClientConfig.retryInterval })

theorem Requested.unique_entry (r : Requested) (fresh : String) :
    Toml.Value.Unique (.table (r.entry fresh)) := by
  obtain ⟨side, name, addr, udp, token⟩ := r
  have nodup : (({ side, name, addr, udp, token } : Requested).entry fresh |>.map Prod.fst).Nodup := by
    cases side <;> cases udp <;> simp [Requested.entry, ServiceSide.serviceAddrKey]
  refine .table nodup fun e member => ?_
  cases udp <;> simp only [Requested.entry, Bool.false_eq_true, ↓reduceIte, List.nil_append,
    List.cons_append, List.mem_cons, List.not_mem_nil, or_false] at member
  · obtain rfl | rfl := member <;> exact .string _
  · obtain rfl | rfl | rfl := member <;> exact .string _

def removedEvent (name : String) : ServiceSide → ConfigChange
  | .server => .serverChange (.delete name)
  | .client => .clientChange (.delete name)

section Event

variable {parseUrl : String → Option Url} {t : Table} {parsed config : Config}
  {order : HashOrder} {side : ServiceSide}

theorem lookup_of_servicesIn {name : String} {v : Value}
    (found : (servicesIn t side).lookup name = some v) : ∃ u s,
      t.lookup side.key = some (.table u) ∧ u.lookup "services" = some (.table s) ∧
        s.lookup name = some v := by
  have tables : ∀ (t : Table) (key other : String) (v : Value),
      (t.inner key).lookup other = some v → ∃ u, t.lookup key = some (.table u) ∧
        u.lookup other = some v := by
    intro t key other v found
    unfold Table.inner at found
    split at found
    · next u held => exact ⟨u, held, found⟩
    · cases found
  obtain ⟨s, listed, held⟩ := tables _ _ _ _ found
  obtain ⟨u, section_, listed⟩ := tables _ _ _ _ listed
  exact ⟨u, s, section_, listed, held⟩

/-- The entry of a requested service is read as the service that was asked for. -/
theorem serverService_entry (r : Requested) (fresh : String) (server : r.side = .server) :
    Schema.serverService (.table (r.entry fresh)) = some
      ⟨if r.udp then .udp else .tcp, "", r.addr, some (r.token.getD fresh), none⟩ := by
  obtain ⟨side, name, addr, udp, token⟩ := r
  cases server
  cases udp <;> rfl

theorem clientService_entry (r : Requested) (fresh : String) (client : r.side = .client) :
    Schema.clientService (.table (r.entry fresh)) = some
      ⟨if r.udp then .udp else .tcp, "", r.addr, false, some (r.token.getD fresh), none, none⟩ := by
  obtain ⟨side, name, addr, udp, token⟩ := r
  cases client
  cases udp <;> rfl

/-- The event of a service that the table has as it was asked for. -/
theorem event_requested (r : Requested) (fresh : String)
    (read : Schema.config parseUrl t = some parsed)
    (valid : Config.validateSections order parsed = .ok config)
    (found : (servicesIn t r.side).lookup r.name = some (.table (r.entry fresh))) :
    config.event (r.side, r.name) = r.announced fresh config := by
  obtain ⟨u, s, held, listed, entry⟩ := lookup_of_servicesIn found
  obtain ⟨-, server, client⟩ := (Schema.config_iff parsed).mp read
  obtain ⟨servers, clients, -⟩ := Config.validateSections_iff.mp valid
  unfold Requested.announced
  cases own : r.side with
  | server =>
    rw [own] at held
    obtain ⟨c, present, read⟩ := optional_of_lookup server held
    have services := ((Schema.server_iff c).mp read).services
    rw [Schema.required, listed] at services
    have service := Schema.lookup_entries services r.name
    rw [entry, Option.bind_some, serverService_entry r fresh own] at service
    rw [present] at servers
    cases after : config.server with
    | none =>
      rw [after] at servers
      cases Config.mapM_isNone servers
    | some c' =>
      rw [after] at servers
      obtain ⟨same, here, checked⟩ := Config.mapM_ok servers
      cases here
      have filled := (Config.validateServerConfig_iff.mp checked).2.2 r.name
      rw [service] at filled
      simp only [Config.event, after, Option.bind_some, filled]
      rfl
  | client =>
    rw [own] at held
    obtain ⟨c, present, read⟩ := optional_of_lookup client held
    have services := ((Schema.client_iff c).mp read).services
    rw [Schema.required, listed] at services
    have service := Schema.lookup_entries services r.name
    rw [entry, Option.bind_some, clientService_entry r fresh own] at service
    rw [present] at clients
    cases after : config.client with
    | none =>
      rw [after] at clients
      cases Config.mapM_isNone clients
    | some c' =>
      rw [after] at clients
      obtain ⟨same, here, checked⟩ := Config.mapM_ok clients
      cases here
      obtain ⟨-, like, fills⟩ := Config.validateClientConfig_iff.mp checked
      have filled := fills r.name
      rw [service] at filled
      have interval : c'.retryInterval = c.retryInterval := by rw [like]
      simp only [Config.event, after, Option.bind_some, filled, Option.map_some, interval]
      rfl

/-- A service is there. -/
def holds (config : Config) : ServiceSide × String → Bool
  | (.server, n) => (config.server.bind fun s => s.services.lookup n).isSome
  | (.client, n) => (config.client.bind fun c => c.services.lookup n).isSome

/-- The services of a configuration are those of its tables. -/
theorem holds_eq {u : Table} (read : Schema.config parseUrl t = some parsed)
    (valid : Config.validateSections order parsed = .ok config)
    (held : t.lookup side.key = some (.table u)) (name : String) :
    holds config (side, name) = ((servicesIn t side).lookup name).isSome := by
  obtain ⟨-, server, client⟩ := (Schema.config_iff parsed).mp read
  obtain ⟨servers, clients, -⟩ := Config.validateSections_iff.mp valid
  have there : ∀ {A : Type} {read : Value → Option A} {m : HashMap String A},
      Schema.required u "services" (Schema.hashMap read) = some m →
      (m.lookup name).isSome = ((servicesIn t side).lookup name).isSome := by
    intro A read m found
    obtain ⟨v, listed, entries⟩ := Option.bind_eq_some_iff.mp found
    cases v with
    | table s =>
      rw [Schema.servicesIn_of_lookup held listed]
      exact Schema.isSome_lookup_entries entries name
    | _ => cases entries
  cases side with
  | server =>
    obtain ⟨c, present, read⟩ := optional_of_lookup server held
    rw [present] at servers
    obtain ⟨c', after, checked⟩ := Config.mapM_some servers
    have filled := (Config.validateServerConfig_iff.mp checked).2.2 name
    change (config.server.bind fun s => s.services.lookup name).isSome = _
    rw [after, Option.bind_some, filled, Option.isSome_map]
    exact there ((Schema.server_iff c).mp read).services
  | client =>
    obtain ⟨c, present, read⟩ := optional_of_lookup client held
    rw [present] at clients
    obtain ⟨c', after, checked⟩ := Config.mapM_some clients
    have filled := (Config.validateClientConfig_iff.mp checked).2.2 name
    change (config.client.bind fun s => s.services.lookup name).isSome = _
    rw [after, Option.bind_some, filled, Option.isSome_map]
    exact there ((Schema.client_iff c).mp read).services

theorem event_absent {name : String} (absent : holds config (side, name) = false) :
    config.event (side, name) = removedEvent name side := by
  cases side with
  | server =>
    have none_ := Option.not_isSome_iff_eq_none.mp (ne_true_of_eq_false absent)
    change tell ServerConfig name _ = _
    rw [none_]
    rfl
  | client =>
    have none_ := Option.not_isSome_iff_eq_none.mp (ne_true_of_eq_false absent)
    change tell ClientConfig name _ = _
    rw [none_]
    rfl

/-- The events of the edited services, whatever the order of the hash tables. -/
theorem events_of_tables {edited : List (ServiceSide × String)} {t' u : Table}
    {parsed' config' : Config} {order' : HashOrder} (edit : TableEdited edited t u)
    (nodup : edited.Nodup) (unique : Table.Unique u) (unique' : Table.Unique t')
    (same : Table.Same t' u) (read : Schema.config parseUrl t = some parsed)
    (valid : Config.validateSections order parsed = .ok config)
    (read' : Schema.config parseUrl t' = some parsed')
    (valid' : Config.validateSections order' parsed' = .ok config') :
    Schema.config parseUrl u = some parsed' ∧ ∀ order : HashOrder,
      ((calculateEvents order config config').getD []).Perm (edited.map config'.event) := by
  rw [Schema.config_same unique' unique same] at read'
  exact ⟨read', fun order => Config.events_of_edited order nodup
    ((Schema.edited_of_tables edit read read').validated valid valid')⟩

theorem follow_services (name : String) :
    (Value.table t).follow [side.key, "services", name] = (servicesIn t side).lookup name := by
  have steps : ∀ (t : Table) (key : String) (path : List String), path ≠ [] →
      (Value.table t).follow (key :: path) = (Value.table (t.inner key)).follow path := by
    intro t key path deep
    obtain ⟨step, path, rfl⟩ := List.exists_cons_of_ne_nil deep
    show (t.lookup key).bind (fun v => (v.child (.key step)).bind (Value.follow path)) =
      ((t.inner key).lookup step).bind (Value.follow path)
    unfold Table.inner
    cases t.lookup key with
    | none => rfl
    | some v => cases v <;> rfl
  rw [steps t side.key _ (List.cons_ne_nil _ _), Toml.follow_inner]
  rfl

end Event

section Announced

variable {Text : Type} {env : Env Text} {text after : Text} {old : Config}

/-- No change of the transport is asked for. -/
def ServiceCommand.quiet : ServiceCommand → Prop
  | addSingle args _ _ _ => args.noise = false ∧ args.noiseKey = none
  | _ => True

/-- The events that a command stands for. A removal looks for the service in the section of the
client first, when that is a table. -/
inductive Announces (env : Env Text) (text : Text) (old : Config) :
    ServiceCommand → List ConfigChange → Prop
  | remove {name : String} {side : ServiceSide} (held : holds old (side, name) = true)
    (first : side = .server → ∀ t u, env.crate.read text = .ok t →
      t.lookup "client" = some (.table u) → holds old (.client, name) = false) :
    Announces env text old (.remove name) [removedEvent name side]
  | addSingle {args : AddArgs} {answers : Option Answers} {fresh : String}
    {keypair : Except String (String × String)} {r : Requested}
    (asked : RequestedSingle env text args answers r)
    (vacant : holds old (r.side, r.name) = false) :
    Announces env text old (.addSingle args answers fresh keypair) [r.announced fresh old]
  | addBatch {clientSpecs serverSpecs : List String} {fresh : Nat → String}
    {requested : List (Requested × String)}
    (asked : requestedBatch clientSpecs serverSpecs fresh = .ok requested)
    (vacant : ∀ r ∈ requested, holds old (r.1.side, r.1.name) = false) :
    Announces env text old (.addBatch clientSpecs serverSpecs fresh)
      (requested.map fun r => r.1.announced r.2 old)

/-- What a command saves can be parsed. -/
theorem Makes.parsed {before doc : Entries} {new : Option ServiceSide} (lawful : env.crate.Lawful)
    (prints : env.crate.Prints) (makes : Makes env (some text) after before doc new) :
    ∃ doc', env.crate.parse after = .ok doc' := by
  have formed := formed_document.mp
    (makes.adds.formed (formed_document.mpr (formed_of_loadDocument lawful makes.loaded)))
  obtain ⟨config, loaded, -⟩ := map_ok makes.valid
  obtain ⟨t, readable, -⟩ := (loadable_iff _).mp ⟨config, loaded⟩
  rw [makes.text]
  exact prints.parsed formed readable

/-- Nothing of a document is hidden by a removal that leaves its table of services in the text. -/
theorem wellFormed_removed {doc entries services : Entries} {kind inner : TableKind}
    {side : ServiceSide} {name : String} (formed : doc.wellFormed = true)
    (held : doc.lookup side.key = some (.table kind entries))
    (listed : entries.lookup "services" = some (.table inner services))
    (left : inner.written = true ∨ ∃ other ∈ services.map Prod.fst, other ≠ name) :
    (doc.removeAt name [side.key, "services"]).wellFormed = true := by
  have inside := formed_of_lookup_table formed held
  have below := formed_of_lookup_table inside listed
  have kept : inner.written = true ∨ Toml.removeKey services name ≠ [] := by
    refine left.imp_right ?_
    rintro ⟨other, member, apart⟩
    obtain ⟨e, there, rfl⟩ := List.mem_map.mp member
    exact List.ne_nil_of_mem (List.mem_filter.mpr ⟨there, by simpa using apart⟩)
  simp only [Entries.removeAt, held, listed]
  refine Entries.wellFormed_insertKey formed ((Entries.wellFormed_table _ _).mpr
    ⟨Or.inr (Entries.insertKey_ne_nil _ _ _), Entries.wellFormed_insertKey inside
      ((Entries.wellFormed_table _ _).mpr ⟨kept, Entries.wellFormed_removeKey below⟩)⟩)

theorem parsed_of_removeService {name : String} (lawful : env.crate.Lawful)
    (prints : env.crate.Prints) (ran : removeService env (some text) name = .ok after)
    (keeps : KeepsServices env text (.remove name)) {t : Table}
    (readable : env.crate.read after = .ok t) : ∃ doc, env.crate.parse after = .ok doc := by
  obtain ⟨doc, parsed, ran⟩ := bind_ok ran
  obtain ⟨side, found, ran⟩ := bind_ok ran
  cases ran
  have found := okOrElse_ok found
  obtain ⟨⟨inner, services⟩, table⟩ := exists_servicesOf found
  obtain ⟨kind, section_, held, listed⟩ := servicesOf_eq_some table
  have left := keeps doc side inner services (withContext_ok parsed) found table
  exact prints.parsed (wellFormed_removed (formed_of_loadDocument lawful parsed) held listed left)
    readable

theorem announced_congr {new : Config} (alike : old.withoutServices = new.withoutServices)
    (r : Requested) (fresh : String) : r.announced fresh new = r.announced fresh old := by
  have clients : old.client.map ClientConfig.withoutServices =
      new.client.map ClientConfig.withoutServices := congrArg Config.client alike
  have intervals : old.client.map ClientConfig.retryInterval =
      new.client.map ClientConfig.retryInterval := by
    have both := congrArg (Option.map ClientConfig.retryInterval) clients
    rwa [Option.map_map, Option.map_map] at both
  unfold Requested.announced
  rw [intervals]

/-- A service goes out of its table, and the event is that it is deleted. -/
theorem removed_announced {t t' : Table} {parsed parsed' new : Config} {order order' : HashOrder}
    {side : ServiceSide} {name : String} (removes : RemovesService t t' side name)
    (unique : Table.Unique t) (unique' : Table.Unique t')
    (read : Schema.config env.parseUrl t = some parsed)
    (valid : Config.validateSections order parsed = .ok old)
    (read' : Schema.config env.parseUrl t' = some parsed')
    (valid' : Config.validateSections order' parsed' = .ok new) (order : HashOrder) :
    ((calculateEvents order old new).getD []).Perm [removedEvent name side] := by
  have held := removes.held
  rw [follow_services] at held
  obtain ⟨v, found⟩ := Option.isSome_iff_exists.mp held
  obtain ⟨u, s, section_, listed, there⟩ := lookup_of_servicesIn found
  have now := Schema.servicesIn_of_lookup section_ listed
  have edit : TableEdited ([] ++ [(side, name)]) t
      (t.put [side.key, "services"] (.table (Toml.removeKey s name))) := by
    refine (TableEdited.refl t).edit section_ listed List.not_mem_nil (fun m other => ?_) ?_
    · rw [Toml.lookup_removeKey, if_neg other, now]
    · rw [Toml.lookup_removeKey, if_pos rfl, now, there]
      simp
  have left : Table.Unique (Toml.removeKey s name) :=
    Table.Unique.removeKey (Table.Unique.lookup (Table.Unique.lookup unique section_) listed)
  have same := removes.same
  rw [show (t.inner side.key).inner "services" = s from now] at same
  obtain ⟨readEdited, events⟩ := events_of_tables edit (List.nodup_singleton _)
    (unique.put left _) unique' same read valid read' valid'
  have absent : holds new (side, name) = false := by
    have section_ : (t.put [side.key, "services"] (.table (Toml.removeKey s name))).lookup
        side.key = some _ := (Toml.lookup_insertKey _ _ _ _).trans (if_pos rfl)
    rw [holds_eq readEdited valid' section_, Schema.servicesIn_put, if_pos rfl,
      Toml.lookup_removeKey, if_pos rfl]
    rfl
  have told := events order
  rwa [List.nil_append, List.map_singleton, event_absent absent] at told

/-- Services go into their tables, and the events are that they are added as they were asked for. -/
theorem added_announced {t t' : Table} {parsed parsed' new : Config} {order order' : HashOrder}
    {requested : List (Requested × String)} {results : List Added}
    (adds : AddsServices t t' requested .none results)
    (unique : Table.Unique t) (unique' : Table.Unique t')
    (read : Schema.config env.parseUrl t = some parsed)
    (valid : Config.validateSections order parsed = .ok old)
    (read' : Schema.config env.parseUrl t' = some parsed')
    (valid' : Config.validateSections order' parsed' = .ok new) :
    (∀ r ∈ requested, holds old (r.1.side, r.1.name) = false) ∧ ∀ order : HashOrder,
      ((calculateEvents order old new).getD []).Perm
        (requested.map fun r => r.1.announced r.2 old) := by
  let news : List ((ServiceSide × String) × Value) :=
    requested.map fun r => ((r.1.side, r.1.name), .table (r.1.entry r.2))
  have names : news.map Prod.fst = requested.map fun r => (r.1.side, r.1.name) := List.map_map
  have puts : t.puts (news.map fun e => ([e.1.1.key, "services", e.1.2], e.2)) =
      t.puts (NoisePlan.none.values ++
        requested.map fun r => (r.1.place, .table (r.1.entry r.2))) :=
    congrArg t.puts List.map_map
  have listed : ∀ e ∈ news, ∃ u s, t.lookup e.1.1.key = some (.table u) ∧
      u.lookup "services" = some (.table s) ∧ s.lookup e.1.2 = none := by
    intro e member
    obtain ⟨r, asked, rfl⟩ := List.mem_map.mp member
    obtain ⟨s, found, vacant⟩ := adds.listed r asked
    rw [Toml.follow_inner] at found
    unfold Table.inner at found
    split at found
    · next u held => exact ⟨u, s, held, found, vacant⟩
    · cases found
  obtain ⟨edit, values, -⟩ := Schema.tableEdited_puts news (TableEdited.refl t)
    (by rw [List.nil_append, names]; exact adds.distinct) listed
  rw [List.nil_append, names] at edit
  have same := adds.same
  rw [← puts] at same
  have placed : Table.Unique (t.puts (news.map fun e => ([e.1.1.key, "services", e.1.2], e.2))) :=
    unique.puts fun a member => by
      obtain ⟨e, asked, rfl⟩ := List.mem_map.mp member
      obtain ⟨r, -, rfl⟩ := List.mem_map.mp asked
      exact r.1.unique_entry r.2
  obtain ⟨readEdited, events⟩ := events_of_tables edit adds.distinct placed unique' same read
    valid read' valid'
  have alike := ((Schema.edited_of_tables edit read readEdited).validated valid valid').alike
  refine ⟨fun r asked => ?_, fun order => (events order).trans (List.Perm.of_eq ?_)⟩
  · obtain ⟨u, s, held, services, vacant⟩ := listed _ (List.mem_map_of_mem asked)
    rw [holds_eq read valid held, Schema.servicesIn_of_lookup held services, vacant]
    rfl
  · rw [List.map_map]
    refine List.map_congr_left fun r asked => ?_
    rw [Function.comp_apply, event_requested r.1 r.2 readEdited valid'
      (values _ (List.mem_map_of_mem asked)), announced_congr alike]

/-- A command that adds services or removes one writes a configuration that loads, and a running
instance that reloads it is told of just these services, each as it was asked for. -/
theorem services_announced {command : ServiceCommand} (lawful : env.crate.Lawful)
    (prints : env.crate.Prints) (styles : env.crate.Styles) (stands : env.crate.Stands)
    (loaded : load env text = .ok old) (ran : run env (some text) command.command = .ok after)
    (keeps : KeepsServices env text command.command) (quiet : command.quiet) :
    ∃ new events, load env after = .ok new ∧ Announces env text old command events ∧
      ∀ order : HashOrder, ((calculateEvents order old new).getD []).Perm events := by
  have loadable : Loadable env text := ⟨old, loaded⟩
  obtain ⟨t, parsed, readable, read, valid⟩ := load_iff.mp loaded
  have unique : ∀ {doc : Entries}, env.crate.parse text = .ok doc → Table.Unique t :=
    fun parsed => unique_of_parse lawful parsed readable
  cases command with
  | remove name =>
    have edits := (editsTables_remove lawful loadable ran).mpr keeps
    have removed : removeService env (some text) name = .ok after := by
      obtain ⟨out, done, same⟩ := map_ok ran
      obtain ⟨services, -, done⟩ := bind_ok done
      obtain ⟨written, removed, done⟩ := bind_ok done
      rw [← same, ← Except.ok.inj done]
      exact removed
    obtain ⟨new, loaded'⟩ := (loadable_removeService_iff lawful loadable removed).mpr keeps
    obtain ⟨t', parsed', readable', read', valid'⟩ := load_iff.mp loaded'
    obtain ⟨doc, found, -⟩ := bind_ok removed
    obtain ⟨doc', printed⟩ := parsed_of_removeService lawful prints removed keeps readable'
    cases edits with
    | remove readBefore readAfter first removes =>
      cases readable.symm.trans readBefore
      cases readable'.symm.trans readAfter
      refine ⟨new, _, loaded', .remove ?_ fun server t' u again held => ?_,
        removed_announced removes (unique (withContext_ok found))
          (unique_of_parse lawful printed readable') read valid read' valid'⟩
      · have held := removes.held
        rw [follow_services] at held
        obtain ⟨v, there⟩ := Option.isSome_iff_exists.mp held
        obtain ⟨u, s, section_, -⟩ := lookup_of_servicesIn there
        rwa [holds_eq read valid section_]
      · cases readable.symm.trans again
        have held : t.lookup ServiceSide.client.key = some (.table u) := held
        rw [holds_eq read valid held, ← follow_services, first server]
        rfl
  | addSingle args answers fresh keypair =>
    obtain ⟨⟨written, added, plan⟩, done, same⟩ := map_ok ran
    cases same
    obtain ⟨new, loaded'⟩ := loadable_of_saves (saves_of_runAddSingle done)
    obtain ⟨t', parsed', readable', read', valid'⟩ := load_iff.mp loaded'
    obtain ⟨doc, changed, section_, makes⟩ := makes_of_runAddSingle done
    obtain ⟨doc', printed⟩ := makes.parsed lawful prints
    have edits := editsTables_addSingle lawful prints styles stands loadable done
    cases edits with
    | addSingle ran readBefore readAfter asked noise adds =>
      cases readable.symm.trans readBefore
      cases readable'.symm.trans readAfter
      rw [noise.unasked quiet.1 quiet.2] at adds
      obtain ⟨vacant, told⟩ := added_announced adds (unique (withContext_ok makes.loaded))
        (unique_of_parse lawful printed readable') read valid read' valid'
      exact ⟨new, _, loaded', .addSingle asked (vacant _ List.mem_cons_self), told⟩
  | addBatch clientSpecs serverSpecs fresh =>
    obtain ⟨⟨written, results⟩, done, same⟩ := map_ok ran
    cases same
    obtain ⟨new, loaded'⟩ := loadable_of_saves (saves_of_runAddBatch done)
    obtain ⟨t', parsed', readable', read', valid'⟩ := load_iff.mp loaded'
    obtain ⟨doc, changed, section_, makes⟩ := makes_of_runAddBatch done
    obtain ⟨doc', printed⟩ := makes.parsed lawful prints
    have edits := editsTables_addBatch lawful prints styles stands loadable done
    cases edits with
    | addBatch ran readBefore readAfter asked adds =>
      cases readable.symm.trans readBefore
      cases readable'.symm.trans readAfter
      obtain ⟨vacant, told⟩ := added_announced adds (unique (withContext_ok makes.loaded))
        (unique_of_parse lawful printed readable') read valid read' valid'
      exact ⟨new, _, loaded', .addBatch asked vacant, told⟩

end Announced

/-- The service `web` is removed, and the running client is told so. -/
theorem web_removal_announced : ∃ (old new : Config) (after : Entries)
    (events : List ConfigChange),
    load (headersEnv .some) (clientDocument secretWeb) = .ok old ∧
    run (headersEnv .some) (some (clientDocument secretWeb)) (.remove "web") = .ok after ∧
    load (headersEnv .some) after = .ok new ∧
    Announces (headersEnv .some) (clientDocument secretWeb) old (.remove "web") events ∧
    ∀ order : HashOrder, ((calculateEvents order old new).getD []).Perm events := by
  obtain ⟨old, loaded, -⟩ := load_secretWeb .some
  have ran : ∃ after, run (headersEnv .some) (some (clientDocument secretWeb))
      (ServiceCommand.remove "web").command = .ok after := ⟨_, rfl⟩
  obtain ⟨after, ran⟩ := ran
  have keeps : KeepsServices (headersEnv .some) (clientDocument secretWeb)
      (ServiceCommand.remove "web").command := by
    intro doc side inner services parsed found table
    cases Except.ok.inj parsed
    cases found
    cases table
    exact Or.inl rfl
  obtain ⟨new, events, loaded', announces, told⟩ := services_announced Toml.Crate.headers_lawful
    Toml.Crate.headers_prints Toml.Crate.headers_styles Toml.Crate.headers_stands
    loaded ran keeps trivial
  exact ⟨old, new, after, events, loaded, ran, loaded', announces, told⟩

end Rathole.ConfigEdit
