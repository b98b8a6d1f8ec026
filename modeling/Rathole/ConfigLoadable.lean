import Rathole.ConfigAccepted
import Rathole.ConfigAdd
import Rathole.ConfigImport
import Rathole.ConfigSet

set_option autoImplicit false

/- Whether the loader takes what a command writes. Commands that validate what they save need
nothing else; `config remove` saves what is left of the document. -/
namespace Rathole

namespace Config

/-- A table with some of the entries of another one. -/
def Fewer {V : Type} (m' m : HashMap String V) : Prop :=
  ∀ name v, m'.lookup name = some v → m.lookup name = some v

theorem fewer_erase {V : Type} (m : HashMap String V) (name : String) :
    Fewer (m.erase name) m := by
  intro other v found
  rw [lookup_erase_eq] at found
  split at found
  · cases found
  · exact found

theorem mem_entries_of_fewer {V : Type} {m m' : HashMap String V} (fewer : Fewer m' m)
    (order : HashOrder) {e : String × V} (member : e ∈ order.entries m') :
    e ∈ order.entries m := by
  rw [order.mem_entries m e.1 e.2]
  apply fewer
  exact (order.mem_entries m' e.1 e.2).mp member

/-- Without some of its services, a server section is accepted still. -/
theorem validateServerConfig_fewer {order : HashOrder} {server valid : ServerConfig}
    {services : HashMap String ServerServiceConfig} (fewer : Fewer services server.services)
    (checked : validateServerConfig order server = .ok valid) :
    ∃ left, validateServerConfig order { server with services := services } = .ok left := by
  obtain ⟨entries, loop, -⟩ := validateServerConfig_ok checked
  have met := (validateServerServices_iff _ _ _ _).mp loop
  have listed := order.enumerates services
  have again : validateServerServices server.defaultToken [] (order.entries services) =
      .ok ((order.entries services).map fun e => (e.1, fillServer server.defaultToken e.1 e.2)) := by
    apply (validateServerServices_iff _ _ _ _).mpr
    refine ⟨fun e member => met.tokens e (mem_entries_of_fewer fewer order member),
      fun e member => met.free e (mem_entries_of_fewer fewer order member), ?_, rfl⟩
    apply List.Nodup.map_on _ listed.nodup.of_map
    intro e member e' member' same
    exact List.inj_on_of_nodup_map met.nodup (mem_entries_of_fewer fewer order member)
      (mem_entries_of_fewer fewer order member') same
  simp only [validateServerConfig, loop, bind, Except.bind] at checked
  simp only [validateServerConfig, again, bind, Except.bind]
  split at checked
  · cases checked
  · next port =>
    rw [if_neg port]
    split at checked
    · cases checked
    · split at checked
      · cases checked
      · exact ⟨_, rfl⟩

theorem validateClientConfig_fewer {order : HashOrder} {client valid : ClientConfig}
    {services : HashMap String ClientServiceConfig} (fewer : Fewer services client.services)
    (checked : validateClientConfig order client = .ok valid) :
    ∃ left, validateClientConfig order { client with services := services } = .ok left := by
  obtain ⟨entries, loop, -⟩ := validateClientConfig_ok checked
  obtain ⟨each, -⟩ := (validateClientServices_iff _ _ _).mp loop
  have again : validateClientServices { client with services := services }
      (order.entries services) = .ok ((order.entries services).map
        fun e => (e.1, fillClient { client with services := services } e.1 e.2)) := by
    apply (validateClientServices_iff _ _ _).mpr
    exact ⟨fun e member => each e (mem_entries_of_fewer fewer order member), rfl⟩
  simp only [validateClientConfig, loop, bind, Except.bind] at checked
  simp only [validateClientConfig, again, bind, Except.bind]
  split at checked
  · cases checked
  · next retry =>
    rw [if_neg retry]
    split at checked
    · cases checked
    · split at checked
      · cases checked
      · exact ⟨_, rfl⟩

theorem mapM_isOk {A : Type} (check : A → Except String A) (x : Option A) :
    (∃ y, x.mapM check = .ok y) ↔ ∀ a, x = some a → ∃ b, check a = .ok b := by
  cases x with
  | none => exact iff_of_true ⟨none, rfl⟩ (fun a same => by cases same)
  | some a =>
    show (∃ y, (some <$> check a : Except String (Option A)) = .ok y) ↔ _
    cases checked : check a with
    | error message =>
      apply iff_of_false
      · rintro ⟨y, mapped⟩
        cases mapped
      · intro each
        obtain ⟨b, here⟩ := each a rfl
        cases checked.symm.trans here
    | ok b =>
      apply iff_of_true ⟨some b, rfl⟩
      intro other same
      cases same
      exact ⟨b, checked⟩

/-- Each section is accepted by itself, and there is one. -/
theorem validateSections_isOk (order : HashOrder) (config : Config) :
    (∃ valid, validateSections order config = .ok valid) ↔
      (∀ server, config.server = some server →
        ∃ valid, validateServerConfig order server = .ok valid) ∧
      (∀ client, config.client = some client →
        ∃ valid, validateClientConfig order client = .ok valid) ∧
      (config.server.isSome ∨ config.client.isSome) := by
  rw [← mapM_isOk, ← mapM_isOk]
  simp only [validateSections, bind, Except.bind]
  cases server : config.server.mapM (validateServerConfig order) with
  | error message => simp
  | ok checkedServer =>
    cases client : config.client.mapM (validateClientConfig order) with
    | error message => simp
    | ok checkedClient =>
      have both : (∃ y, (Except.ok checkedServer : Except String _) = .ok y) ∧
          (∃ y, (Except.ok checkedClient : Except String _) = .ok y) := ⟨⟨_, rfl⟩, ⟨_, rfl⟩⟩
      rw [← and_assoc, iff_true_intro both, true_and]
      dsimp only
      by_cases absent : config.server.isNone ∧ config.client.isNone
      · rw [if_pos absent]
        rw [Option.isNone_iff_eq_none, Option.isNone_iff_eq_none] at absent
        apply iff_of_false
        · rintro ⟨valid, failed⟩
          cases failed
        · simp [absent]
      · rw [if_neg absent]
        apply iff_of_true ⟨_, rfl⟩
        by_contra none
        apply absent
        simpa using none

end Config

namespace Schema

open Toml (Table Value)

/-- Two tables that differ at one key at most. -/
def Alike (key : String) (t t' : Table) : Prop :=
  ∀ other, other ≠ key → t'.lookup other = t.lookup other

theorem known_of_alike {t t' : Table} {key : String} {keys : List String}
    (alike : Alike key t t') (member : key ∈ keys) (known : ∀ e ∈ t, e.1 ∈ keys) :
    ∀ e ∈ t', e.1 ∈ keys := by
  intro e held
  by_cases same : e.1 = key
  · rw [same]
    exact member
  · have listed : (t'.lookup e.1).isSome := (Toml.lookup_isSome t' e.1).mpr
      (List.mem_map_of_mem held)
    rw [alike e.1 same] at listed
    obtain ⟨e', held', met⟩ := List.mem_map.mp ((Toml.lookup_isSome t e.1).mp listed)
    rw [← met]
    exact known e' held'

section Services

variable {parseUrl : String → Option Url} {t t' : Table}

theorem ClientRead.withServices {c : ClientConfig} {services : HashMap String ClientServiceConfig}
    (read : ClientRead parseUrl t c) (alike : Alike "services" t t')
    (found : required t' "services" (hashMap clientService) = some services) :
    ClientRead parseUrl t' { c with services := services } where
  known := known_of_alike alike (by decide) read.known
  remoteAddr := (required_congr (alike _ (by decide))).trans read.remoteAddr
  defaultToken := (optional_congr (alike _ (by decide))).trans read.defaultToken
  preferIpv6 := (optional_congr (alike _ (by decide))).trans read.preferIpv6
  services := found
  transport := (defaulted_congr (alike _ (by decide))).trans read.transport
  heartbeatTimeout := (defaulted_congr (alike _ (by decide))).trans read.heartbeatTimeout
  retryInterval := (defaulted_congr (alike _ (by decide))).trans read.retryInterval

theorem ServerRead.withServices {c : ServerConfig} {services : HashMap String ServerServiceConfig}
    (read : ServerRead parseUrl t c) (alike : Alike "services" t t')
    (found : required t' "services" (hashMap serverService) = some services) :
    ServerRead parseUrl t' { c with services := services } where
  known := known_of_alike alike (by decide) read.known
  bindAddr := (required_congr (alike _ (by decide))).trans read.bindAddr
  defaultToken := (optional_congr (alike _ (by decide))).trans read.defaultToken
  services := found
  transport := (defaulted_congr (alike _ (by decide))).trans read.transport
  heartbeatInterval := (defaulted_congr (alike _ (by decide))).trans read.heartbeatInterval

end Services

theorem config_iff {parseUrl : String → Option Url} {t : Table} (c : Config) :
    config parseUrl t = some c ↔ (∀ e ∈ t, e.1 ∈ ["server", "client"]) ∧
      optional t "server" (server parseUrl) = some c.server ∧
      optional t "client" (client parseUrl) = some c.client := by
  constructor
  · intro read
    simp only [config, Option.bind_eq_bind, Option.bind_eq_some_iff, Option.some.injEq] at read
    obtain ⟨u, opened, server, serverRead, client, clientRead, rfl⟩ := read
    obtain ⟨rfl, known⟩ := fields_table.mp opened
    exact ⟨known, serverRead, clientRead⟩
  · rintro ⟨known, serverRead, clientRead⟩
    rw [config, fields_table.mpr ⟨rfl, known⟩, Option.bind_eq_bind, Option.bind_some, serverRead,
      clientRead]
    rfl

end Schema

namespace ConfigEdit

open Toml (Item Entries TableKind Table Value)

section Loadable

variable {Text : Type} (env : Env Text)

/-- The runtime loader accepts the text. -/
def Loadable (text : Text) : Prop := ∃ config, load env text = .ok config

/-- A section that the loader accepts. -/
def SectionLoads : ServiceSide → Value → Prop
  | .client, v => ∃ client, Schema.client env.parseUrl v = some client ∧
      ∃ valid, Config.validateClientConfig env.order client = .ok valid
  | .server, v => ∃ server, Schema.server env.parseUrl v = some server ∧
      ∃ valid, Config.validateServerConfig env.order server = .ok valid

/-- A table that the loader accepts. -/
structure TableLoads (t : Table) : Prop where
  known : ∀ e ∈ t, e.1 ∈ ["server", "client"]
  sections : ∀ side : ServiceSide, ∀ v, t.lookup side.key = some v → SectionLoads env side v
  role : ∃ side : ServiceSide, (t.lookup side.key).isSome

variable {env}

section Optional

variable {A : Type} {t : Table} {key : String} {read : Value → Option A}

theorem optional_isSome {a : Option A} (found : Schema.optional t key read = some a) :
    (t.lookup key).isSome = a.isSome := by
  unfold Schema.optional at found
  cases held : t.lookup key with
  | none =>
    rw [held] at found
    cases found
    rfl
  | some v =>
    rw [held] at found
    obtain ⟨b, -, same⟩ := Option.map_eq_some_iff.mp found
    cases same
    rfl

theorem optional_of_lookup {a : Option A} (found : Schema.optional t key read = some a) {v : Value}
    (held : t.lookup key = some v) : ∃ b, a = some b ∧ read v = some b := by
  unfold Schema.optional at found
  rw [held] at found
  obtain ⟨b, here, same⟩ := Option.map_eq_some_iff.mp found
  exact ⟨b, same.symm, here⟩

theorem exists_optional {P : A → Prop}
    (each : ∀ v, t.lookup key = some v → ∃ a, read v = some a ∧ P a) :
    ∃ a, Schema.optional t key read = some a ∧ ∀ b, a = some b → P b := by
  unfold Schema.optional
  cases held : t.lookup key with
  | none => exact ⟨none, rfl, fun b same => by cases same⟩
  | some v =>
    obtain ⟨a, here, holds⟩ := each v held
    refine ⟨some a, by simp [here], fun b same => ?_⟩
    cases same
    exact holds

end Optional

theorem tableLoads_iff (t : Table) : TableLoads env t ↔
    ∃ parsed, Schema.config env.parseUrl t = some parsed ∧
      ∃ valid, Config.validateSections env.order parsed = .ok valid := by
  constructor
  · intro loads
    obtain ⟨server, serverRead, serverValid⟩ := exists_optional (loads.sections .server)
    obtain ⟨client, clientRead, clientValid⟩ := exists_optional (loads.sections .client)
    refine ⟨⟨server, client⟩, (Schema.config_iff _).mpr ⟨loads.known, serverRead, clientRead⟩, ?_⟩
    rw [Config.validateSections_isOk]
    refine ⟨serverValid, clientValid, ?_⟩
    obtain ⟨side, present⟩ := loads.role
    cases side with
    | server => exact Or.inl ((optional_isSome serverRead).symm.trans present)
    | client => exact Or.inr ((optional_isSome clientRead).symm.trans present)
  · rintro ⟨parsed, read, accepted⟩
    obtain ⟨known, serverRead, clientRead⟩ := (Schema.config_iff parsed).mp read
    obtain ⟨serverValid, clientValid, role⟩ :=
      (Config.validateSections_isOk env.order parsed).mp accepted
    refine ⟨known, fun side v held => ?_, ?_⟩
    · cases side with
      | server =>
        obtain ⟨server, same, here⟩ := optional_of_lookup serverRead held
        exact ⟨server, here, serverValid server same⟩
      | client =>
        obtain ⟨client, same, here⟩ := optional_of_lookup clientRead held
        exact ⟨client, here, clientValid client same⟩
    · rcases role with present | present
      · exact ⟨.server, (optional_isSome serverRead).trans present⟩
      · exact ⟨.client, (optional_isSome clientRead).trans present⟩

theorem load_iff {text : Text} {config : Config} : load env text = .ok config ↔
    ∃ t parsed, env.crate.read text = .ok t ∧ Schema.config env.parseUrl t = some parsed ∧
      Config.validateSections env.order parsed = .ok config := by
  simp only [load, Config.fromStr, Schema.tomlFromStr]
  cases env.crate.read text with
  | error message =>
    apply iff_of_false
    · intro loaded
      cases loaded
    · rintro ⟨t, parsed, failed, -⟩
      cases failed
  | ok t =>
    simp only [bind, Except.bind]
    cases read : Schema.config env.parseUrl t with
    | none =>
      apply iff_of_false
      · intro loaded
        cases loaded
      · rintro ⟨t', parsed, same, read', -⟩
        cases same
        cases read.symm.trans read'
    | some parsed =>
      constructor
      · intro loaded
        exact ⟨t, parsed, rfl, read, loaded⟩
      · rintro ⟨t', parsed', same, read', accepted⟩
        cases same
        cases read.symm.trans read'
        exact accepted

theorem loadable_iff (text : Text) : Loadable env text ↔
    ∃ t, env.crate.read text = .ok t ∧ TableLoads env t := by
  simp only [Loadable, load_iff, tableLoads_iff]
  constructor
  · rintro ⟨config, t, parsed, read, found, accepted⟩
    exact ⟨t, read, parsed, found, config, accepted⟩
  · rintro ⟨t, read, parsed, found, config, accepted⟩
    exact ⟨config, t, parsed, read, found, accepted⟩

section Removed

variable {kind inner : TableKind} {section_ services : Entries} {name : String}

/-- The services are printed when one of them is left. -/
theorem left_iff (formed : services.wellFormed = true) :
    Entries.written (Toml.removeKey services name) ≠ [] ↔
      ∃ other ∈ services.map Prod.fst, other ≠ name := by
  rw [Entries.written_removeKey, Toml.ne_nil_iff_lookup]
  constructor
  · rintro ⟨other, present⟩
    rw [Toml.lookup_removeKey] at present
    by_cases same : other = name
    · rw [if_pos same] at present
      cases present
    · rw [if_neg same, Entries.lookup_written_isSome formed] at present
      exact ⟨other, (Toml.lookup_isSome services other).mp present, same⟩
  · rintro ⟨other, member, apart⟩
    refine ⟨other, ?_⟩
    rw [Toml.lookup_removeKey, if_neg apart, Entries.lookup_written_isSome formed]
    exact (Toml.lookup_isSome services other).mpr member

/-- What is left of a section that was accepted is accepted when its services are printed. -/
theorem sectionLoads_removed {side : ServiceSide} (name : String)
    (formed : section_.wellFormed = true)
    (found : section_.lookup "services" = some (.table inner services))
    (loads : SectionLoads env side (.table section_.written)) :
    SectionLoads env side (.table (Entries.written
        (Toml.insertKey section_ "services" (.table inner (Toml.removeKey services name))))) ↔
      inner.written = true ∨ ∃ other ∈ services.map Prod.fst, other ≠ name := by
  have innerFormed := Entries.wellFormed_of_lookup formed found
  have servicesFormed := ((Entries.wellFormed_table inner services).mp innerFormed).2
  have held := Toml.mem_keys_of_lookup found
  have alike : Schema.Alike "services" section_.written (Entries.written
      (Toml.insertKey section_ "services" (.table inner (Toml.removeKey services name)))) := by
    intro other apart
    rw [Entries.lookup_written_insertKey held, if_neg apart]
  have before := Entries.lookup_written_table formed found
  have after : (Entries.written (Toml.insertKey section_ "services"
      (.table inner (Toml.removeKey services name)))).lookup "services" =
      if inner.written = true ∨ ∃ other ∈ services.map Prod.fst, other ≠ name then
        some (.table (Toml.removeKey services.written name)) else none := by
    rw [Entries.lookup_written_insertKey held, if_pos rfl, Entries.written_table,
      Entries.written_removeKey]
    congr 1
    rw [← Entries.written_removeKey, left_iff servicesFormed]
  by_cases kept : inner.written = true ∨ ∃ other ∈ services.map Prod.fst, other ≠ name
  · rw [if_pos kept] at after
    apply iff_of_true _ kept
    cases side with
    | client =>
      obtain ⟨client, read, valid, accepted⟩ := loads
      have fields := (Schema.client_iff client).mp read
      have entries := fields.services
      rw [Schema.required, before] at entries
      have again := Schema.entries_removeKey entries name
      have fewer := Config.fewer_erase client.services name
      refine ⟨_, (Schema.client_iff _).mpr (fields.withServices alike ?_),
        Config.validateClientConfig_fewer fewer accepted⟩
      rw [Schema.required, after]
      exact again
    | server =>
      obtain ⟨server, read, valid, accepted⟩ := loads
      have fields := (Schema.server_iff server).mp read
      have entries := fields.services
      rw [Schema.required, before] at entries
      have again := Schema.entries_removeKey entries name
      have fewer := Config.fewer_erase server.services name
      refine ⟨_, (Schema.server_iff _).mpr (fields.withServices alike ?_),
        Config.validateServerConfig_fewer fewer accepted⟩
      rw [Schema.required, after]
      exact again
  · rw [if_neg kept] at after
    apply iff_of_false _ kept
    intro loaded
    cases side with
    | client =>
      obtain ⟨client, read, -⟩ := loaded
      have entries := ((Schema.client_iff client).mp read).services
      rw [Schema.required, after] at entries
      cases entries
    | server =>
      obtain ⟨server, read, -⟩ := loaded
      have entries := ((Schema.server_iff server).mp read).services
      rw [Schema.required, after] at entries
      cases entries

/-- A section that is accepted has its address. -/
theorem address_of_loads {side : ServiceSide} {t : Table} (loads : SectionLoads env side (.table t)) :
    ∃ key, key ≠ "services" ∧ (t.lookup key).isSome := by
  cases side with
  | client =>
    obtain ⟨client, read, -⟩ := loads
    obtain ⟨v, found, -⟩ := Option.bind_eq_some_iff.mp ((Schema.client_iff client).mp read).remoteAddr
    exact ⟨"remote_addr", by decide, Option.isSome_of_eq_some found⟩
  | server =>
    obtain ⟨server, read, -⟩ := loads
    obtain ⟨v, found, -⟩ := Option.bind_eq_some_iff.mp ((Schema.server_iff server).mp read).bindAddr
    exact ⟨"bind_addr", by decide, Option.isSome_of_eq_some found⟩

theorem key_ne_of_ne {side other : ServiceSide} (apart : other ≠ side) : other.key ≠ side.key := by
  cases side <;> cases other <;> first | decide | exact absurd rfl apart

theorem tableLoads_removed {doc : Entries} {side : ServiceSide} (name : String)
    (formed : doc.wellFormed = true) (held : doc.lookup side.key = some (.table kind section_))
    (found : section_.lookup "services" = some (.table inner services))
    (loads : TableLoads env doc.written) :
    TableLoads env (doc.removeAt name [side.key, "services"]).written ↔
      inner.written = true ∨ ∃ other ∈ services.map Prod.fst, other ≠ name := by
  have outerFormed := Entries.wellFormed_of_lookup formed held
  have sectionFormed := ((Entries.wellFormed_table kind section_).mp outerFormed).2
  have sectionLoads := loads.sections side _ (Entries.lookup_written_table formed held)
  have exact := sectionLoads_removed name sectionFormed found sectionLoads
  obtain ⟨left, same⟩ : ∃ left, left = Toml.insertKey section_ "services"
    (.table inner (Toml.removeKey services name)) := ⟨_, rfl⟩
  rw [← same] at exact
  have edited : doc.removeAt name [side.key, "services"] =
      Toml.insertKey doc side.key (.table kind left) := by
    simp only [Entries.removeAt, held, found, same]
  have keys := Toml.mem_keys_of_lookup held
  have alike : Schema.Alike side.key doc.written
      (Entries.written (Toml.insertKey doc side.key (.table kind left))) := by
    intro other apart
    rw [Entries.lookup_written_insertKey keys, if_neg apart]
  have shown : (Entries.written (Toml.insertKey doc side.key (.table kind left))).lookup side.key =
      some (.table (Entries.written left)) := by
    obtain ⟨key, apart, present⟩ := address_of_loads sectionLoads
    have filled : Entries.written left ≠ [] := by
      rw [Toml.ne_nil_iff_lookup]
      refine ⟨key, ?_⟩
      rw [same, Entries.lookup_written_insertKey (Toml.mem_keys_of_lookup found), if_neg apart]
      exact present
    rw [Entries.lookup_written_insertKey keys, if_pos rfl, Entries.written_table,
      if_pos (Or.inr filled)]
  rw [edited, ← exact]
  constructor
  · intro after
    exact after.sections side _ shown
  · intro here
    refine ⟨Schema.known_of_alike alike (by cases side <;> decide) loads.known,
      fun other v present => ?_, side, by rw [shown]; rfl⟩
    by_cases met : other = side
    · subst met
      rw [shown] at present
      cases present
      exact here
    · rw [alike other.key (key_ne_of_ne met)] at present
      exact loads.sections other v present

end Removed

section Saves

variable {file : Option Text}

/-- What is written is a document that was validated. -/
def Saves (env : Env Text) (file : Option Text) (text : Text) : Prop :=
  ∃ doc, validate env (env.crate.print doc) = .ok () ∧ text = render env doc file.isNone

theorem loadable_of_saves {before text : Text} (saved : Saves env (some before) text) :
    Loadable env text := by
  obtain ⟨doc, valid, same⟩ := saved
  rw [same]
  show Loadable env (env.crate.print doc)
  unfold validate at valid
  cases loaded : load env (env.crate.print doc) with
  | error message =>
    rw [loaded] at valid
    cases valid
  | ok config => exact ⟨config, loaded⟩

theorem saves_of_saveWithSkeleton {doc : Entries} {text : Text}
    (ran : saveWithSkeleton env doc file.isNone = .ok text) : Saves env file text := by
  obtain ⟨passed, valid, ran⟩ := bind_ok ran
  exact ⟨doc, valid, (Except.ok.inj ran).symm⟩

theorem saves_of_runSet {args : SetArgs} {keypair : Except String (String × String)}
    {out : Text × SetResult} (ran : runSet env args keypair file = .ok out) :
    Saves env file out.1 := by
  obtain ⟨side, -, ran⟩ := bind_ok ran
  obtain ⟨-, -, ran⟩ := bind_ok ran
  obtain ⟨-, -, ran⟩ := bind_ok ran
  obtain ⟨-, -, ran⟩ := bind_ok ran
  obtain ⟨found, -, ran⟩ := bind_ok ran
  obtain ⟨-, -, ran⟩ := bind_ok ran
  obtain ⟨doc, -, ran⟩ := bind_ok ran
  obtain ⟨⟨kind, entries⟩, -, ran⟩ := bind_ok ran
  obtain ⟨fields, -, ran⟩ := bind_ok ran
  obtain ⟨after, -, ran⟩ := bind_ok ran
  obtain ⟨passed, valid, ran⟩ := bind_ok ran
  refine ⟨_, withContext_ok valid, ?_⟩
  rw [← Except.ok.inj ran]

theorem saves_of_runAddSingle {args : AddArgs} {answers : Option Answers} {fresh : String}
    {keypair : Except String (String × String)} {out : Text × Added × NoisePlan}
    (ran : runAddSingle env args answers fresh keypair file = .ok out) : Saves env file out.1 := by
  obtain ⟨side, -, ran⟩ := bind_ok ran
  obtain ⟨-, -, ran⟩ := bind_ok ran
  obtain ⟨addr, -, ran⟩ := bind_ok ran
  obtain ⟨noiseKey, -, ran⟩ := bind_ok ran
  obtain ⟨-, -, ran⟩ := bind_ok ran
  obtain ⟨-, -, ran⟩ := bind_ok ran
  obtain ⟨prompted, -, ran⟩ := bind_ok ran
  obtain ⟨plan, -, ran⟩ := bind_ok ran
  obtain ⟨found, -, ran⟩ := bind_ok ran
  obtain ⟨-, -, ran⟩ := bind_ok ran
  obtain ⟨-, -, ran⟩ := bind_ok ran
  obtain ⟨prepared, -, ran⟩ := bind_ok ran
  obtain ⟨doc, -, ran⟩ := bind_ok ran
  obtain ⟨⟨after, added⟩, -, ran⟩ := bind_ok ran
  obtain ⟨text, saved, ran⟩ := bind_ok ran
  rw [← Except.ok.inj ran]
  exact saves_of_saveWithSkeleton saved

theorem saves_of_runAddBatch {clientSpecs serverSpecs : List String} {fresh : Nat → String}
    {out : Text × List Added} (ran : runAddBatch env clientSpecs serverSpecs fresh file = .ok out) :
    Saves env file out.1 := by
  obtain ⟨clients, -, ran⟩ := bind_ok ran
  obtain ⟨servers, -, ran⟩ := bind_ok ran
  obtain ⟨-, -, ran⟩ := bind_ok ran
  obtain ⟨-, -, ran⟩ := bind_ok ran
  obtain ⟨-, -, ran⟩ := bind_ok ran
  obtain ⟨doc, -, ran⟩ := bind_ok ran
  obtain ⟨-, -, ran⟩ := bind_ok ran
  obtain ⟨⟨after, results⟩, -, ran⟩ := bind_ok ran
  obtain ⟨text, saved, ran⟩ := bind_ok ran
  rw [← Except.ok.inj ran]
  exact saves_of_saveWithSkeleton saved

theorem saves_of_runImport {source : String} {old : Except String Text}
    {out : Text × ServiceSide × Imported} (ran : runImport env source old file = .ok out) :
    Saves env file out.1 := by
  obtain ⟨text, -, ran⟩ := bind_ok ran
  obtain ⟨src, -, ran⟩ := bind_ok ran
  obtain ⟨role, -, ran⟩ := bind_ok ran
  obtain ⟨⟨kind, srcSection⟩, -, ran⟩ := bind_ok ran
  obtain ⟨doc, -, ran⟩ := bind_ok ran
  obtain ⟨-, -, ran⟩ := bind_ok ran
  obtain ⟨-, -, ran⟩ := bind_ok ran
  obtain ⟨⟨target, entries⟩, -, ran⟩ := bind_ok ran
  obtain ⟨⟨section_, report⟩, -, ran⟩ := bind_ok ran
  obtain ⟨text, saved, ran⟩ := bind_ok ran
  rw [← Except.ok.inj ran]
  exact saves_of_saveWithSkeleton saved

end Saves

/-- The commands that write a configuration without a dialog. `fresh` and `keypair` are what
the generators of tokens and of keys answer. -/
inductive Command (Text : Type)
  | remove (entry : String)
  | addSingle (args : AddArgs) (answers : Option Answers) (fresh : String)
      (keypair : Except String (String × String))
  | addBatch (clientSpecs serverSpecs : List String) (fresh : Nat → String)
  | set (args : SetArgs) (keypair : Except String (String × String))
  | importFrom (source : String) (old : Except String Text)

variable (env)

/-- The text that the command writes. -/
def run (file : Option Text) : Command Text → Except String Text
  | .remove entry => (runRemove env file entry).map Prod.fst
  | .addSingle args answers fresh keypair =>
    (runAddSingle env args answers fresh keypair file).map Prod.fst
  | .addBatch clientSpecs serverSpecs fresh =>
    (runAddBatch env clientSpecs serverSpecs fresh file).map Prod.fst
  | .set args keypair => (runSet env args keypair file).map Prod.fst
  | .importFrom source old => (runImport env source old file).map Prod.fst

/-- The table that a service is removed from is printed without it: it has its own header, is
in braces, or has another service. -/
def KeepsServices (text : Text) : Command Text → Prop
  | .remove name => ∀ doc side inner services, env.crate.parse text = .ok doc →
      definingSide doc name = some side → servicesOf doc side = some (inner, services) →
      inner.written = true ∨ ∃ other ∈ services.map Prod.fst, other ≠ name
  | _ => True

variable {env}

theorem map_ok {A B : Type} {x : Except String A} {f : A → B} {b : B} (ran : x.map f = .ok b) :
    ∃ a, x = .ok a ∧ f a = b := by
  cases x with
  | error message => cases ran
  | ok a => exact ⟨a, rfl, Except.ok.inj ran⟩

theorem servicesOf_eq_some {doc : Entries} {side : ServiceSide} {inner : TableKind}
    {services : Entries} (found : servicesOf doc side = some (inner, services)) :
    ∃ kind section_, doc.lookup side.key = some (.table kind section_) ∧
      section_.lookup "services" = some (.table inner services) := by
  obtain ⟨item, held, table⟩ := Option.bind_eq_some_iff.mp found
  obtain ⟨outer, present, get⟩ := Option.bind_eq_some_iff.mp held
  obtain ⟨⟨kind, section_⟩, like, got⟩ := Option.bind_eq_some_iff.mp get
  refine ⟨kind, section_, ?_, ?_⟩
  · cases outer <;> cases like
    exact present
  · cases item <;> cases table
    exact got

/-- The side on which a service is found has a table of services. -/
theorem exists_servicesOf {doc : Entries} {name : String} {side : ServiceSide}
    (found : definingSide doc name = some side) :
    ∃ table, servicesOf doc side = some table := by
  have defines := List.find?_some found
  unfold serviceExists at defines
  cases table : servicesOf doc side with
  | none =>
    rw [table] at defines
    cases defines
  | some found => exact ⟨found, rfl⟩

theorem loadable_removeService_iff {text after : Text} {name : String} (lawful : env.crate.Lawful)
    (accepted : Loadable env text) (ran : removeService env (some text) name = .ok after) :
    Loadable env after ↔ KeepsServices env text (.remove name) := by
  obtain ⟨doc, parsed, ran⟩ := bind_ok ran
  have parsed := withContext_ok parsed
  obtain ⟨side, found, ran⟩ := bind_ok ran
  have found := okOrElse_ok found
  obtain ⟨⟨inner, services⟩, table⟩ := exists_servicesOf found
  obtain ⟨kind, section_, held, listed⟩ := servicesOf_eq_some table
  obtain ⟨t, read, loads⟩ := (loadable_iff text).mp accepted
  have same := lawful.read parsed read
  subst same
  have removed := lawful.removed parsed read [side.key, "services"] name
  have exact := tableLoads_removed name (lawful.wellFormed parsed) held listed loads
  have keeps : KeepsServices env text (.remove name) ↔
      inner.written = true ∨ ∃ other ∈ services.map Prod.fst, other ≠ name := by
    constructor
    · intro kept
      exact kept doc side inner services parsed found table
    · intro kept doc' side' inner' services' parsed' found' table'
      cases parsed.symm.trans parsed'
      cases found.symm.trans found'
      cases table.symm.trans table'
      exact kept
  rw [keeps, ← exact, loadable_iff, ← Except.ok.inj ran, removed]
  constructor
  · rintro ⟨t, same, loaded⟩
    cases same
    exact loaded
  · intro loaded
    exact ⟨_, rfl, loaded⟩

/-- The loader accepts what a command has made of an accepted file, except when `config remove`
has taken the last service out of a table that has no header of its own. -/
theorem loadable_iff_keepsServices {text after : Text} {command : Command Text}
    (lawful : env.crate.Lawful) (accepted : Loadable env text)
    (ran : run env (some text) command = .ok after) :
    Loadable env after ↔ KeepsServices env text command := by
  cases command with
  | remove name =>
    obtain ⟨out, done, same⟩ := map_ok ran
    obtain ⟨services, -, done⟩ := bind_ok done
    obtain ⟨written, removed, done⟩ := bind_ok done
    rw [← same, ← Except.ok.inj done]
    exact loadable_removeService_iff lawful accepted removed
  | addSingle args answers fresh keypair =>
    obtain ⟨out, done, same⟩ := map_ok ran
    rw [← same]
    exact iff_of_true (loadable_of_saves (saves_of_runAddSingle done)) trivial
  | addBatch clientSpecs serverSpecs fresh =>
    obtain ⟨out, done, same⟩ := map_ok ran
    rw [← same]
    exact iff_of_true (loadable_of_saves (saves_of_runAddBatch done)) trivial
  | set args keypair =>
    obtain ⟨out, done, same⟩ := map_ok ran
    rw [← same]
    exact iff_of_true (loadable_of_saves (saves_of_runSet done)) trivial
  | importFrom source old =>
    obtain ⟨out, done, same⟩ := map_ok ran
    rw [← same]
    exact iff_of_true (loadable_of_saves (saves_of_runImport done)) trivial

end Loadable

/-- Texts that are trees, in a build without proxies. -/
def treeEnv (order : HashOrder) : Env Entries := ⟨.tree, fun _ => none, order, "client.toml"⟩

/-- A client with the one service `web`, in a table of the given kind. -/
def webDocument (kind : TableKind) : Entries :=
  [("client", .table .header [("remote_addr", .string "example.com:2333"),
    ("default_token", .string "secret"),
    ("services", .table kind
      [("web", .table .header [("local_addr", .string "127.0.0.1:80")])])])]

theorem webDocument_loadable (order : HashOrder) (kind : TableKind) :
    Loadable (treeEnv order) (webDocument kind) := by
  rw [loadable_iff]
  refine ⟨(webDocument .header).written, by cases kind <;> rfl, ?_⟩
  rw [tableLoads_iff]
  refine ⟨_, rfl, ?_⟩
  rw [Config.validateSections_isOk]
  refine ⟨by simp, fun client same => ?_, Or.inr rfl⟩
  cases same
  simp only [Config.validateClientConfig, treeEnv, order.entries_single]
  exact ⟨_, rfl⟩

/-- A table of services with its own header stays when its only service is removed. -/
theorem loadable_empty_services : ∃ after,
    run (treeEnv .some) (some (webDocument .header)) (.remove "web") = .ok after ∧
    KeepsServices (treeEnv .some) (webDocument .header) (.remove "web") ∧
    (Loadable (treeEnv .some) after ↔
      KeepsServices (treeEnv .some) (webDocument .header) (.remove "web")) := by
  refine ⟨_, rfl, ?_, loadable_iff_keepsServices Toml.Crate.tree_lawful
    (webDocument_loadable .some .header) rfl⟩
  intro doc side inner services parsed found table
  cases Except.ok.inj parsed
  cases found
  cases table
  exact Or.inl rfl

/-- Without a header of its own, the table goes with its only service. -/
theorem removed_services_rejected : ¬ ∀ (env : Env Entries) (text after : Entries)
    (command : Command Entries), env.crate.Lawful → Loadable env text →
    run env (some text) command = .ok after → Loadable env after := by
  intro keeps
  have accepted := webDocument_loadable .some .implicit
  have removed : removeService (treeEnv .some) (some (webDocument .implicit)) "web" = .ok
      [("client", .table .header [("remote_addr", .string "example.com:2333"),
        ("default_token", .string "secret"), ("services", .table .implicit [])])] := rfl
  have loaded := keeps (treeEnv .some) _ _ (.remove "web") Toml.Crate.tree_lawful accepted rfl
  have kept := (loadable_removeService_iff Toml.Crate.tree_lawful accepted removed).mp loaded
  have left := kept (webDocument .implicit) .client .implicit _ rfl rfl rfl
  rcases left with header | ⟨other, member, apart⟩
  · cases header
  · rw [List.map_cons, List.map_nil, List.mem_singleton] at member
    exact apart member

end ConfigEdit

end Rathole
