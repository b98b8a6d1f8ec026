import Rathole.ConfigDiff
import Rathole.ConfigOrder

set_option autoImplicit false

/- What the validation asks of a section, without the order of its loop, and what it makes of
the services. -/
namespace Rathole

open InstanceConfig

/-- The fields of a service that the runtime unwraps. -/
structure ServerServiceConfig.Usable (name : String) (s : ServerServiceConfig) : Prop where
  name : s.name = name
  token : ∃ token, s.token = some token ∧ token.isEmpty = false

structure ClientServiceConfig.Usable (name : String) (s : ClientServiceConfig) : Prop where
  name : s.name = name
  token : ∃ token, s.token = some token ∧ token.isEmpty = false
  retryInterval : ∃ interval, s.retryInterval = some interval ∧ 0 < interval

namespace Config

section Section_

variable {V : Type} {order : HashOrder}

/-- `services` with every service filled in. -/
def Fills (fill : String → V → V) (services filled : HashMap String V) : Prop :=
  ∀ name, filled.lookup name = (services.lookup name).map (fill name)

theorem fills_writeBack (order : HashOrder) (fill : String → V → V) (services : HashMap String V) :
    Fills fill services
      (writeBack services ((order.entries services).map fun e => (e.1, fill e.1 e.2))) :=
  lookup_writeBack_fill (order.enumerates services) fill

theorem Fills.unique {fill : String → V → V} {services one two : HashMap String V}
    (first : Fills fill services one) (second : Fills fill services two) : one = two := by
  apply Finmap.ext_lookup
  intro name
  rw [first name, second name]

/-- The loop meets no two entries with the same `key`. -/
theorem nodup_entries_iff {K : Type} (order : HashOrder) (key : V → K) (services : HashMap String V) :
    ((order.entries services).map fun e => key e.2).Nodup ↔
      ∀ name name' v v', services.lookup name = some v → services.lookup name' = some v' →
        key v = key v' → name = name' := by
  have nodup : (order.entries services).Nodup := (order.enumerates services).nodup.of_map
  constructor
  · intro once name name' v v' found found' same
    have left := (order.mem_entries services name v).mpr found
    have right := (order.mem_entries services name' v').mpr found'
    have equal := List.inj_on_of_nodup_map once left right same
    exact congrArg Prod.fst equal
  · intro apart
    apply List.Nodup.map_on _ nodup
    intro e left e' right same
    have found := (order.mem_entries services e.1 e.2).mp left
    have found' := (order.mem_entries services e'.1 e'.2).mp right
    have name := apart _ _ _ _ found found' same
    rw [name, found'] at found
    exact Prod.ext name (Option.some.inj found).symm

/-- What `validate_server_config` asks of a section. -/
structure ServerAccepted (server : ServerConfig) : Prop where
  port : ((rsplitOnce ':' server.bindAddr).bind fun split => parseU16 split.2) ≠ some 0
  default : checkDefaultToken "server" server.defaultToken = .ok ()
  tokens : ∀ name s, server.services.lookup name = some s → TokenSet s.token server.defaultToken
  addrs : ∀ name name' s s', server.services.lookup name = some s →
    server.services.lookup name' = some s' →
      (s.bindAddr, s.serviceType) = (s'.bindAddr, s'.serviceType) → name = name'
  transport : validateTransportConfig server.transport true = .ok ()

/-- What `validate_client_config` asks of a section. -/
structure ClientAccepted (client : ClientConfig) : Prop where
  interval : client.retryInterval ≠ 0
  default : checkDefaultToken "client" client.defaultToken = .ok ()
  tokens : ∀ name s, client.services.lookup name = some s → TokenSet s.token client.defaultToken
  intervals : ∀ name s, client.services.lookup name = some s → s.retryInterval ≠ some 0
  transport : validateTransportConfig client.transport false = .ok ()

theorem serverLoop_iff (order : HashOrder) (server : ServerConfig)
    (valid : List (String × ServerServiceConfig)) :
    validateServerServices server.defaultToken [] (order.entries server.services) = .ok valid ↔
      ((∀ name s, server.services.lookup name = some s →
          TokenSet s.token server.defaultToken) ∧
        ∀ name name' s s', server.services.lookup name = some s →
          server.services.lookup name' = some s' →
            (s.bindAddr, s.serviceType) = (s'.bindAddr, s'.serviceType) → name = name') ∧
      valid = (order.entries server.services).map
        fun e => (e.1, fillServer server.defaultToken e.1 e.2) := by
  have once := nodup_entries_iff order
    (fun s : ServerServiceConfig => (s.bindAddr, s.serviceType)) server.services
  rw [validateServerServices_iff]
  constructor
  · intro loop
    refine ⟨⟨?_, once.mp loop.nodup⟩, loop.filled⟩
    intro name s found
    exact loop.tokens (name, s) ((order.mem_entries server.services name s).mpr found)
  · rintro ⟨⟨tokens, addrs⟩, filled⟩
    refine ⟨?_, fun e _ => List.not_mem_nil, once.mpr addrs, filled⟩
    intro e member
    exact tokens e.1 e.2 ((order.mem_entries server.services e.1 e.2).mp member)

theorem validateServerConfig_iff {server valid : ServerConfig} :
    validateServerConfig order server = .ok valid ↔
      ServerAccepted server ∧ valid = { server with services := valid.services } ∧
        Fills (fillServer server.defaultToken) server.services valid.services := by
  have fills := fills_writeBack order (fillServer server.defaultToken) server.services
  unfold validateServerConfig
  by_cases port : ((rsplitOnce ':' server.bindAddr).bind fun split => parseU16 split.2) = some 0
  · rw [if_pos port]
    constructor
    · intro checked
      cases checked
    · intro accepted
      exact absurd port accepted.1.port
  · rw [if_neg port]
    simp only [bind, Except.bind, pure, Except.pure]
    cases default : checkDefaultToken "server" server.defaultToken with
    | error message =>
      constructor
      · intro checked
        cases checked
      · intro accepted
        cases default.symm.trans accepted.1.default
    | ok _ =>
      cases loop : validateServerServices server.defaultToken []
          (order.entries server.services) with
      | error message =>
        constructor
        · intro checked
          cases checked
        · intro accepted
          have done := (serverLoop_iff order server _).mpr
            ⟨⟨accepted.1.tokens, accepted.1.addrs⟩, rfl⟩
          cases loop.symm.trans done
      | ok entries =>
        obtain ⟨⟨tokens, addrs⟩, filled⟩ := (serverLoop_iff order server entries).mp loop
        subst filled
        cases transport : validateTransportConfig server.transport true with
        | error message =>
          constructor
          · intro checked
            cases checked
          · intro accepted
            cases transport.symm.trans accepted.1.transport
        | ok _ =>
          constructor
          · intro checked
            cases checked
            exact ⟨⟨port, default, tokens, addrs, transport⟩, rfl, fills⟩
          · intro accepted
            rw [accepted.2.1, ← fills.unique accepted.2.2]

theorem clientLoop_iff (order : HashOrder) (client : ClientConfig)
    (valid : List (String × ClientServiceConfig)) :
    validateClientServices client (order.entries client.services) = .ok valid ↔
      ((∀ name s, client.services.lookup name = some s →
          TokenSet s.token client.defaultToken) ∧
        ∀ name s, client.services.lookup name = some s → s.retryInterval ≠ some 0) ∧
      valid = (order.entries client.services).map fun e => (e.1, fillClient client e.1 e.2) := by
  rw [validateClientServices_iff]
  apply and_congr_left'
  constructor
  · intro each
    have held : ∀ name s, client.services.lookup name = some s →
        TokenSet s.token client.defaultToken ∧ s.retryInterval ≠ some 0 :=
      fun name s found => each (name, s) ((order.mem_entries client.services name s).mpr found)
    exact ⟨fun name s found => (held name s found).1, fun name s found => (held name s found).2⟩
  · intro each e member
    have found := (order.mem_entries client.services e.1 e.2).mp member
    exact ⟨each.1 e.1 e.2 found, each.2 e.1 e.2 found⟩

theorem validateClientConfig_iff {client valid : ClientConfig} :
    validateClientConfig order client = .ok valid ↔
      ClientAccepted client ∧ valid = { client with services := valid.services } ∧
        Fills (fillClient client) client.services valid.services := by
  have fills := fills_writeBack order (fillClient client) client.services
  unfold validateClientConfig
  by_cases interval : client.retryInterval = 0
  · rw [if_pos interval]
    constructor
    · intro checked
      cases checked
    · intro accepted
      exact absurd interval accepted.1.interval
  · rw [if_neg interval]
    simp only [bind, Except.bind, pure, Except.pure]
    cases default : checkDefaultToken "client" client.defaultToken with
    | error message =>
      constructor
      · intro checked
        cases checked
      · intro accepted
        cases default.symm.trans accepted.1.default
    | ok _ =>
      cases loop : validateClientServices client (order.entries client.services) with
      | error message =>
        constructor
        · intro checked
          cases checked
        · intro accepted
          have done := (clientLoop_iff order client _).mpr
            ⟨⟨accepted.1.tokens, accepted.1.intervals⟩, rfl⟩
          cases loop.symm.trans done
      | ok entries =>
        obtain ⟨⟨tokens, intervals⟩, filled⟩ := (clientLoop_iff order client entries).mp loop
        subst filled
        cases transport : validateTransportConfig client.transport false with
        | error message =>
          constructor
          · intro checked
            cases checked
          · intro accepted
            cases transport.symm.trans accepted.1.transport
        | ok _ =>
          constructor
          · intro checked
            cases checked
            exact ⟨⟨interval, default, tokens, intervals, transport⟩, rfl, fills⟩
          · intro accepted
            rw [accepted.2.1, ← fills.unique accepted.2.2]

theorem usable_fillServer {default : Option MaskedString} {s : ServerServiceConfig}
    (token : TokenSet s.token default) (name : String) :
    (fillServer default name s).Usable name :=
  ⟨rfl, token⟩

theorem usable_fillClient {client : ClientConfig} {s : ClientServiceConfig}
    (accepted : ClientAccepted client) {name : String}
    (found : client.services.lookup name = some s) : (fillClient client name s).Usable name := by
  refine ⟨rfl, accepted.tokens name s found, _, rfl, ?_⟩
  have own := accepted.intervals name s found
  have default := accepted.interval
  cases held : s.retryInterval with
  | none => exact Nat.pos_of_ne_zero default
  | some interval =>
    rw [held] at own
    apply Nat.pos_of_ne_zero
    intro zero
    exact own (congrArg some zero)

/-- A usable service is as the loop would leave it. -/
theorem fillServer_usable {default : Option MaskedString} {name : String}
    {s : ServerServiceConfig} (usable : s.Usable name) : fillServer default name s = s := by
  obtain ⟨token, held, -⟩ := usable.token
  rw [fillServer, ← usable.name, held, Option.some_or, ← held]

theorem fillClient_usable {client : ClientConfig} {name : String} {s : ClientServiceConfig}
    (usable : s.Usable name) : fillClient client name s = s := by
  obtain ⟨token, held, -⟩ := usable.token
  obtain ⟨interval, own, -⟩ := usable.retryInterval
  rw [fillClient, ← usable.name, held, Option.some_or, ← held, own, Option.getD_some, ← own]

theorem fills_usable {fill : String → V → V} {services : HashMap String V}
    (stays : ∀ name v, services.lookup name = some v → fill name v = v) :
    Fills fill services services := by
  intro name
  cases found : services.lookup name with
  | none => rfl
  | some v => rw [Option.map_some, stays name v found]

theorem lookup_fills {fill : String → V → V} {services filled : HashMap String V}
    (fills : Fills fill services filled) {name : String} {v : V}
    (found : filled.lookup name = some v) :
    ∃ own, services.lookup name = some own ∧ v = fill name own := by
  rw [fills name] at found
  obtain ⟨own, held, same⟩ := Option.map_eq_some_iff.mp found
  exact ⟨own, held, same.symm⟩

theorem validateServerConfig_again {order' : HashOrder} {server valid : ServerConfig}
    (checked : validateServerConfig order server = .ok valid) :
    validateServerConfig order' valid = .ok valid := by
  obtain ⟨accepted, same, fills⟩ := validateServerConfig_iff.mp checked
  have default : valid.defaultToken = server.defaultToken := by rw [same]
  have usable : ∀ name s, valid.services.lookup name = some s → s.Usable name := by
    intro name s found
    obtain ⟨own, held, filled⟩ := lookup_fills fills found
    rw [filled]
    exact usable_fillServer (accepted.tokens name own held) name
  apply validateServerConfig_iff.mpr
  refine ⟨⟨?_, ?_, ?_, ?_, ?_⟩, rfl,
    fills_usable fun name s found => fillServer_usable (usable name s found)⟩
  · rw [same]
    exact accepted.port
  · rw [same]
    exact accepted.default
  · intro name s found
    obtain ⟨token, held, filled⟩ := (usable name s found).token
    refine ⟨token, ?_, filled⟩
    rw [held, Option.some_or]
  · intro name name' s s' found found' alike
    obtain ⟨own, held, rfl⟩ := lookup_fills fills found
    obtain ⟨own', held', rfl⟩ := lookup_fills fills found'
    exact accepted.addrs name name' own own' held held' alike
  · rw [same]
    exact accepted.transport

theorem validateClientConfig_again {order' : HashOrder} {client valid : ClientConfig}
    (checked : validateClientConfig order client = .ok valid) :
    validateClientConfig order' valid = .ok valid := by
  obtain ⟨accepted, same, fills⟩ := validateClientConfig_iff.mp checked
  have usable : ∀ name s, valid.services.lookup name = some s → s.Usable name := by
    intro name s found
    obtain ⟨own, held, filled⟩ := lookup_fills fills found
    rw [filled]
    exact usable_fillClient accepted held
  apply validateClientConfig_iff.mpr
  refine ⟨⟨?_, ?_, ?_, ?_, ?_⟩, rfl,
    fills_usable fun name s found => fillClient_usable (usable name s found)⟩
  · rw [same]
    exact accepted.interval
  · rw [same]
    exact accepted.default
  · intro name s found
    obtain ⟨token, held, filled⟩ := (usable name s found).token
    refine ⟨token, ?_, filled⟩
    rw [held, Option.some_or]
  · intro name s found
    obtain ⟨interval, held, positive⟩ := (usable name s found).retryInterval
    rw [held]
    intro zero
    cases zero
    exact Nat.lt_irrefl 0 positive
  · rw [same]
    exact accepted.transport

/-- The services of a validated section, against those of the section before: usable, with their
own token and retry interval where they have one, else those of the section. -/
structure Resolved (parsed config : Config) : Prop where
  server : ∀ after, config.server = some after → ∃ before, parsed.server = some before ∧
    after.defaultToken = before.defaultToken ∧
    ∀ name service, after.services.lookup name = some service → service.Usable name ∧
      ∃ own, before.services.lookup name = some own ∧
        service.token = own.token.or before.defaultToken
  client : ∀ after, config.client = some after → ∃ before, parsed.client = some before ∧
    after.defaultToken = before.defaultToken ∧ after.retryInterval = before.retryInterval ∧
    ∀ name service, after.services.lookup name = some service → service.Usable name ∧
      ∃ own, before.services.lookup name = some own ∧
        service.token = own.token.or before.defaultToken ∧
        service.retryInterval = some (own.retryInterval.getD before.retryInterval)

theorem resolved_of_validateSections {parsed config : Config}
    (checked : validateSections order parsed = .ok config) : Resolved parsed config := by
  obtain ⟨server, client, -⟩ := validateSections_iff.mp checked
  constructor
  · intro after same
    rw [same] at server
    obtain ⟨before, held, valid⟩ := mapM_ok server
    obtain ⟨accepted, same, fills⟩ := validateServerConfig_iff.mp valid
    refine ⟨before, held, by rw [same], fun name service found => ?_⟩
    obtain ⟨own, held, rfl⟩ := lookup_fills fills found
    exact ⟨usable_fillServer (accepted.tokens name own held) name, own, held, rfl⟩
  · intro after same
    rw [same] at client
    obtain ⟨before, held, valid⟩ := mapM_ok client
    obtain ⟨accepted, same, fills⟩ := validateClientConfig_iff.mp valid
    refine ⟨before, held, by rw [same], by rw [same], fun name service found => ?_⟩
    obtain ⟨own, held, rfl⟩ := lookup_fills fills found
    exact ⟨usable_fillClient accepted held, own, held, rfl, rfl⟩

theorem mapM_again {A : Type} {check check' : A → Except String A} {before after : Option A}
    (again : ∀ x y, check x = .ok y → check' y = .ok y)
    (mapped : before.mapM check = .ok after) : after.mapM check' = .ok after := by
  cases after with
  | none => rfl
  | some y =>
    obtain ⟨x, -, checked⟩ := mapM_ok mapped
    change (some <$> check' y : Except String (Option A)) = .ok (some y)
    rw [again x y checked]
    rfl

theorem mapM_isNone {A : Type} {check : A → Except String A} {before after : Option A}
    (mapped : before.mapM check = .ok after) : after.isNone = before.isNone := by
  cases before with
  | none =>
    cases mapped
    rfl
  | some x =>
    change (some <$> check x : Except String (Option A)) = _ at mapped
    cases checked : check x with
    | error message =>
      rw [checked] at mapped
      cases mapped
    | ok y =>
      rw [checked] at mapped
      cases mapped
      rfl

theorem mapM_some {A : Type} {check : A → Except String A} {x : A} {after : Option A}
    (mapped : (some x).mapM check = .ok after) : ∃ y, after = some y ∧ check x = .ok y := by
  cases after with
  | none => cases mapM_isNone mapped
  | some y =>
    obtain ⟨x', same, checked⟩ := mapM_ok mapped
    cases same
    exact ⟨y, rfl, checked⟩

/-- A validated configuration is accepted again, unchanged. -/
theorem validateSections_again {order' : HashOrder} {parsed config : Config}
    (checked : validateSections order parsed = .ok config) :
    validateSections order' config = .ok config := by
  obtain ⟨server, client, defined⟩ := validateSections_iff.mp checked
  apply validateSections_iff.mpr
  refine ⟨mapM_again (fun _ _ => validateServerConfig_again) server,
    mapM_again (fun _ _ => validateClientConfig_again) client, ?_⟩
  rw [mapM_isNone server, mapM_isNone client]
  exact defined

end Section_

section Text_

variable {Text : Type} {tomlFromStr : Text → Except String Config}

/-- Some run of the program, with an iteration order of its own, accepts some text as `config`. -/
def Accepted (tomlFromStr : Text → Except String Config) (config : Config) : Prop :=
  ∃ order text, fromStr tomlFromStr order text = .ok config

theorem fromStr_ok {order : HashOrder} {text : Text} {config : Config}
    (accepted : fromStr tomlFromStr order text = .ok config) :
    ∃ parsed, tomlFromStr text = .ok parsed ∧ validateSections order parsed = .ok config := by
  unfold fromStr at accepted
  split at accepted
  · cases accepted
  · next parsed read => exact ⟨parsed, read, accepted⟩

theorem Accepted.usableServer {config : Config} (accepted : Accepted tomlFromStr config)
    {section_ : ServerConfig} (defined : config.server = some section_) {name : String}
    {service : ServerServiceConfig} (found : section_.services.lookup name = some service) :
    service.Usable name := by
  obtain ⟨order, text, accepted⟩ := accepted
  obtain ⟨parsed, -, checked⟩ := fromStr_ok accepted
  obtain ⟨before, -, -, services⟩ := (resolved_of_validateSections checked).server section_ defined
  exact (services name service found).1

theorem Accepted.usableClient {config : Config} (accepted : Accepted tomlFromStr config)
    {section_ : ClientConfig} (defined : config.client = some section_) {name : String}
    {service : ClientServiceConfig} (found : section_.services.lookup name = some service) :
    service.Usable name := by
  obtain ⟨order, text, accepted⟩ := accepted
  obtain ⟨parsed, -, checked⟩ := fromStr_ok accepted
  obtain ⟨before, -, -, -, services⟩ :=
    (resolved_of_validateSections checked).client section_ defined
  exact (services name service found).1

end Text_

end Config

section Events

variable {order : HashOrder} {old new : Config} {events : List ConfigChange}

theorem mem_sectionChanges {T S : Type} [DecidableEq S] [InstanceConfig T S] {old new : Option T}
    {e : ConfigChange} (member : e ∈ sectionChanges order old new) :
    (∃ name, e = serviceDeleteChange T name) ∨
      ∃ after name service, new = some after ∧ (getServices after).lookup name = some service ∧
        e = serviceAddChange T service := by
  unfold sectionChanges at member
  split at member
  · next before after =>
    rcases List.mem_append.mp member with member | member
    · obtain ⟨name, -, rfl⟩ := List.mem_map.mp member
      exact .inl ⟨name, rfl⟩
    · obtain ⟨⟨name, service⟩, added, rfl⟩ := List.mem_map.mp member
      exact .inr ⟨after, name, service, rfl, ((mem_additions order _ _ name service).mp added).1, rfl⟩
  · cases member

/-- An Add event carries a service of the new configuration. -/
theorem added_of_calculateEvents (told : calculateEvents order old new = some events) :
    (∀ cfg, .serverChange (.add cfg) ∈ events →
      ∃ after name, new.server = some after ∧ after.services.lookup name = some cfg) ∧
    ∀ cfg, .clientChange (.add cfg) ∈ events →
      ∃ after name, new.client = some after ∧ after.services.lookup name = some cfg := by
  rw [calculateEvents_eq] at told
  split at told
  · cases told
  · split at told
    · cases told
      constructor
      · intro cfg member
        rcases List.mem_append.mp member with member | member
        · rcases mem_sectionChanges member with ⟨name, same⟩ | ⟨after, name, service, has, found, same⟩
          · cases same
          · cases same
            exact ⟨after, name, has, found⟩
        · rcases mem_sectionChanges member with ⟨name, same⟩ | ⟨after, name, service, -, -, same⟩ <;>
            cases same
      · intro cfg member
        rcases List.mem_append.mp member with member | member
        · rcases mem_sectionChanges member with ⟨name, same⟩ | ⟨after, name, service, -, -, same⟩ <;>
            cases same
        · rcases mem_sectionChanges member with ⟨name, same⟩ | ⟨after, name, service, has, found, same⟩
          · cases same
          · cases same
            exact ⟨after, name, has, found⟩
    · cases told
      constructor <;> intro cfg member <;> cases List.mem_singleton.mp member

end Events

end Rathole
