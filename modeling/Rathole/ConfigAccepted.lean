import Rathole.Config

set_option autoImplicit false

/- What an accepted configuration looks like: the loops of the validation give every
service the name it is stored under, a token and, on a client, a retry interval. -/
namespace Rathole

structure ServerServiceConfig.Filled (name : String) (s : ServerServiceConfig) : Prop where
  name : s.name = name
  token : s.token.isSome

structure ClientServiceConfig.Filled (name : String) (s : ClientServiceConfig) : Prop where
  name : s.name = name
  token : s.token.isSome
  retryInterval : s.retryInterval.isSome

/-- Every service of the sections that are there is filled in. -/
structure Config.Filled (config : Config) : Prop where
  server : ∀ section_, config.server = some section_ → ∀ name service,
    section_.services.lookup name = some service → service.Filled name
  client : ∀ section_, config.client = some section_ → ∀ name service,
    section_.services.lookup name = some service → service.Filled name

namespace Config

variable {V : Type}

/-- A key that is written back ends with one of the entries written under it; other
keys stay as they are. -/
theorem lookup_writeBack {services : HashMap String V} {entries : List (String × V)}
    {name : String} {v : V} (found : (writeBack services entries).lookup name = some v) :
    (name, v) ∈ entries ∨ name ∉ entries.map Prod.fst ∧ services.lookup name = some v := by
  unfold writeBack at found
  induction entries generalizing services with
  | nil => exact .inr ⟨List.not_mem_nil, found⟩
  | cons e entries ih =>
    rcases ih found with member | ⟨absent, before⟩
    · exact .inl (List.mem_cons_of_mem _ member)
    · rw [lookup_insert_eq] at before
      by_cases same : name = e.1
      · rw [if_pos same] at before
        cases before
        exact .inl (same ▸ List.mem_cons_self)
      · rw [if_neg same] at before
        refine .inr ⟨fun member => ?_, before⟩
        rcases List.mem_cons.mp member with here | later
        · exact same here
        · exact absent later

/-- A loop that answers with every key it was given leaves nothing unwritten. -/
theorem filled_writeBack {order : HashOrder} {services : HashMap String V}
    {entries : List (String × V)} {P : String → V → Prop}
    (keys : entries.map Prod.fst = order.keys services)
    (filled : ∀ e ∈ entries, P e.1 e.2) {name : String} {v : V}
    (found : (writeBack services entries).lookup name = some v) : P name v := by
  rcases lookup_writeBack found with member | ⟨absent, before⟩
  · exact filled (name, v) member
  · have held : name ∈ services := Finmap.mem_of_lookup_eq_some before
    rw [keys, order.mem_keys] at absent
    exact absurd held absent

theorem resolveToken_ok {name : String} {own default : Option MaskedString} {token : MaskedString}
    (resolved : resolveToken name own default = .ok token) :
    own.or default = some token ∧ token.isEmpty = false := by
  unfold resolveToken at resolved
  split at resolved
  · cases resolved
  · next found =>
    split at resolved
    · cases resolved
    · next filled =>
      cases resolved
      exact ⟨found, Bool.eq_false_iff.mpr filled⟩

/-- The token a service ends with is there and not empty. -/
def TokenSet (own default : Option MaskedString) : Prop :=
  ∃ token, own.or default = some token ∧ token.isEmpty = false

def fillServer (default : Option MaskedString) (name : String) (s : ServerServiceConfig) :
    ServerServiceConfig :=
  { s with name := name, token := s.token.or default }

def fillClient (client : ClientConfig) (name : String) (s : ClientServiceConfig) :
    ClientServiceConfig :=
  { s with
    name := name
    token := s.token.or client.defaultToken
    retryInterval := some (s.retryInterval.getD client.retryInterval) }

theorem resolveToken_iff (name : String) (own default : Option MaskedString) (token : MaskedString) :
    resolveToken name own default = .ok token ↔
      own.or default = some token ∧ token.isEmpty = false := by
  constructor
  · exact resolveToken_ok
  · rintro ⟨found, filled⟩
    unfold resolveToken
    rw [found]
    exact if_neg (Bool.eq_false_iff.mp filled)

theorem validateServerService_iff (default : Option MaskedString)
    (bindAddrs : List (String × ServiceType)) (name : String) (s valid : ServerServiceConfig) :
    validateServerService default bindAddrs name s = .ok valid ↔
      TokenSet s.token default ∧ (s.bindAddr, s.serviceType) ∉ bindAddrs ∧
        valid = fillServer default name s := by
  unfold validateServerService
  cases resolved : resolveToken name s.token default with
  | error message =>
    constructor
    · intro checked
      cases checked
    · rintro ⟨⟨token, set⟩, -, -⟩
      cases resolved.symm.trans ((resolveToken_iff name s.token default token).mpr set)
  | ok token =>
    have set := (resolveToken_iff name s.token default token).mp resolved
    simp only [bind, Except.bind]
    by_cases taken : (s.bindAddr, s.serviceType) ∈ bindAddrs
    · rw [if_pos taken]
      constructor
      · intro checked
        cases checked
      · intro free
        exact absurd taken free.2.1
    · rw [if_neg taken]
      constructor
      · intro checked
        cases checked
        refine ⟨⟨token, set⟩, taken, ?_⟩
        rw [fillServer, set.1]
      · rintro ⟨-, -, rfl⟩
        rw [fillServer, set.1]
        rfl

/-- What the loop over `server.services` asks of the services, and what it makes of them. -/
structure ServerLoop (default : Option MaskedString) (bindAddrs : List (String × ServiceType))
    (entries valid : List (String × ServerServiceConfig)) : Prop where
  tokens : ∀ e ∈ entries, TokenSet e.2.token default
  free : ∀ e ∈ entries, (e.2.bindAddr, e.2.serviceType) ∉ bindAddrs
  nodup : (entries.map fun e => (e.2.bindAddr, e.2.serviceType)).Nodup
  filled : valid = entries.map fun e => (e.1, fillServer default e.1 e.2)

theorem ServerLoop.cons {default : Option MaskedString} {bindAddrs : List (String × ServiceType)}
    {e : String × ServerServiceConfig} {entries valid : List (String × ServerServiceConfig)} :
    ServerLoop default bindAddrs (e :: entries) valid ↔
      (TokenSet e.2.token default ∧ (e.2.bindAddr, e.2.serviceType) ∉ bindAddrs) ∧
      ∃ others, ServerLoop default ((e.2.bindAddr, e.2.serviceType) :: bindAddrs) entries others ∧
        valid = (e.1, fillServer default e.1 e.2) :: others := by
  constructor
  · rintro ⟨tokens, free, nodup, filled⟩
    obtain ⟨fresh, nodup⟩ := List.nodup_cons.mp nodup
    refine ⟨⟨tokens e List.mem_cons_self, free e List.mem_cons_self⟩, _,
      ⟨fun x member => tokens x (List.mem_cons_of_mem _ member), fun x member taken => ?_, nodup, rfl⟩,
      filled⟩
    rcases List.mem_cons.mp taken with same | before
    · exact fresh (List.mem_map.mpr ⟨x, member, same⟩)
    · exact free x (List.mem_cons_of_mem _ member) before
  · rintro ⟨⟨token, here⟩, others, ⟨tokens, free, nodup, filled⟩, rfl⟩
    refine ⟨fun x member => ?_, fun x member => ?_, ?_, ?_⟩
    · rcases List.mem_cons.mp member with rfl | member
      · exact token
      · exact tokens x member
    · rcases List.mem_cons.mp member with rfl | member
      · exact here
      · exact fun taken => free x member (List.mem_cons_of_mem _ taken)
    · refine List.nodup_cons.mpr ⟨fun taken => ?_, nodup⟩
      obtain ⟨x, member, same⟩ := List.mem_map.mp taken
      exact free x member (same ▸ List.mem_cons_self)
    · rw [filled, List.map_cons]

theorem validateServerServices_iff (default : Option MaskedString)
    (bindAddrs : List (String × ServiceType)) (entries valid : List (String × ServerServiceConfig)) :
    validateServerServices default bindAddrs entries = .ok valid ↔
      ServerLoop default bindAddrs entries valid := by
  induction entries generalizing bindAddrs valid with
  | nil =>
    constructor
    · intro checked
      cases checked
      exact ⟨fun e member => absurd member List.not_mem_nil,
        fun e member => absurd member List.not_mem_nil, List.nodup_nil, rfl⟩
    · intro loop
      rw [loop.filled]
      rfl
  | cons e entries ih =>
    rw [validateServerServices, ServerLoop.cons]
    cases first : validateServerService default bindAddrs e.1 e.2 with
    | error message =>
      constructor
      · intro checked
        cases checked
      · rintro ⟨⟨token, free⟩, -⟩
        cases first.symm.trans
          ((validateServerService_iff default bindAddrs e.1 e.2 _).mpr ⟨token, free, rfl⟩)
    | ok service =>
      obtain ⟨token, free, rfl⟩ :=
        (validateServerService_iff default bindAddrs e.1 e.2 service).mp first
      cases rest : validateServerServices default ((e.2.bindAddr, e.2.serviceType) :: bindAddrs)
          entries with
      | error message =>
        constructor
        · intro checked
          cases checked
        · rintro ⟨-, others, loop, -⟩
          cases rest.symm.trans ((ih _ others).mpr loop)
      | ok others =>
        constructor
        · intro checked
          cases checked
          exact ⟨⟨token, free⟩, others, (ih _ others).mp rest, rfl⟩
        · rintro ⟨-, others', loop, rfl⟩
          cases rest.symm.trans ((ih _ others').mpr loop)
          rfl

theorem validateClientService_iff (client : ClientConfig) (name : String)
    (s valid : ClientServiceConfig) : validateClientService client name s = .ok valid ↔
      TokenSet s.token client.defaultToken ∧ s.retryInterval ≠ some 0 ∧
        valid = fillClient client name s := by
  unfold validateClientService
  cases resolved : resolveToken name s.token client.defaultToken with
  | error message =>
    constructor
    · intro checked
      cases checked
    · rintro ⟨⟨token, set⟩, -, -⟩
      cases resolved.symm.trans ((resolveToken_iff name s.token client.defaultToken token).mpr set)
  | ok token =>
    have set := (resolveToken_iff name s.token client.defaultToken token).mp resolved
    simp only [bind, Except.bind]
    by_cases zero : s.retryInterval = some 0
    · rw [if_pos zero]
      constructor
      · intro checked
        cases checked
      · intro positive
        exact absurd zero positive.2.1
    · rw [if_neg zero]
      constructor
      · intro checked
        cases checked
        refine ⟨⟨token, set⟩, zero, ?_⟩
        rw [fillClient, set.1]
      · rintro ⟨-, -, rfl⟩
        rw [fillClient, set.1]
        rfl

theorem validateClientServices_iff (client : ClientConfig)
    (entries valid : List (String × ClientServiceConfig)) :
    validateClientServices client entries = .ok valid ↔
      (∀ e ∈ entries, TokenSet e.2.token client.defaultToken ∧ e.2.retryInterval ≠ some 0) ∧
        valid = entries.map fun e => (e.1, fillClient client e.1 e.2) := by
  induction entries generalizing valid with
  | nil =>
    constructor
    · intro checked
      cases checked
      exact ⟨fun e member => absurd member List.not_mem_nil, rfl⟩
    · rintro ⟨-, rfl⟩
      rfl
  | cons e entries ih =>
    rw [validateClientServices, List.forall_mem_cons, List.map_cons]
    cases first : validateClientService client e.1 e.2 with
    | error message =>
      constructor
      · intro checked
        cases checked
      · rintro ⟨⟨⟨token, positive⟩, -⟩, -⟩
        cases first.symm.trans
          ((validateClientService_iff client e.1 e.2 _).mpr ⟨token, positive, rfl⟩)
    | ok service =>
      obtain ⟨token, positive, rfl⟩ := (validateClientService_iff client e.1 e.2 service).mp first
      cases rest : validateClientServices client entries with
      | error message =>
        constructor
        · intro checked
          cases checked
        · rintro ⟨⟨-, each⟩, -⟩
          cases rest.symm.trans ((ih _).mpr ⟨each, rfl⟩)
      | ok others =>
        obtain ⟨each, same⟩ := (ih others).mp rest
        constructor
        · intro checked
          cases checked
          exact ⟨⟨⟨token, positive⟩, each⟩, by rw [same]⟩
        · rintro ⟨-, rfl⟩
          rw [same]
          rfl

theorem ServerLoop.keys {default : Option MaskedString} {bindAddrs : List (String × ServiceType)}
    {entries valid : List (String × ServerServiceConfig)}
    (loop : ServerLoop default bindAddrs entries valid) :
    valid.map Prod.fst = entries.map Prod.fst ∧ ∀ e ∈ valid, e.2.Filled e.1 := by
  rw [loop.filled, List.map_map]
  refine ⟨rfl, fun e member => ?_⟩
  obtain ⟨x, listed, rfl⟩ := List.mem_map.mp member
  obtain ⟨token, set, -⟩ := loop.tokens x listed
  exact ⟨rfl, Option.isSome_iff_exists.mpr ⟨token, set⟩⟩

theorem clientLoop_keys {client : ClientConfig} {entries valid : List (String × ClientServiceConfig)}
    (checked : validateClientServices client entries = .ok valid) :
    valid.map Prod.fst = entries.map Prod.fst ∧ ∀ e ∈ valid, e.2.Filled e.1 := by
  obtain ⟨each, rfl⟩ := (validateClientServices_iff client entries valid).mp checked
  rw [List.map_map]
  refine ⟨rfl, fun e member => ?_⟩
  obtain ⟨x, listed, rfl⟩ := List.mem_map.mp member
  obtain ⟨⟨token, set, -⟩, -⟩ := each x listed
  exact ⟨rfl, Option.isSome_iff_exists.mpr ⟨token, set⟩, rfl⟩

theorem validateServerConfig_ok {order : HashOrder} {server valid : ServerConfig}
    (checked : validateServerConfig order server = .ok valid) :
    ∃ entries, validateServerServices server.defaultToken [] (order.entries server.services) =
        .ok entries ∧
      valid = { server with services := writeBack server.services entries } := by
  simp only [validateServerConfig, bind, Except.bind] at checked
  split at checked
  · cases checked
  · split at checked
    · cases checked
    · split at checked
      · cases checked
      · next entries loop =>
        split at checked
        · cases checked
        · cases checked
          exact ⟨entries, loop, rfl⟩

theorem validateClientConfig_ok {order : HashOrder} {client valid : ClientConfig}
    (checked : validateClientConfig order client = .ok valid) :
    ∃ entries, validateClientServices client (order.entries client.services) = .ok entries ∧
      valid = { client with services := writeBack client.services entries } := by
  simp only [validateClientConfig, bind, Except.bind] at checked
  split at checked
  · cases checked
  · split at checked
    · cases checked
    · split at checked
      · cases checked
      · next entries loop =>
        split at checked
        · cases checked
        · cases checked
          exact ⟨entries, loop, rfl⟩

theorem filled_of_validateServerConfig {order : HashOrder} {server valid : ServerConfig}
    (checked : validateServerConfig order server = .ok valid) {name : String}
    {service : ServerServiceConfig} (found : valid.services.lookup name = some service) :
    service.Filled name := by
  obtain ⟨entries, loop, rfl⟩ := validateServerConfig_ok checked
  obtain ⟨keys, filled⟩ := ((validateServerServices_iff _ _ _ _).mp loop).keys
  exact filled_writeBack keys filled found

theorem filled_of_validateClientConfig {order : HashOrder} {client valid : ClientConfig}
    (checked : validateClientConfig order client = .ok valid) {name : String}
    {service : ClientServiceConfig} (found : valid.services.lookup name = some service) :
    service.Filled name := by
  obtain ⟨entries, loop, rfl⟩ := validateClientConfig_ok checked
  obtain ⟨keys, filled⟩ := clientLoop_keys loop
  exact filled_writeBack keys filled found

theorem mapM_ok {A : Type} {check : A → Except String A} {before : Option A} {after : A}
    (mapped : before.mapM check = .ok (some after)) :
    ∃ x, before = some x ∧ check x = .ok after := by
  cases before with
  | none => cases mapped
  | some x =>
    refine ⟨x, rfl, ?_⟩
    change (some <$> check x : Except String (Option A)) = _ at mapped
    cases checked : check x with
    | error message =>
      rw [checked] at mapped
      cases mapped
    | ok y =>
      rw [checked] at mapped
      cases mapped
      rfl

/-- Every section is validated by itself, and there is one. -/
theorem validateSections_iff {order : HashOrder} {parsed config : Config} :
    validateSections order parsed = .ok config ↔
      parsed.server.mapM (validateServerConfig order) = .ok config.server ∧
        parsed.client.mapM (validateClientConfig order) = .ok config.client ∧
        ¬ (parsed.server.isNone = true ∧ parsed.client.isNone = true) := by
  simp only [validateSections, bind, Except.bind]
  cases server : parsed.server.mapM (validateServerConfig order) with
  | error message => simp
  | ok server =>
    cases client : parsed.client.mapM (validateClientConfig order) with
    | error message => simp
    | ok client =>
      obtain ⟨server', client'⟩ := config
      dsimp only
      by_cases undefined : parsed.server.isNone = true ∧ parsed.client.isNone = true
      · rw [if_pos undefined]
        simp [undefined, throw, throwThe, MonadExceptOf.throw]
      · rw [if_neg undefined]
        simp only [pure, Except.pure, Except.ok.injEq, Config.mk.injEq, undefined, not_false_eq_true,
          and_true]

/-- What the validation asks of a proxy and of the selected transport. -/
structure TransportAccepted (config : TransportConfig) (isServer : Bool) : Prop where
  proxy : ∀ u, config.tcp.proxy = some u → (u.scheme = "socks5" ∨ u.scheme = "http") ∧
    u.hostStr.isSome = true ∧ u.port.isSome = true
  tls : config.transportType = .tls → ∃ tls, config.tls = some tls ∧
    (isServer = true → tls.pkcs12.isSome = true ∧ tls.pkcs12Password.isSome = true)
  noise : config.transportType = .noise → config.noise.isSome = true

/-- The second half of `validate_transport_config`. -/
def validateSelected (config : TransportConfig) (isServer : Bool) : Except String Unit :=
  validateTransportConfig { config with tcp := { config.tcp with proxy := none } } isServer

theorem validateSelected_iff {config : TransportConfig} {isServer : Bool} :
    validateSelected config isServer = .ok () ↔
      (config.transportType = .tls → ∃ tls, config.tls = some tls ∧
        (isServer = true → tls.pkcs12.isSome = true ∧ tls.pkcs12Password.isSome = true)) ∧
      (config.transportType = .noise → config.noise.isSome = true) := by
  unfold validateSelected validateTransportConfig
  simp only [pure, Except.pure, throw, throwThe, MonadExceptOf.throw]
  cases config.transportType with
  | tcp => simp
  | tls =>
    cases config.tls with
    | none => simp
    | some tls =>
      cases isServer with
      | false => simp
      | true =>
        obtain ⟨hostname, root, pkcs12, password⟩ := tls
        cases pkcs12 <;> cases password <;> simp
  | noise => cases config.noise <;> simp
  | websocket => simp

theorem validateTransportConfig_iff {config : TransportConfig} {isServer : Bool} :
    validateTransportConfig config isServer = .ok () ↔ TransportAccepted config isServer := by
  have parts : TransportAccepted config isServer ↔
      (∀ u, config.tcp.proxy = some u → (u.scheme = "socks5" ∨ u.scheme = "http") ∧
        u.hostStr.isSome = true ∧ u.port.isSome = true) ∧
      validateSelected config isServer = .ok () := by
    rw [validateSelected_iff]
    exact ⟨fun held => ⟨held.proxy, held.tls, held.noise⟩,
      fun held => ⟨held.1, held.2.1, held.2.2⟩⟩
  rw [parts]
  cases proxy : config.tcp.proxy with
  | none =>
    have same : validateTransportConfig config isServer = validateSelected config isServer := by
      unfold validateSelected validateTransportConfig
      simp only [proxy]
    rw [same]
    simp
  | some u =>
    by_cases whole : (u.scheme = "socks5" ∨ u.scheme = "http") ∧
        u.hostStr.isSome = true ∧ u.port.isSome = true
    · have same : validateTransportConfig config isServer = validateSelected config isServer := by
        unfold validateSelected validateTransportConfig
        simp only [proxy, if_pos whole.1, if_pos whole.2]
      rw [same]
      simp [whole]
    · have refused : validateTransportConfig config isServer ≠ .ok () := by
        unfold validateTransportConfig
        simp only [proxy]
        by_cases scheme : u.scheme = "socks5" ∨ u.scheme = "http"
        · have lacks : ¬ (u.hostStr.isSome = true ∧ u.port.isSome = true) :=
            fun held => whole ⟨scheme, held⟩
          rw [if_pos scheme, if_neg lacks]
          exact fun accepted => by cases accepted
        · rw [if_neg scheme]
          exact fun accepted => by cases accepted
      apply iff_of_false refused
      intro held
      exact whole (held.1 u rfl)

/-- Every configuration that `from_str` accepts is filled in. -/
theorem filled_of_fromStr {Text : Type} {tomlFromStr : Text → Except String Config}
    {order : HashOrder} {text : Text} {config : Config}
    (accepted : fromStr tomlFromStr order text = .ok config) : config.Filled := by
  unfold fromStr at accepted
  split at accepted
  · cases accepted
  · next parsed read =>
    obtain ⟨server, client, -⟩ := validateSections_iff.mp accepted
    constructor
    · intro section_ same name service found
      rw [same] at server
      obtain ⟨before, -, checked⟩ := mapM_ok server
      exact filled_of_validateServerConfig checked found
    · intro section_ same name service found
      rw [same] at client
      obtain ⟨before, -, checked⟩ := mapM_ok client
      exact filled_of_validateClientConfig checked found

end Config

end Rathole
