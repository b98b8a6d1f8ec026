import Rathole.HashMap
import Rathole.Text

set_option autoImplicit false

namespace Rathole

/-- Masked only in `Debug` output; the contents are the string itself. -/
abbrev MaskedString := String

inductive TransportType
  | tcp | tls | noise | websocket
  deriving DecidableEq

inductive ServiceType
  | tcp | udp
  deriving DecidableEq

structure ClientServiceConfig where
  serviceType : ServiceType
  name : String
  localAddr : String
  preferIpv6 : Bool
  token : Option MaskedString
  nodelay : Option Bool
  retryInterval : Option Nat
  deriving DecidableEq

structure ServerServiceConfig where
  serviceType : ServiceType
  name : String
  bindAddr : String
  token : Option MaskedString
  nodelay : Option Bool
  deriving DecidableEq

structure TlsConfig where
  hostname : Option String
  trustedRoot : Option String
  pkcs12 : Option String
  pkcs12Password : Option MaskedString
  deriving DecidableEq

structure NoiseConfig where
  pattern : String
  localPrivateKey : Option MaskedString
  remotePublicKey : Option String
  deriving DecidableEq

structure WebsocketConfig where
  tls : Bool
  deriving DecidableEq

/-- The parts of a parsed `url::Url` that the program reads, beside its text. -/
structure Url where
  text : String
  scheme : String
  hostStr : Option String
  port : Option Nat
  deriving DecidableEq

structure TcpConfig where
  nodelay : Bool
  keepaliveSecs : Nat
  keepaliveInterval : Nat
  proxy : Option Url
  deriving DecidableEq

structure TransportConfig where
  transportType : TransportType
  tcp : TcpConfig
  tls : Option TlsConfig
  noise : Option NoiseConfig
  websocket : Option WebsocketConfig
  deriving DecidableEq

structure ClientConfig where
  remoteAddr : String
  defaultToken : Option MaskedString
  preferIpv6 : Option Bool
  services : HashMap String ClientServiceConfig
  transport : TransportConfig
  heartbeatTimeout : Nat
  retryInterval : Nat
  deriving DecidableEq

structure ServerConfig where
  bindAddr : String
  defaultToken : Option MaskedString
  services : HashMap String ServerServiceConfig
  transport : TransportConfig
  heartbeatInterval : Nat
  deriving DecidableEq

structure Config where
  server : Option ServerConfig
  client : Option ClientConfig
  deriving DecidableEq

def defaultServiceType : ServiceType := .tcp
def defaultNoisePattern : String := "Noise_NK_25519_ChaChaPoly_BLAKE2s"
def defaultNodelay : Bool := true
def defaultKeepaliveSecs : Nat := 20
def defaultKeepaliveInterval : Nat := 8
def defaultHeartbeatInterval : Nat := 30
def defaultHeartbeatTimeout : Nat := 40
def defaultClientRetryInterval : Nat := 1

def TcpConfig.default : TcpConfig where
  nodelay := defaultNodelay
  keepaliveSecs := defaultKeepaliveSecs
  keepaliveInterval := defaultKeepaliveInterval
  proxy := none

def TransportConfig.default : TransportConfig where
  transportType := .tcp
  tcp := .default
  tls := none
  noise := none
  websocket := none

namespace Config

/-- `Config::validate_transport_config`. -/
def validateTransportConfig (config : TransportConfig) (isServer : Bool) : Except String Unit := do
  match config.tcp.proxy with
  | none => pure ()
  | some u =>
    if u.scheme = "socks5" ∨ u.scheme = "http" then
      if u.hostStr.isSome ∧ u.port.isSome then pure ()
      else throw s!"proxy url `{u.text}` must include a host and a port"
    else throw s!"Unknown proxy scheme: {u.scheme}"
  match config.transportType with
  | .tcp => pure ()
  | .tls =>
    match config.tls with
    | none => throw "Missing TLS configuration"
    | some tls =>
      if isServer ∧ (tls.pkcs12.isNone ∨ tls.pkcs12Password.isNone) then
        throw "Missing `pkcs12` or `pkcs12_password`"
      else pure ()
  | .noise =>
    if config.noise.isNone then throw "missing noise configuration for `noise` transport"
    else pure ()
  | .websocket => pure ()

/-- The token part of both service loops: the service's own token, else the
default of the section; it must be there and not be empty. -/
def resolveToken (name : String) (own default : Option MaskedString) :
    Except String MaskedString :=
  match own.or default with
  | none => .error s!"The token of service {name} is not set"
  | some token =>
    if token.isEmpty then .error s!"the token of service `{name}` is empty" else .ok token

def checkDefaultToken (section_ : String) (default : Option MaskedString) : Except String Unit :=
  match default with
  | some token =>
    if token.isEmpty then .error s!"`{section_}.default_token` must not be empty" else .ok ()
  | none => .ok ()

/-- One turn of the loop over `server.services`; `bindAddrs` is the set built so far. -/
def validateServerService (default : Option MaskedString)
    (bindAddrs : List (String × ServiceType)) (name : String) (s : ServerServiceConfig) :
    Except String ServerServiceConfig := do
  let token ← resolveToken name s.token default
  if (s.bindAddr, s.serviceType) ∈ bindAddrs then
    throw s!"duplicate `bind_addr` `{s.bindAddr}` in `[server.services]` (service `{name}`)"
  pure { s with name := name, token := some token }

def validateServerServices (default : Option MaskedString) :
    List (String × ServiceType) → List (String × ServerServiceConfig) →
    Except String (List (String × ServerServiceConfig))
  | _, [] => pure []
  | bindAddrs, (name, s) :: rest => do
    let valid ← validateServerService default bindAddrs name s
    let others ← validateServerServices default ((s.bindAddr, s.serviceType) :: bindAddrs) rest
    pure ((name, valid) :: others)

/-- `for (name, s) in &mut services` writes every entry back under its own key. -/
def writeBack {V : Type} (services : HashMap String V) (entries : List (String × V)) :
    HashMap String V :=
  entries.foldl (fun m e => m.insert e.1 e.2) services

/-- `Config::validate_server_config`: the configuration as the loop leaves it. -/
def validateServerConfig (order : HashOrder) (server : ServerConfig) :
    Except String ServerConfig := do
  if ((rsplitOnce ':' server.bindAddr).bind fun split => parseU16 split.2) = some 0 then
    throw s!"`server.bind_addr` `{server.bindAddr}` must not use port 0"
  checkDefaultToken "server" server.defaultToken
  let services ← validateServerServices server.defaultToken [] (order.entries server.services)
  validateTransportConfig server.transport true
  pure { server with services := writeBack server.services services }

/-- One turn of the loop over `client.services`. -/
def validateClientService (client : ClientConfig) (name : String) (s : ClientServiceConfig) :
    Except String ClientServiceConfig := do
  let token ← resolveToken name s.token client.defaultToken
  if s.retryInterval = some 0 then
    throw s!"`retry_interval` of service `{name}` must be greater than 0"
  pure { s with
    name := name
    token := some token
    retryInterval := some (s.retryInterval.getD client.retryInterval) }

def validateClientServices (client : ClientConfig) :
    List (String × ClientServiceConfig) → Except String (List (String × ClientServiceConfig))
  | [] => pure []
  | (name, s) :: rest => do
    let valid ← validateClientService client name s
    let others ← validateClientServices client rest
    pure ((name, valid) :: others)

/-- `Config::validate_client_config`. -/
def validateClientConfig (order : HashOrder) (client : ClientConfig) :
    Except String ClientConfig := do
  if client.retryInterval = 0 then
    throw "`client.retry_interval` must be greater than 0"
  checkDefaultToken "client" client.defaultToken
  let services ← validateClientServices client (order.entries client.services)
  validateTransportConfig client.transport false
  pure { client with services := writeBack client.services services }

/-- The part of `Config::from_str` after the TOML parser. -/
def validateSections (order : HashOrder) (config : Config) : Except String Config := do
  let server ← config.server.mapM (validateServerConfig order)
  let client ← config.client.mapM (validateClientConfig order)
  if config.server.isNone ∧ config.client.isNone then
    throw "Neither of `[server]` or `[client]` is defined"
  pure { server := server, client := client }

/-- `Config::from_str`, over the deserializer `toml::from_str`. -/
def fromStr {Text : Type} (tomlFromStr : Text → Except String Config) (order : HashOrder)
    (s : Text) : Except String Config :=
  match tomlFromStr s with
  | .error e => .error s!"Failed to parse the config: {e}"
  | .ok config => validateSections order config

end Config

end Rathole
