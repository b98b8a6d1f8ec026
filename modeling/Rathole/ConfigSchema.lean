import Rathole.Config
import Rathole.Toml

set_option autoImplicit false

/- How the configuration is read from a TOML value: the structures of the configuration with
the names, defaults and unknown keys of their `serde` attributes. A structure is read from a
table, or from an array that has its fields in their order. -/
namespace Rathole

open Toml (Value Table)

namespace Schema

section Fields

variable {A : Type}

def string : Value → Option String
  | .string s => some s
  | _ => none

def boolean : Value → Option Bool
  | .boolean b => some b
  | _ => none

/-- A `u64`; the parser has an `i64`. -/
def unsigned : Value → Option Nat
  | .integer i => if 0 ≤ i then some i.toNat else none
  | _ => none

/-- The fields of a structure with `deny_unknown_fields`, as a table. In an array, which has no
more elements than there are fields, only fields with a default may be left out, at the end: the
first `least` are there. -/
def fields (names : List String) (least : Nat) : Value → Option Table
  | .table t => if ∀ e ∈ t, e.1 ∈ names then some t else none
  | .array values =>
    if least ≤ values.length ∧ values.length ≤ names.length then some (names.zip values) else none
  | _ => none

/-- The name of a variant, which may also be the one key of a table, with nothing under it. The
reader takes such a table in braces only, which a value does not show. -/
def variant : Value → Option String
  | .string name => some name
  | .table [(name, .table [])] => some name
  | _ => none

def required (t : Table) (key : String) (read : Value → Option A) : Option A :=
  (t.lookup key).bind read

def optional (t : Table) (key : String) (read : Value → Option A) : Option (Option A) :=
  match t.lookup key with
  | none => some none
  | some v => (read v).map some

/-- A field with `serde(default)`. -/
def defaulted (t : Table) (key : String) (default : A) (read : Value → Option A) : Option A :=
  match t.lookup key with
  | none => some default
  | some v => read v

def entries (read : Value → Option A) : Table → Option (HashMap String A)
  | [] => some ∅
  | (key, v) :: rest => do
    let a ← read v
    let m ← entries read rest
    some (m.insert key a)

/-- A `HashMap` with strings for keys. -/
def hashMap (read : Value → Option A) : Value → Option (HashMap String A)
  | .table t => entries read t
  | _ => none

end Fields

def transportType (v : Value) : Option TransportType :=
  match variant v with
  | some "tcp" => some .tcp
  | some "tls" => some .tls
  | some "noise" => some .noise
  | some "websocket" => some .websocket
  | _ => none

def serviceType (v : Value) : Option ServiceType :=
  match variant v with
  | some "tcp" => some .tcp
  | some "udp" => some .udp
  | _ => none

/-- The field `name` is skipped, and so an unknown key. -/
def clientService (v : Value) : Option ClientServiceConfig := do
  let t ← fields ["type", "local_addr", "prefer_ipv6", "token", "nodelay", "retry_interval"] 6 v
  some {
    serviceType := ← defaulted t "type" defaultServiceType serviceType
    name := ""
    localAddr := ← required t "local_addr" string
    preferIpv6 := ← defaulted t "prefer_ipv6" false boolean
    token := ← optional t "token" string
    nodelay := ← optional t "nodelay" boolean
    retryInterval := ← optional t "retry_interval" unsigned }

def serverService (v : Value) : Option ServerServiceConfig := do
  let t ← fields ["type", "bind_addr", "token", "nodelay"] 4 v
  some {
    serviceType := ← defaulted t "type" defaultServiceType serviceType
    name := ""
    bindAddr := ← required t "bind_addr" string
    token := ← optional t "token" string
    nodelay := ← optional t "nodelay" boolean }

def tls (v : Value) : Option TlsConfig := do
  let t ← fields ["hostname", "trusted_root", "pkcs12", "pkcs12_password"] 4 v
  some {
    hostname := ← optional t "hostname" string
    trustedRoot := ← optional t "trusted_root" string
    pkcs12 := ← optional t "pkcs12" string
    pkcs12Password := ← optional t "pkcs12_password" string }

def noise (v : Value) : Option NoiseConfig := do
  let t ← fields ["pattern", "local_private_key", "remote_public_key"] 3 v
  some {
    pattern := ← defaulted t "pattern" defaultNoisePattern string
    localPrivateKey := ← optional t "local_private_key" string
    remotePublicKey := ← optional t "remote_public_key" string }

def websocket (v : Value) : Option WebsocketConfig := do
  let t ← fields ["tls"] 1 v
  some { tls := ← required t "tls" boolean }

section Url

variable (parseUrl : String → Option Url)

def tcp (v : Value) : Option TcpConfig := do
  let t ← fields ["nodelay", "keepalive_secs", "keepalive_interval", "proxy"] 4 v
  some {
    nodelay := ← defaulted t "nodelay" defaultNodelay boolean
    keepaliveSecs := ← defaulted t "keepalive_secs" defaultKeepaliveSecs unsigned
    keepaliveInterval := ← defaulted t "keepalive_interval" defaultKeepaliveInterval unsigned
    proxy := ← optional t "proxy" fun v => (string v).bind parseUrl }

def transport (v : Value) : Option TransportConfig := do
  let t ← fields ["type", "tcp", "tls", "noise", "websocket"] 5 v
  some {
    transportType := ← required t "type" transportType
    tcp := ← defaulted t "tcp" .default (tcp parseUrl)
    tls := ← optional t "tls" tls
    noise := ← optional t "noise" noise
    websocket := ← optional t "websocket" websocket }

def client (v : Value) : Option ClientConfig := do
  let t ← fields ["remote_addr", "default_token", "prefer_ipv6", "services", "transport",
    "heartbeat_timeout", "retry_interval"] 4 v
  some {
    remoteAddr := ← required t "remote_addr" string
    defaultToken := ← optional t "default_token" string
    preferIpv6 := ← optional t "prefer_ipv6" boolean
    services := ← required t "services" (hashMap clientService)
    transport := ← defaulted t "transport" .default (transport parseUrl)
    heartbeatTimeout := ← defaulted t "heartbeat_timeout" defaultHeartbeatTimeout unsigned
    retryInterval := ← defaulted t "retry_interval" defaultClientRetryInterval unsigned }

def server (v : Value) : Option ServerConfig := do
  let t ← fields ["bind_addr", "default_token", "services", "transport", "heartbeat_interval"] 3 v
  some {
    bindAddr := ← required t "bind_addr" string
    defaultToken := ← optional t "default_token" string
    services := ← required t "services" (hashMap serverService)
    transport := ← defaulted t "transport" .default (transport parseUrl)
    heartbeatInterval := ← defaulted t "heartbeat_interval" defaultHeartbeatInterval unsigned }

/-- The text itself is a table. -/
def config (t : Table) : Option Config := do
  let t ← fields ["server", "client"] 2 (.table t)
  some {
    server := ← optional t "server" (server parseUrl)
    client := ← optional t "client" (client parseUrl) }

/-- `toml::from_str`. -/
def tomlFromStr {Text : Type} (crate : Toml.Crate Text) (text : Text) : Except String Config := do
  let t ← crate.read text
  match config parseUrl t with
  | some config => .ok config
  | none => .error (crate.mismatch text)

end Url

section Fields

variable {A : Type} {t t' : Table} {key : String} {read : Value → Option A}

theorem fields_table {names : List String} {least : Nat} {u : Table} :
    fields names least (.table t) = some u ↔ u = t ∧ ∀ e ∈ t, e.1 ∈ names := by
  show (if ∀ e ∈ t, e.1 ∈ names then some t else none) = some u ↔ _
  by_cases allowed : ∀ e ∈ t, e.1 ∈ names
  · rw [if_pos allowed, Option.some.injEq, eq_comm, and_iff_left allowed]
  · rw [if_neg allowed]
    exact iff_of_false (by simp) fun both => allowed both.2

theorem variant_string (name : String) : variant (.string name) = some name := rfl

theorem required_congr (same : t'.lookup key = t.lookup key) :
    required t' key read = required t key read := by
  rw [required, required, same]

theorem optional_congr (same : t'.lookup key = t.lookup key) :
    optional t' key read = optional t key read := by
  rw [optional, optional, same]

theorem defaulted_congr {default : A} (same : t'.lookup key = t.lookup key) :
    defaulted t' key default read = defaulted t key default read := by
  rw [defaulted, defaulted, same]

/-- A map without one of its keys. -/
theorem entries_removeKey {m : HashMap String A} (found : entries read t = some m) (key : String) :
    entries read (Toml.removeKey t key) = some (m.erase key) := by
  induction t generalizing m with
  | nil =>
    cases found
    rfl
  | cons e t ih =>
    rw [entries, Option.bind_eq_bind, Option.bind_eq_some_iff] at found
    obtain ⟨a, here, rest⟩ := found
    rw [Option.bind_eq_bind, Option.bind_eq_some_iff] at rest
    obtain ⟨later, restFound, same⟩ := rest
    cases same
    have below := ih restFound
    rw [Toml.removeKey] at below ⊢
    by_cases gone : e.1 = key
    · rw [List.filter_cons_of_neg (by simpa using gone), below]
      congr 1
      apply Finmap.ext_lookup
      intro other
      rw [lookup_erase_eq, lookup_erase_eq, lookup_insert_eq, gone]
      by_cases met : other = key
      · rw [if_pos met, if_pos met]
      · rw [if_neg met, if_neg met, if_neg met]
    · rw [List.filter_cons_of_pos (by simpa using gone), entries, here, below]
      show some _ = some _
      congr 1
      apply Finmap.ext_lookup
      intro other
      rw [lookup_erase_eq, lookup_insert_eq, lookup_erase_eq, lookup_insert_eq]
      by_cases met : other = key
      · have apart : other ≠ e.1 := fun here => gone (here.symm.trans met)
        rw [if_pos met, if_neg apart, if_pos met]
      · rw [if_neg met, if_neg met]

end Fields

section Sections

variable {parseUrl : String → Option Url} {t : Table}

/-- The fields of a client section. -/
structure ClientRead (parseUrl : String → Option Url) (t : Table) (c : ClientConfig) : Prop where
  known : ∀ e ∈ t, e.1 ∈ ["remote_addr", "default_token", "prefer_ipv6", "services", "transport",
    "heartbeat_timeout", "retry_interval"]
  remoteAddr : required t "remote_addr" string = some c.remoteAddr
  defaultToken : optional t "default_token" string = some c.defaultToken
  preferIpv6 : optional t "prefer_ipv6" boolean = some c.preferIpv6
  services : required t "services" (hashMap clientService) = some c.services
  transport : defaulted t "transport" .default (transport parseUrl) = some c.transport
  heartbeatTimeout : defaulted t "heartbeat_timeout" defaultHeartbeatTimeout unsigned =
    some c.heartbeatTimeout
  retryInterval : defaulted t "retry_interval" defaultClientRetryInterval unsigned =
    some c.retryInterval

theorem client_iff (c : ClientConfig) :
    client parseUrl (.table t) = some c ↔ ClientRead parseUrl t c := by
  constructor
  · intro read
    simp only [client, Option.bind_eq_bind, Option.bind_eq_some_iff, Option.some.injEq] at read
    obtain ⟨u, opened, a, remoteAddr, b, defaultToken, d, preferIpv6, services, found, transport,
      transportRead, timeout, timeoutRead, retry, retryRead, rfl⟩ := read
    obtain ⟨rfl, known⟩ := fields_table.mp opened
    exact ⟨known, remoteAddr, defaultToken, preferIpv6, found, transportRead, timeoutRead,
      retryRead⟩
  · intro read
    rw [client, fields_table.mpr ⟨rfl, read.known⟩, Option.bind_eq_bind, Option.bind_some,
      read.remoteAddr, read.defaultToken, read.preferIpv6, read.services, read.transport,
      read.heartbeatTimeout, read.retryInterval]
    rfl

/-- The fields of a server section. -/
structure ServerRead (parseUrl : String → Option Url) (t : Table) (c : ServerConfig) : Prop where
  known : ∀ e ∈ t, e.1 ∈ ["bind_addr", "default_token", "services", "transport",
    "heartbeat_interval"]
  bindAddr : required t "bind_addr" string = some c.bindAddr
  defaultToken : optional t "default_token" string = some c.defaultToken
  services : required t "services" (hashMap serverService) = some c.services
  transport : defaulted t "transport" .default (transport parseUrl) = some c.transport
  heartbeatInterval : defaulted t "heartbeat_interval" defaultHeartbeatInterval unsigned =
    some c.heartbeatInterval

theorem server_iff (c : ServerConfig) :
    server parseUrl (.table t) = some c ↔ ServerRead parseUrl t c := by
  constructor
  · intro read
    simp only [server, Option.bind_eq_bind, Option.bind_eq_some_iff, Option.some.injEq] at read
    obtain ⟨u, opened, a, bindAddr, b, defaultToken, services, found, transport, transportRead,
      interval, intervalRead, rfl⟩ := read
    obtain ⟨rfl, known⟩ := fields_table.mp opened
    exact ⟨known, bindAddr, defaultToken, found, transportRead, intervalRead⟩
  · intro read
    rw [server, fields_table.mpr ⟨rfl, read.known⟩, Option.bind_eq_bind, Option.bind_some,
      read.bindAddr, read.defaultToken, read.services, read.transport, read.heartbeatInterval]
    rfl

end Sections

end Schema

end Rathole
