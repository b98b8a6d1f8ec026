import Rathole.ConfigAccepted

set_option autoImplicit false

/- The transports that a configuration selects: what their constructors ask of it, and what a
server asks of them when a connection comes in. -/
namespace Rathole

/-- Why a transport is not built, or does not serve a connection. -/
inductive TransportFault
  /-- A section or a field of the configuration is not there. -/
  | absent (message : String)
  /-- A file or a key does not hold what it should. -/
  | contents (message : String)
  deriving DecidableEq

section Faults

variable {A : Type}

def orAbsent (x : Option A) (message : String) : Except TransportFault A :=
  match x with
  | some a => .ok a
  | none => .error (.absent message)

def orContents (x : Except String A) : Except TransportFault A := x.mapError .contents

/-- `with_context`. -/
def orContext (x : Except String A) (context : String) : Except TransportFault A :=
  x.mapError fun e => .contents s!"{context}: {e}"

end Faults

structure Keepalive where
  keepaliveSecs : Nat
  keepaliveInterval : Nat

structure SocketOpts where
  nodelay : Option Bool
  keepalive : Option Keepalive

def SocketOpts.fromCfg (cfg : TcpConfig) : SocketOpts where
  nodelay := some cfg.nodelay
  keepalive := some ⟨cfg.keepaliveSecs, cfg.keepaliveInterval⟩

structure TcpTransport where
  socketOpts : SocketOpts
  cfg : TcpConfig

def TcpTransport.new (config : TransportConfig) : Except TransportFault TcpTransport :=
  .ok ⟨.fromCfg config.tcp, config.tcp⟩

section Tls

variable (Connector Acceptor : Type)

/-- The crate `native_tls`, with the files that are read for it. -/
structure NativeTls where
  Certificate : Type
  Identity : Type
  readToString : String → Except String String
  read : String → Except String (List UInt8)
  fromPem : String → Except String Certificate
  connector : Option Certificate → Except String Connector
  fromPkcs12 : List UInt8 → MaskedString → Except String Identity
  acceptor : Identity → Except String Acceptor

/-- The crates `rustls` and `p12`, with the files that are read for them. `certs` is the bundle in
a file, and `add` says whether a certificate is trusted. -/
structure Rustls where
  Certificate : Type
  Key : Type
  Pfx : Type
  read : String → Except String (List UInt8)
  certs : String → Except String (List Certificate)
  nativeCerts : Except String (List Certificate)
  add : Certificate → Except String Unit
  connector : List Certificate → Connector
  parse : List UInt8 → Except String Pfx
  certBags : Pfx → MaskedString → Except String (List Certificate)
  keyBags : Pfx → MaskedString → Except String (List Key)
  acceptor : List Certificate → Key → Except String Acceptor

/-- The two features, of which a binary has one. -/
inductive TlsFeature
  | nativeTls | rustls
  deriving DecidableEq

def TlsFeature.Crate : TlsFeature → Type 1
  | nativeTls => NativeTls Connector Acceptor
  | rustls => Rustls Connector Acceptor

structure TlsTransport where
  tcp : TcpTransport
  config : TlsConfig
  connector : Option Connector
  tlsAcceptor : Option Acceptor

variable {Connector Acceptor}

namespace NativeTls

variable (crate : NativeTls Connector Acceptor)

def loadConnector (config : TlsConfig) : Except TransportFault Connector :=
  match config.trustedRoot with
  | some path => do
    let s ← orContext (crate.readToString path) "Failed to read the `tls.trusted_root`"
    let cert ← orContext (crate.fromPem s) "Failed to read certificate from `tls.trusted_root`"
    orContents (crate.connector (some cert))
  | none => orContents (crate.connector none)

def loadAcceptor (config : TlsConfig) : Except TransportFault (Option Acceptor) :=
  match config.pkcs12 with
  | some path => do
    let password ← orAbsent config.pkcs12Password "Missing `tls.pkcs12_password`"
    let bytes ← orContents (crate.read path)
    let ident ← orContext (crate.fromPkcs12 bytes password) "Failed to create identity"
    let acceptor ← orContext (crate.acceptor ident) "Failed to create the tls acceptor"
    .ok (some acceptor)
  | none => .ok none

/-- `TlsTransport::new` of `native_tls.rs`. -/
def new (config : TransportConfig) : Except TransportFault (TlsTransport Connector Acceptor) := do
  let tcp ← TcpTransport.new config
  let config ← orAbsent config.tls "Missing tls config"
  let connector ← crate.loadConnector config
  let tlsAcceptor ← crate.loadAcceptor config
  .ok ⟨tcp, config, some connector, tlsAcceptor⟩

end NativeTls

namespace Rustls

variable (crate : Rustls Connector Acceptor)

def loadServerConfig (config : TlsConfig) : Except TransportFault (Option Acceptor) :=
  match config.pkcs12 with
  | some path => do
    let buf ← orContext (crate.read path) s!"Failed to read `tls.pkcs12` {path}"
    let pfx ← orContents (crate.parse buf)
    let pass ← orAbsent config.pkcs12Password "Missing `tls.pkcs12_password`"
    let certs ← orContents (crate.certBags pfx pass)
    let keys ← orContents (crate.keyBags pfx pass)
    let key ← orContents (keys.head?.elim
      (.error s!"No private key found in `tls.pkcs12` {path}") .ok)
    let acceptor ← orContents (crate.acceptor certs key)
    .ok (some acceptor)
  | none => .ok none

def loadRoots (config : TlsConfig) : Except TransportFault (List crate.Certificate) :=
  match config.trustedRoot with
  | some path => do
    let certs ← orContext (crate.certs path) s!"Failed to open `tls.trusted_root` {path}"
    certs.forM fun cert => orContext (crate.add cert) s!"Failed to trust a certificate in {path}"
    .ok certs
  | none => do
    let certs ← orContext crate.nativeCerts "Failed to load native certs"
    certs.forM fun cert =>
      orContext (crate.add cert) "Failed to trust a native root certificate"
    .ok certs

def loadClientConfig (config : TlsConfig) : Except TransportFault Connector := do
  let certs ← crate.loadRoots config
  if certs.isEmpty then
    .error (.contents "No root certificate available to verify the server")
  else .ok (crate.connector certs)

/-- `TlsTransport::new` of `rustls.rs`. A server alone needs no connector. -/
def new (config : TransportConfig) : Except TransportFault (TlsTransport Connector Acceptor) := do
  let tcp ← TcpTransport.new config
  let config ← orAbsent config.tls "Missing tls config"
  let connector ← (if config.trustedRoot.isNone ∧ config.pkcs12.isSome then .ok none
    else (crate.loadClientConfig config).map some)
  let tlsAcceptor ← crate.loadServerConfig config
  .ok ⟨tcp, config, connector, tlsAcceptor⟩

end Rustls

namespace TlsTransport

def new {feature : TlsFeature} (crate : feature.Crate Connector Acceptor)
    (config : TransportConfig) : Except TransportFault (TlsTransport Connector Acceptor) :=
  match feature, crate with
  | .nativeTls, crate => NativeTls.new crate config
  | .rustls, crate => Rustls.new crate config

/-- The acceptor that a handshake runs. -/
def handshake (t : TlsTransport Connector Acceptor) : Except TransportFault Acceptor :=
  orAbsent t.tlsAcceptor "Missing `tls.pkcs12` for running as a server"

end TlsTransport

end Tls

section Noise

/-- The name of the handshake in a pattern such as `Noise_XX_25519_ChaChaPoly_BLAKE2s`, with
its modifiers. -/
def handshakeName (pattern : String) : List Char := (pattern.toList.splitOn '_').getD 1 []

/-- `K`, `KN`, `KK`, `KX` and their deferred forms: the responder knows the static key of the
initiator beforehand. -/
def knowsInitiator (pattern : String) : Bool := (handshakeName pattern).head? = some 'K'

/-- A modifier `psk0`, `psk1` and so on: the handshake mixes in a key that both sides share. -/
def sharesKey (pattern : String) : Bool := ['p', 's', 'k'] <:+: handshakeName pattern

/-- `snow::Error` of a builder that has its own key. -/
inductive SnowError
  | remotePublicKey
  | other (message : String)
  deriving DecidableEq

def SnowError.fault : SnowError → TransportFault
  | remotePublicKey => .absent "prerequisite error: RemotePublicKey"
  | other message => .contents message

/-- The crates `snowstorm` and `base64`. `buildResponder` is given the parameters of the builder,
its own key and that of the peer, and `wantsPsk` says whether the handshake comes to a shared key
that was not given to the builder. -/
structure Snow (Params Responder : Type) where
  parse : String → Except String Params
  decode : String → Except String (List UInt8)
  generateKeypair : Params → Except String (List UInt8)
  buildResponder : Params → List UInt8 → Option (List UInt8) → Except SnowError Responder
  wantsPsk : Responder → Bool
  remotePublicKey : ∀ pattern params own remote, parse pattern = .ok params →
    (buildResponder params own remote = .error .remotePublicKey ↔
      remote = none ∧ knowsInitiator pattern = true)
  psk : ∀ pattern params own remote responder, parse pattern = .ok params →
    buildResponder params own remote = .ok responder → wantsPsk responder = sharesKey pattern

structure NoiseTransport (Params : Type) where
  tcp : TcpTransport
  config : NoiseConfig
  params : Params
  localPrivateKey : List UInt8
  remotePublicKey : Option (List UInt8)

namespace NoiseTransport

variable {Params Responder : Type} (snow : Snow Params Responder)

def remoteKey (config : NoiseConfig) : Except TransportFault (Option (List UInt8)) :=
  match config.remotePublicKey with
  | some x => (orContext (snow.decode x) "Failed to decode remote_public_key").map some
  | none => .ok none

/-- The key of the configuration, a fresh one when there is none. -/
def localKey (builder : Params) (config : NoiseConfig) :
    Except TransportFault (List UInt8) :=
  match config.localPrivateKey with
  | some x => orContext (snow.decode x) "Failed to decode local_private_key"
  | none => orContents (snow.generateKeypair builder)

def new (config : TransportConfig) : Except TransportFault (NoiseTransport Params) := do
  let tcp ← TcpTransport.new config
  let config ← orAbsent config.noise "Missing noise config"
  let builder ← orContents (snow.parse config.pattern)
  let remotePublicKey ← remoteKey snow config
  let localPrivateKey ← localKey snow builder config
  let params ← orContents (snow.parse config.pattern)
  .ok ⟨tcp, config, params, localPrivateKey, remotePublicKey⟩

/-- The responder of a handshake, which finds the keys that it asks for. -/
def handshake (t : NoiseTransport Params) : Except TransportFault Responder := do
  let responder ←
    (snow.buildResponder t.params t.localPrivateKey t.remotePublicKey).mapError SnowError.fault
  if snow.wantsPsk responder then
    .error (.absent "Failed to do noise handshake: state error: MissingPsk")
  else .ok responder

end NoiseTransport

end Noise

section Websocket

variable {Connector Acceptor : Type} {feature : TlsFeature}

inductive SubTransport (Connector Acceptor : Type)
  | secure (t : TlsTransport Connector Acceptor)
  | insecure (t : TcpTransport)

/-- The limits of `WebSocketConfig`, in bytes. -/
structure WebsocketLimits where
  writeBufferSize : Nat
  maxMessageSize : Option Nat
  maxFrameSize : Option Nat

def WebsocketLimits.capped : WebsocketLimits := ⟨0, some (1 <<< 20), some (1 <<< 20)⟩

structure WebsocketTransport (Connector Acceptor : Type) where
  sub : SubTransport Connector Acceptor
  conf : WebsocketLimits

def WebsocketTransport.new (crate : feature.Crate Connector Acceptor) (config : TransportConfig) :
    Except TransportFault (WebsocketTransport Connector Acceptor) := do
  let wsconfig ← orAbsent config.websocket "Missing websocket config"
  let sub ← (if wsconfig.tls then (TlsTransport.new crate config).map SubTransport.secure
    else (TcpTransport.new config).map SubTransport.insecure)
  .ok ⟨sub, .capped⟩

def WebsocketTransport.handshake (t : WebsocketTransport Connector Acceptor) :
    Except TransportFault Unit :=
  match t.sub with
  | .secure t => t.handshake.map fun _ => ()
  | .insecure _ => .ok ()

end Websocket

section Selected

variable {Connector Acceptor Params Responder : Type} {feature : TlsFeature}

/-- The transport that `run_server` or `run_client` runs. -/
inductive SelectedTransport (Connector Acceptor Params : Type)
  | tcp (t : TcpTransport)
  | tls (t : TlsTransport Connector Acceptor)
  | noise (t : NoiseTransport Params)
  | websocket (t : WebsocketTransport Connector Acceptor)

namespace SelectedTransport

def new (crate : feature.Crate Connector Acceptor) (snow : Snow Params Responder)
    (config : TransportConfig) :
    Except TransportFault (SelectedTransport Connector Acceptor Params) :=
  match config.transportType with
  | .tcp => (TcpTransport.new config).map tcp
  | .tls => (TlsTransport.new crate config).map tls
  | .noise => (NoiseTransport.new snow config).map noise
  | .websocket => (WebsocketTransport.new crate config).map websocket

/-- What a handshake asks of the transport. -/
def handshake (snow : Snow Params Responder) :
    SelectedTransport Connector Acceptor Params → Except TransportFault Unit
  | tcp _ => .ok ()
  | noise t => (t.handshake snow).map fun _ => ()
  | tls t => t.handshake.map fun _ => ()
  | websocket t => t.handshake

end SelectedTransport

end Selected

def TransportFault.isAbsent : TransportFault → Bool
  | absent _ => true
  | contents _ => false

/-- Nothing is missing for this. -/
def NotAbsent {A : Type} (x : Except TransportFault A) : Prop :=
  ∀ fault, x = .error fault → fault.isAbsent = false

/-- The selected transport is not refused for want of a section or a field, and the one that a
server builds lacks nothing for a handshake, whatever the files and the keys hold. -/
def TransportMatches (feature : TlsFeature) (config : TransportConfig) (isServer : Bool) : Prop :=
  ∀ (Connector Acceptor Params Responder : Type) (crate : feature.Crate Connector Acceptor)
    (snow : Snow Params Responder), NotAbsent (SelectedTransport.new crate snow config) ∧
      (isServer = true → ∀ t, SelectedTransport.new crate snow config = .ok t →
        NotAbsent (t.handshake snow))

/-- A certificate comes with its password. -/
def TlsConfig.Paired (tls : TlsConfig) : Prop :=
  tls.pkcs12.isSome = true → tls.pkcs12Password.isSome = true

/-- A responder gets the keys that its pattern asks for. There is no field for a shared key. -/
def NoiseConfig.Keyed (noise : NoiseConfig) : Prop :=
  (knowsInitiator noise.pattern = true → noise.remotePublicKey.isSome = true) ∧
    sharesKey noise.pattern = false

/-- What the selected transport reads of the configuration is there. -/
def TransportConfig.Provides (config : TransportConfig) (isServer : Bool) : Prop :=
  match config.transportType with
  | .tcp => True
  | .noise => isServer = true → ∀ noise, config.noise = some noise → noise.Keyed
  | .tls => ∀ tls, config.tls = some tls → tls.Paired
  | .websocket => ∃ websocket, config.websocket = some websocket ∧
      (websocket.tls = true → ∃ tls, config.tls = some tls ∧ tls.Paired ∧
        (isServer = true → tls.pkcs12.isSome = true))

section NotAbsent

variable {A B : Type} {x : Except TransportFault A}

theorem notAbsent_ok (a : A) : NotAbsent (.ok a : Except TransportFault A) := by
  intro fault failed
  cases failed

theorem NotAbsent.bind {f : A → Except TransportFault B} (first : NotAbsent x)
    (next : ∀ a, x = .ok a → NotAbsent (f a)) : NotAbsent (x >>= f) := by
  cases x with
  | error fault =>
    intro other failed
    cases failed
    exact first fault rfl
  | ok a => exact next a rfl

theorem NotAbsent.map (first : NotAbsent x) (f : A → B) : NotAbsent (x.map f) := by
  cases x with
  | error fault =>
    intro other failed
    cases failed
    exact first fault rfl
  | ok a => exact notAbsent_ok (f a)

theorem notAbsent_contents (x : Except String A) : NotAbsent (orContents x) := by
  intro fault failed
  cases x with
  | error message =>
    cases failed
    rfl
  | ok a => cases failed

theorem notAbsent_context (x : Except String A) (context : String) :
    NotAbsent (orContext x context) := by
  intro fault failed
  cases x with
  | error message =>
    cases failed
    rfl
  | ok a => cases failed

theorem notAbsent_orAbsent {o : Option A} {message : String} :
    NotAbsent (orAbsent o message) ↔ o.isSome = true := by
  cases o with
  | none =>
    apply iff_of_false
    · intro present
      cases present _ rfl
    · exact Bool.false_ne_true
  | some a => exact iff_of_true (notAbsent_ok a) rfl

theorem notAbsent_forM {C : Type} (xs : List C) {f : C → Except TransportFault Unit}
    (each : ∀ x, NotAbsent (f x)) : NotAbsent (xs.forM f) := by
  induction xs with
  | nil => exact notAbsent_ok ()
  | cons x xs ih => exact (each x).bind fun _ _ => ih

end NotAbsent

theorem fault_bind {A B : Type} {x : Except TransportFault A} {f : A → Except TransportFault B}
    {b : B} (made : x >>= f = .ok b) : ∃ a, x = .ok a ∧ f a = .ok b := by
  cases x with
  | error fault => cases made
  | ok a => exact ⟨a, rfl, made⟩

theorem map_ok_iff {A B : Type} {x : Except TransportFault A} {f : A → B} {b : B} :
    x.map f = .ok b ↔ ∃ a, x = .ok a ∧ f a = b := by
  cases x with
  | error fault => simp [Except.map]
  | ok a => simp [Except.map]

theorem orAbsent_ok {A : Type} {o : Option A} {message : String} {a : A}
    (made : orAbsent o message = .ok a) : o = some a := by
  cases o with
  | none => cases made
  | some b =>
    cases made
    rfl

section Tls

variable {Connector Acceptor : Type} {config : TransportConfig} {tls : TlsConfig}

namespace NativeTls

variable (crate : NativeTls Connector Acceptor)

theorem notAbsent_connector (tls : TlsConfig) : NotAbsent (crate.loadConnector tls) := by
  unfold loadConnector
  split
  · apply (notAbsent_context _ _).bind
    intro s _
    apply (notAbsent_context _ _).bind
    intro cert _
    exact notAbsent_contents _
  · exact notAbsent_contents _

theorem notAbsent_acceptor (paired : tls.Paired) : NotAbsent (crate.loadAcceptor tls) := by
  unfold loadAcceptor
  split
  · next path held =>
    apply (notAbsent_orAbsent.mpr (paired (by rw [held]; rfl))).bind
    intro password _
    apply (notAbsent_contents _).bind
    intro bytes _
    apply (notAbsent_context _ _).bind
    intro ident _
    apply (notAbsent_context _ _).bind
    intro acceptor _
    exact notAbsent_ok _
  · exact notAbsent_ok _

theorem acceptor_isSome {acceptor : Option Acceptor}
    (made : crate.loadAcceptor tls = .ok acceptor) :
    acceptor.isSome = tls.pkcs12.isSome := by
  unfold loadAcceptor at made
  split at made
  · next path held =>
    obtain ⟨password, -, made⟩ := fault_bind made
    obtain ⟨bytes, -, made⟩ := fault_bind made
    obtain ⟨ident, -, made⟩ := fault_bind made
    obtain ⟨acceptor, -, made⟩ := fault_bind made
    cases made
    rw [held]
    rfl
  · next absent =>
    cases made
    rw [absent]
    rfl

theorem notAbsent_new (held : config.tls = some tls) (paired : tls.Paired) :
    NotAbsent (crate.new config) := by
  apply (notAbsent_ok _).bind
  intro tcp _
  rw [held]
  apply (notAbsent_ok tls).bind
  intro own same
  cases same
  apply (crate.notAbsent_connector tls).bind
  intro connector _
  apply (crate.notAbsent_acceptor paired).bind
  intro acceptor _
  exact notAbsent_ok _

theorem acceptor_of_new {t : TlsTransport Connector Acceptor} (held : config.tls = some tls)
    (made : crate.new config = .ok t) : t.tlsAcceptor.isSome = tls.pkcs12.isSome := by
  obtain ⟨tcp, -, made⟩ := fault_bind made
  obtain ⟨own, found, made⟩ := fault_bind made
  cases held.symm.trans (orAbsent_ok found)
  obtain ⟨connector, -, made⟩ := fault_bind made
  obtain ⟨acceptor, loaded, made⟩ := fault_bind made
  cases made
  exact crate.acceptor_isSome loaded

end NativeTls

namespace Rustls

variable (crate : Rustls Connector Acceptor)

theorem notAbsent_server (paired : tls.Paired) : NotAbsent (crate.loadServerConfig tls) := by
  unfold loadServerConfig
  split
  · next path held =>
    apply (notAbsent_context _ _).bind
    intro buf _
    apply (notAbsent_contents _).bind
    intro pfx _
    apply (notAbsent_orAbsent.mpr (paired (by rw [held]; rfl))).bind
    intro pass _
    apply (notAbsent_contents _).bind
    intro certs _
    apply (notAbsent_contents _).bind
    intro keys _
    apply (notAbsent_contents _).bind
    intro key _
    apply (notAbsent_contents _).bind
    intro acceptor _
    exact notAbsent_ok _
  · exact notAbsent_ok _

theorem server_isSome {acceptor : Option Acceptor}
    (made : crate.loadServerConfig tls = .ok acceptor) : acceptor.isSome = tls.pkcs12.isSome := by
  unfold loadServerConfig at made
  split at made
  · next path held =>
    obtain ⟨buf, -, made⟩ := fault_bind made
    obtain ⟨pfx, -, made⟩ := fault_bind made
    obtain ⟨pass, -, made⟩ := fault_bind made
    obtain ⟨certs, -, made⟩ := fault_bind made
    obtain ⟨keys, -, made⟩ := fault_bind made
    obtain ⟨key, -, made⟩ := fault_bind made
    obtain ⟨acceptor, -, made⟩ := fault_bind made
    cases made
    rw [held]
    rfl
  · next absent =>
    cases made
    rw [absent]
    rfl

theorem notAbsent_client (tls : TlsConfig) : NotAbsent (crate.loadClientConfig tls) := by
  have roots : NotAbsent (crate.loadRoots tls) := by
    unfold loadRoots
    split
    · apply (notAbsent_context _ _).bind
      intro certs _
      apply (notAbsent_forM certs fun _ => notAbsent_context _ _).bind
      intro _ _
      exact notAbsent_ok _
    · apply (notAbsent_context _ _).bind
      intro certs _
      apply (notAbsent_forM certs fun _ => notAbsent_context _ _).bind
      intro _ _
      exact notAbsent_ok _
  apply roots.bind
  intro certs _ fault failed
  split at failed
  · cases failed
    rfl
  · cases failed

theorem notAbsent_new (held : config.tls = some tls) (paired : tls.Paired) :
    NotAbsent (crate.new config) := by
  apply (notAbsent_ok _).bind
  intro tcp _
  rw [held]
  apply (notAbsent_ok tls).bind
  intro own same
  cases same
  have connector : NotAbsent (if tls.trustedRoot.isNone ∧ tls.pkcs12.isSome then .ok none
      else (crate.loadClientConfig tls).map some) := by
    split
    · exact notAbsent_ok _
    · exact (crate.notAbsent_client tls).map some
  apply connector.bind
  intro connector _
  apply (crate.notAbsent_server paired).bind
  intro acceptor _
  exact notAbsent_ok _

theorem acceptor_of_new {t : TlsTransport Connector Acceptor} (held : config.tls = some tls)
    (made : crate.new config = .ok t) : t.tlsAcceptor.isSome = tls.pkcs12.isSome := by
  obtain ⟨tcp, -, made⟩ := fault_bind made
  obtain ⟨own, found, made⟩ := fault_bind made
  cases held.symm.trans (orAbsent_ok found)
  obtain ⟨connector, -, made⟩ := fault_bind made
  obtain ⟨acceptor, loaded, made⟩ := fault_bind made
  cases made
  exact crate.server_isSome loaded

end Rustls

namespace TlsTransport

variable {feature : TlsFeature} (crate : feature.Crate Connector Acceptor)

theorem notAbsent_new (held : config.tls = some tls) (paired : tls.Paired) :
    NotAbsent (TlsTransport.new crate config) := by
  cases feature with
  | nativeTls => exact NativeTls.notAbsent_new crate held paired
  | rustls => exact Rustls.notAbsent_new crate held paired

theorem acceptor_of_new {t : TlsTransport Connector Acceptor} (held : config.tls = some tls)
    (made : TlsTransport.new crate config = .ok t) :
    t.tlsAcceptor.isSome = tls.pkcs12.isSome := by
  cases feature with
  | nativeTls => exact NativeTls.acceptor_of_new crate held made
  | rustls => exact Rustls.acceptor_of_new crate held made

theorem notAbsent_handshake {t : TlsTransport Connector Acceptor} :
    NotAbsent t.handshake ↔ t.tlsAcceptor.isSome = true := notAbsent_orAbsent

end TlsTransport

end Tls

section Noise

variable {Params Responder : Type} (snow : Snow Params Responder) {config : TransportConfig}

theorem notAbsent_noise
    (held : config.noise.isSome = true) : NotAbsent (NoiseTransport.new snow config) := by
  apply (notAbsent_ok _).bind
  intro tcp _
  apply (notAbsent_orAbsent.mpr held).bind
  intro noise _
  apply (notAbsent_contents _).bind
  intro builder _
  have remote : NotAbsent (NoiseTransport.remoteKey snow noise) := by
    unfold NoiseTransport.remoteKey
    split
    · exact (notAbsent_context _ _).map some
    · exact notAbsent_ok _
  apply remote.bind
  intro remotePublicKey _
  have own : NotAbsent (NoiseTransport.localKey snow builder noise) := by
    unfold NoiseTransport.localKey
    split
    · exact notAbsent_context _ _
    · exact notAbsent_contents _
  apply own.bind
  intro localPrivateKey _
  apply (notAbsent_contents _).bind
  intro params _
  exact notAbsent_ok _

theorem orContents_ok {A : Type} {x : Except String A} {a : A} (made : orContents x = .ok a) :
    x = .ok a := by
  cases x with
  | error message => cases made
  | ok b =>
    cases made
    rfl

theorem remoteKey_isSome {noise : NoiseConfig} {key : Option (List UInt8)}
    (made : NoiseTransport.remoteKey snow noise = .ok key) :
    key.isSome = noise.remotePublicKey.isSome := by
  unfold NoiseTransport.remoteKey at made
  split at made
  · next x held =>
    obtain ⟨bytes, -, rfl⟩ := map_ok_iff.mp made
    rw [held]
    rfl
  · next absent =>
    cases made
    rw [absent]
    rfl

/-- A noise transport has the pattern of its section, and a key of the peer if that has one. -/
theorem noise_of_new {noise : NoiseConfig} {t : NoiseTransport Params}
    (held : config.noise = some noise) (made : NoiseTransport.new snow config = .ok t) :
    snow.parse noise.pattern = .ok t.params ∧
      t.remotePublicKey.isSome = noise.remotePublicKey.isSome := by
  obtain ⟨tcp, -, made⟩ := fault_bind made
  obtain ⟨own, found, made⟩ := fault_bind made
  cases held.symm.trans (orAbsent_ok found)
  obtain ⟨builder, -, made⟩ := fault_bind made
  obtain ⟨remote, decoded, made⟩ := fault_bind made
  obtain ⟨key, -, made⟩ := fault_bind made
  obtain ⟨params, parsed, made⟩ := fault_bind made
  cases made
  exact ⟨orContents_ok parsed, remoteKey_isSome snow decoded⟩

theorem notAbsent_noise_handshake {noise : NoiseConfig} {t : NoiseTransport Params}
    (held : config.noise = some noise) (keyed : noise.Keyed)
    (made : NoiseTransport.new snow config = .ok t) : NotAbsent (t.handshake snow) := by
  obtain ⟨parsed, remote⟩ := noise_of_new snow held made
  unfold NoiseTransport.handshake
  cases built : snow.buildResponder t.params t.localPrivateKey t.remotePublicKey with
  | ok responder =>
    have unshared := (snow.psk _ _ _ _ _ parsed built).trans keyed.2
    apply (notAbsent_ok responder).bind
    intro own same
    cases same
    rw [if_neg (by rw [unshared]; exact Bool.false_ne_true)]
    exact notAbsent_ok responder
  | error e =>
    intro fault failed
    cases failed
    cases e with
    | other message => rfl
    | remotePublicKey =>
      obtain ⟨absent, knows⟩ := (snow.remotePublicKey _ _ _ _ parsed).mp built
      have given := remote.trans (keyed.1 knows)
      rw [absent] at given
      cases given

end Noise

section Accepted

variable {Connector Acceptor Params Responder : Type} {feature : TlsFeature}
  {config : TransportConfig}
  {isServer : Bool} {tls : TlsConfig} {websocket : WebsocketConfig}

theorem websocket_new_secure (crate : feature.Crate Connector Acceptor)
    (held : config.websocket = some websocket) (secure : websocket.tls = true) :
    WebsocketTransport.new crate config =
      (TlsTransport.new crate config).map fun t => ⟨.secure t, .capped⟩ := by
  unfold WebsocketTransport.new
  rw [held]
  simp only [orAbsent, secure, if_true, bind, Except.bind]
  cases TlsTransport.new crate config <;> rfl

theorem websocket_new_insecure (crate : feature.Crate Connector Acceptor)
    (held : config.websocket = some websocket) (insecure : websocket.tls = false) :
    WebsocketTransport.new crate config =
      .ok ⟨.insecure ⟨.fromCfg config.tcp, config.tcp⟩, .capped⟩ := by
  unfold WebsocketTransport.new
  rw [held]
  simp only [orAbsent, insecure, bind, Except.bind]
  rfl

/-- A transport over tls is built with an acceptor when there is a certificate. -/
theorem notAbsent_tls (crate : feature.Crate Connector Acceptor) (held : config.tls = some tls)
    (paired : tls.Paired) (certified : isServer = true → tls.pkcs12.isSome = true) :
    NotAbsent (TlsTransport.new crate config) ∧
      (isServer = true → ∀ t, TlsTransport.new crate config = .ok t → NotAbsent t.handshake) := by
  refine ⟨TlsTransport.notAbsent_new crate held paired, ?_⟩
  intro server t made
  rw [TlsTransport.notAbsent_handshake, TlsTransport.acceptor_of_new crate held made]
  exact certified server

theorem matches_of_provides (accepted : Config.TransportAccepted config isServer)
    (provides : config.Provides isServer) : TransportMatches feature config isServer := by
  intro Connector Acceptor Params Responder crate snow
  unfold SelectedTransport.new
  unfold TransportConfig.Provides at provides
  cases type : config.transportType with
  | tcp =>
    refine ⟨notAbsent_ok _, ?_⟩
    intro _ t made
    cases made
    exact notAbsent_ok ()
  | noise =>
    rw [type] at provides
    dsimp only
    have there := accepted.noise type
    refine ⟨(notAbsent_noise snow there).map _, ?_⟩
    intro server whole made
    obtain ⟨t, inner, same⟩ := map_ok_iff.mp made
    obtain ⟨noise, held⟩ := Option.isSome_iff_exists.mp there
    rw [← same]
    exact (notAbsent_noise_handshake snow held (provides server noise held) inner).map _
  | tls =>
    rw [type] at provides
    dsimp only
    obtain ⟨tls, held, certified⟩ := accepted.tls type
    obtain ⟨built, greets⟩ := notAbsent_tls crate held (provides tls held)
      fun server => (certified server).1
    refine ⟨built.map _, ?_⟩
    intro server whole made
    obtain ⟨t, inner, same⟩ := map_ok_iff.mp made
    rw [← same]
    exact (greets server t inner).map _
  | websocket =>
    rw [type] at provides
    dsimp only
    obtain ⟨websocket, held, needs⟩ := provides
    cases secure : websocket.tls with
    | false =>
      rw [websocket_new_insecure crate held secure]
      refine ⟨notAbsent_ok _, ?_⟩
      intro _ t made
      cases made
      exact notAbsent_ok ()
    | true =>
      obtain ⟨tls, there, paired, certified⟩ := needs secure
      obtain ⟨built, greets⟩ := notAbsent_tls crate there paired certified
      rw [websocket_new_secure crate held secure]
      refine ⟨(built.map _).map _, ?_⟩
      intro server whole made
      obtain ⟨outer, wrapped, same⟩ := map_ok_iff.mp made
      obtain ⟨t, inner, same'⟩ := map_ok_iff.mp wrapped
      rw [← same, ← same']
      exact (greets server t inner).map _

/-- Crates for which every file and every key is as it should be. -/
def NativeTls.lenient : NativeTls Unit Unit where
  Certificate := Unit
  Identity := Unit
  readToString _ := .ok ""
  read _ := .ok []
  fromPem _ := .ok ()
  connector _ := .ok ()
  fromPkcs12 _ _ := .ok ()
  acceptor _ := .ok ()

def Rustls.lenient : Rustls Unit Unit where
  Certificate := Unit
  Key := Unit
  Pfx := Unit
  read _ := .ok []
  certs _ := .ok [()]
  nativeCerts := .ok [()]
  add _ := .ok ()
  connector _ := ()
  parse _ := .ok ()
  certBags _ _ := .ok []
  keyBags _ _ := .ok [()]
  acceptor _ _ := .ok ()

def TlsFeature.lenient : (feature : TlsFeature) → feature.Crate Unit Unit
  | nativeTls => NativeTls.lenient
  | rustls => Rustls.lenient

def Snow.lenient : Snow String String where
  parse := .ok
  decode _ := .ok []
  generateKeypair _ := .ok []
  buildResponder pattern _ remote :=
    if remote = none ∧ knowsInitiator pattern = true then .error .remotePublicKey else .ok pattern
  wantsPsk := sharesKey
  remotePublicKey := by
    rintro pattern _ own remote ⟨⟩
    simp
  psk := by
    rintro pattern _ own remote responder ⟨⟩ built
    split at built
    · cases built
    · cases built
      rfl

theorem lenient_refuses (held : config.tls = some tls) (certified : tls.pkcs12.isSome = true)
    (without : tls.pkcs12Password = none) :
    TlsTransport.new feature.lenient config =
      .error (.absent "Missing `tls.pkcs12_password`") := by
  obtain ⟨type, tcp, own, noise, websocket⟩ := config
  obtain ⟨hostname, root, pkcs12, password⟩ := tls
  cases held
  cases without
  cases pkcs12 with
  | none => cases certified
  | some path => cases feature <;> cases root <;> rfl

theorem lenient_builds (feature : TlsFeature) (held : config.tls = some tls) (paired : tls.Paired) :
    ∃ t, TlsTransport.new feature.lenient config = .ok t := by
  obtain ⟨type, tcp, own, noise, websocket⟩ := config
  obtain ⟨hostname, root, pkcs12, password⟩ := tls
  cases held
  cases pkcs12 with
  | none => cases feature <;> cases root <;> exact ⟨_, rfl⟩
  | some path =>
    cases password with
    | none => cases paired rfl
    | some password => cases feature <;> cases root <;> exact ⟨_, rfl⟩

theorem paired_of_notAbsent (held : config.tls = some tls)
    (built : NotAbsent (TlsTransport.new feature.lenient config)) : tls.Paired := by
  intro certified
  cases password : tls.pkcs12Password with
  | some password => rfl
  | none => cases built _ (lenient_refuses held certified password)

theorem NotAbsent.of_map {A B : Type} {x : Except TransportFault A} {f : A → B}
    (held : NotAbsent (x.map f)) : NotAbsent x := by
  intro fault failed
  apply held
  rw [failed]
  rfl

theorem lenient_noise {noise : NoiseConfig} (held : config.noise = some noise) :
    ∃ t, NoiseTransport.new .lenient config = .ok t := by
  obtain ⟨type, tcp, tls, keys, websocket⟩ := config
  cases held
  obtain ⟨pattern, own, remote⟩ := noise
  cases own <;> cases remote <;> exact ⟨_, rfl⟩

/-- The lenient crates refuse a pattern that asks for a key which is not given. -/
theorem keyed_of_notAbsent {noise : NoiseConfig} (held : config.noise = some noise)
    (greets : ∀ t, NoiseTransport.new .lenient config = .ok t →
      NotAbsent (t.handshake Snow.lenient)) : noise.Keyed := by
  obtain ⟨t, made⟩ := lenient_noise held
  obtain ⟨parsed, remote⟩ := noise_of_new Snow.lenient held made
  have pattern : t.params = noise.pattern := (Except.ok.inj parsed).symm
  have greeted := greets t made
  unfold NoiseTransport.handshake at greeted
  rw [pattern] at greeted
  have given : knowsInitiator noise.pattern = true → noise.remotePublicKey.isSome = true := by
    intro knows
    rw [← remote]
    by_contra absent
    rw [Option.not_isSome_iff_eq_none] at absent
    have refused : Snow.lenient.buildResponder noise.pattern t.localPrivateKey t.remotePublicKey =
        .error .remotePublicKey := if_pos ⟨absent, knows⟩
    rw [refused] at greeted
    cases greeted _ rfl
  refine ⟨given, Bool.eq_false_iff.mpr fun shares => ?_⟩
  have built : Snow.lenient.buildResponder noise.pattern t.localPrivateKey t.remotePublicKey =
      .ok noise.pattern := by
    apply if_neg
    rintro ⟨absent, knows⟩
    have held := remote.trans (given knows)
    rw [absent] at held
    cases held
  rw [built] at greeted
  have wants : Snow.lenient.wantsPsk noise.pattern = true := shares
  have failed := greeted (.absent "Failed to do noise handshake: state error: MissingPsk")
    (if_pos wants)
  cases failed

theorem provides_of_matches (provided : TransportMatches feature config isServer) :
    config.Provides isServer := by
  obtain ⟨built, greets⟩ := provided Unit Unit String String feature.lenient .lenient
  unfold SelectedTransport.new at built greets
  unfold TransportConfig.Provides
  cases type : config.transportType with
  | tcp => trivial
  | noise =>
    rw [type] at greets
    intro server noise held
    exact keyed_of_notAbsent held fun t made => (greets server (.noise t) (by
      dsimp only
      rw [made]
      rfl)).of_map
  | tls =>
    rw [type] at built
    intro tls held
    exact paired_of_notAbsent held built.of_map
  | websocket =>
    rw [type] at built greets
    cases held : config.websocket with
    | none =>
      unfold WebsocketTransport.new at built
      rw [held] at built
      cases built _ rfl
    | some websocket =>
      refine ⟨websocket, rfl, ?_⟩
      intro secure
      dsimp only at built greets
      rw [websocket_new_secure _ held secure] at built greets
      cases there : config.tls with
      | none =>
        have failed : TlsTransport.new feature.lenient config =
            .error (.absent "Missing tls config") := by
          obtain ⟨type, tcp, own, noise, websocket⟩ := config
          cases there
          cases feature <;> rfl
        cases built.of_map.of_map _ failed
      | some tls =>
        have paired := paired_of_notAbsent there built.of_map.of_map
        refine ⟨tls, rfl, paired, ?_⟩
        intro server
        obtain ⟨t, made⟩ := lenient_builds feature there paired
        rw [made] at greets
        have greeted : NotAbsent (t.handshake.map fun _ => ()) := greets server _ rfl
        rw [← TlsTransport.acceptor_of_new _ there made]
        exact TlsTransport.notAbsent_handshake.mp greeted.of_map

end Accepted

/-- An accepted configuration is enough for its transport when the sections are there that the
transport reads, which is checked for some of them only. -/
theorem transport_matches_iff (feature : TlsFeature) (config : TransportConfig) (isServer : Bool)
    (accepted : Config.validateTransportConfig config isServer = .ok ()) :
    TransportMatches feature config isServer ↔ config.Provides isServer :=
  ⟨provides_of_matches,
    matches_of_provides (Config.validateTransportConfig_iff.mp accepted)⟩

/-- A secure websocket with a certificate and its password. -/
def secureWebsocket : TransportConfig :=
  { TransportConfig.default with
    transportType := .websocket
    tls := some ⟨none, none, some "identity.pfx", some "password"⟩
    websocket := some ⟨true⟩ }

theorem secure_websocket_matches : TransportMatches .nativeTls secureWebsocket true := by
  apply (transport_matches_iff .nativeTls secureWebsocket true rfl).mpr
  refine ⟨⟨true⟩, rfl, ?_⟩
  intro _
  exact ⟨_, rfl, fun _ => rfl, fun _ => rfl⟩

/-- A websocket transport without a section of its own is accepted, and it is never built. -/
theorem websocket_without_section : ¬ ∀ (feature : TlsFeature) (config : TransportConfig)
    (isServer : Bool), Config.validateTransportConfig config isServer = .ok () →
      TransportMatches feature config isServer := by
  intro built
  have provided := built .nativeTls { TransportConfig.default with transportType := .websocket }
    true rfl Unit Unit String String NativeTls.lenient .lenient
  cases provided.1 _ rfl

end Rathole
