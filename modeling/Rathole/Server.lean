import Rathole.ConfigChange
import Rathole.MultiMap
import Rathole.RuntimeStatus
import Rathole.Transition

set_option autoImplicit false

/- The server: the connection tasks with their handshakes, the control channel
tasks, and the hot reload of the main loop. One step runs a task from one await
point to the next. `D` is the type of SHA-256 digests. -/
namespace Rathole.Server

variable {D : Type} [DecidableEq D]

def hashWidthInBytes : Nat := 32
def chanSize : Nat := 2048

/-- `data_channel_timeout`, in seconds, over `u64` arithmetic that saturates. -/
def dataChannelTimeout (heartbeatInterval : Nat) : Nat :=
  max (min (2 * heartbeatInterval) (2 ^ 64 - 1)) 10

/-- The part of a `ControlChannelHandle` that the map and its readers see: the
tasks and queues it belongs to, and its `service`. -/
structure Handle where
  session : Nat
  service : ServerServiceConfig
  deriving DecidableEq

inductive ControlTask
  | running
  | ended (stuck : Bool)
  | reported
  deriving DecidableEq

/-- What `ControlChannelHandle::new` spawns: the control channel task, and the
connection pool with the queue of data channels it has not taken yet. -/
structure Session where
  service : ServerServiceConfig
  source : SocketAddr
  since : Nat
  task : ControlTask
  pool : Bool
  dataChannels : List Nat
  arrived : Nat
  deriving DecidableEq

/-- The await point a connection task stands at. -/
inductive Phase (D : Type)
  /-- `read_hello` -/
  | hello
  /-- writing the hello that carries the nonce -/
  | greeting (d : D) (nonce : List UInt8)
  /-- `services.read()` -/
  | lookup (d : D) (nonce : List UInt8)
  /-- writing `Ack::ServiceNotExist` with the read guard of `services` held -/
  | rejecting
  /-- `read_auth` -/
  | authenticating (d : D) (concat : List UInt8) (service : ServerServiceConfig)
  /-- writing `Ack::AuthFailed` -/
  | refusing
  /-- writing `Ack::Ok` -/
  | accepting (d key : D) (service : ServerServiceConfig)
  /-- `control_channels.write()`, with the new handle in hand -/
  | registering (d key : D) (service : ServerServiceConfig) (stamp : Nat)
  /-- `control_channels.read()` of a data channel -/
  | routing (key : D)
  /-- `data_ch_tx.send(conn)` with the read guard of `control_channels` held -/
  | delivering (session : Nat)
  | closed
  deriving DecidableEq

structure Conn (D : Type) where
  source : SocketAddr
  phase : Phase D
  deriving DecidableEq

/-- Where the main loop stands in `handle_hot_reload`. After an Add updated
`services` the write guard of `services` is still held. -/
inductive Reload (D : Type)
  | idle
  | adding (service : ServerServiceConfig) (stamp : Nat)
  | added (name : String) (hash : D) (stamp : Nat)
  | deleting (name : String) (stamp : Nat)
  | deleted (name : String) (hash : D) (stamp : Nat)
  deriving DecidableEq

/-- The readers are the tasks that hold a read guard over an await point. `stamp`
is history only: it counts the registry updates made by handshakes and reloads. -/
structure State (D : Type) [DecidableEq D] where
  config : ServerConfig
  running : Bool
  services : HashMap D ServerServiceConfig
  serviceReaders : List Nat
  controlChannels : MultiMap D D Handle
  channelReaders : List Nat
  runtime : RuntimeStatus.RuntimeSnapshot
  conns : HashMap Nat (Conn D)
  sessions : HashMap Nat Session
  reload : Reload D
  stamp : Nat

inductive Action (D : Type)
  | accept (c : Nat) (source : SocketAddr)
  | readControlHello (c : Nat) (d : D) (nonce : List UInt8)
  | readDataHello (c : Nat) (key : D)
  | greet (c : Nat)
  | lookup (c : Nat)
  | readAuth (c : Nat) (d : D)
  | connect (c : Nat) (now : Nat)
  | register (c : Nat)
  | route (c : Nat)
  | deliver (c : Nat)
  | ioError (c : Nat)
  | deadline (c : Nat)
  | endTask (c : Nat) (stuck : Bool)
  | disconnect (c : Nat) (now : Nat)
  | takeDataChannel (c : Nat)
  | endPool (c : Nat)
  | reload (e : ConfigChange)
  | reloadServices
  | reloadChannels
  | shutdown

section Functions

variable (digest : List UInt8 → D)

/-- `generate_service_hashmap`, over the entries of `server.services` in the order
the loop meets them. -/
def generateServiceHashmap (services : List (String × ServerServiceConfig)) :
    HashMap D ServerServiceConfig :=
  services.foldl (fun ret u => ret.insert (digest (asBytes u.1)) u.2) ∅

/-- `Server::from` and the start of `Server::run`, after a successful bind. -/
def State.start (config : ServerConfig) (entries : List (String × ServerServiceConfig))
    (processId now : Nat) : State D where
  config := config
  running := true
  services := generateServiceHashmap digest entries
  serviceReaders := []
  controlChannels := .new
  channelReaders := []
  runtime := RuntimeStatus.serverListenerListening (RuntimeStatus.serverListenerPending
    (RuntimeStatus.serverRegistry processId now (entries.map Prod.fst)))
  conns := ∅
  sessions := ∅
  reload := .idle
  stamp := 0

def State.enter (s : State D) (c : Nat) (source : SocketAddr) (phase : Phase D) : State D :=
  { s with conns := s.conns.insert c ⟨source, phase⟩ }

/-- The task ends: its guards are released and whatever it owns is dropped. -/
def State.close (s : State D) (c : Nat) (source : SocketAddr) : State D :=
  { s with
    conns := s.conns.insert c ⟨source, .closed⟩
    serviceReaders := s.serviceReaders.erase c
    channelReaders := s.channelReaders.erase c }

def State.accept (s : State D) (c : Nat) (source : SocketAddr) : Option (State D) :=
  if s.running ∧ s.reload = .idle ∧ s.conns.lookup c = none then some (s.enter c source .hello)
  else none

def State.readControlHello (s : State D) (c : Nat) (d : D) (nonce : List UInt8) :
    Option (State D) :=
  match s.conns.lookup c with
  | some ⟨source, .hello⟩ =>
    if nonce.length = hashWidthInBytes then some (s.enter c source (.greeting d nonce)) else none
  | _ => none

def State.readDataHello (s : State D) (c : Nat) (key : D) : Option (State D) :=
  match s.conns.lookup c with
  | some ⟨source, .hello⟩ => some (s.enter c source (.routing key))
  | _ => none

def State.greet (s : State D) (c : Nat) : Option (State D) :=
  match s.conns.lookup c with
  | some ⟨source, .greeting d nonce⟩ => some (s.enter c source (.lookup d nonce))
  | _ => none

/-- The guard of `services` held by an Add keeps readers out. -/
def Reload.locksServices : Reload D → Bool
  | .added .. => true
  | _ => false

def State.lookup (s : State D) (c : Nat) : Option (State D) :=
  match s.conns.lookup c with
  | some ⟨source, .lookup d nonce⟩ =>
    if s.reload.locksServices then none
    else
      match s.services.lookup d with
      | none =>
        some { s.enter c source .rejecting with serviceReaders := c :: s.serviceReaders }
      | some service =>
        match service.token with
        -- `token.as_ref().unwrap()` panics and takes the task down.
        | none => some (s.close c source)
        | some token => some (s.enter c source (.authenticating d (asBytes token ++ nonce) service))
  | _ => none

def State.readAuth (s : State D) (c : Nat) (d : D) : Option (State D) :=
  match s.conns.lookup c with
  | some ⟨source, .authenticating service_digest concat service⟩ =>
    let session_key := digest concat
    if session_key = d then
      some (s.enter c source (.accepting service_digest session_key service))
    else some (s.enter c source .refusing)
  | _ => none

/-- `server_connected` and `ControlChannelHandle::new`, with no await between them. -/
def State.connect (s : State D) (c : Nat) (now : Nat) : Option (State D) :=
  match s.conns.lookup c with
  | some ⟨source, .accepting d key service⟩ =>
    match RuntimeStatus.serverConnected now s.runtime service.name source with
    | (none, _) => some (s.close c source)
    | (some since, runtime) =>
      some { s.enter c source (.registering d key service s.stamp) with
        runtime := runtime
        sessions := s.sessions.insert c ⟨service, source, since, .running, true, [], 0⟩
        stamp := s.stamp + 1 }
  | _ => none

/-- The new handle supersedes the one stored for the service. When the insertion
fails the new handle is dropped. -/
def State.register (s : State D) (c : Nat) : Option (State D) :=
  match s.conns.lookup c with
  | some ⟨source, .registering d key service _⟩ =>
    if s.channelReaders = [] then
      let h := (s.controlChannels.remove1 d).2
      some { s.close c source with
        controlChannels := (h.insert d key ⟨c, service⟩).toOption.getD h }
    else none
  | _ => none

def State.route (s : State D) (c : Nat) : Option (State D) :=
  match s.conns.lookup c with
  | some ⟨source, .routing key⟩ =>
    match s.controlChannels.get2 key with
    | none => some (s.close c source)
    | some handle =>
      some { s.enter c source (.delivering handle.session) with
        channelReaders := c :: s.channelReaders }
  | _ => none

def State.deliver (s : State D) (c : Nat) : Option (State D) :=
  match s.conns.lookup c with
  | some ⟨source, .delivering session⟩ =>
    match s.sessions.lookup session with
    | none => none
    | some x =>
      if x.pool then
        if x.dataChannels.length < chanSize * 2 then
          some { s.close c source with
            sessions := s.sessions.insert session
              { x with dataChannels := x.dataChannels ++ [c], arrived := x.arrived + 1 } }
        else none
      else some (s.close c source)
  | _ => none

/-- A failed read or write, or the error that ends the handshake once the last ack
is out. -/
def State.ioError (s : State D) (c : Nat) : Option (State D) :=
  match s.conns.lookup c with
  | some ⟨source, phase⟩ =>
    match phase with
    | .hello | .greeting .. | .rejecting | .authenticating .. | .refusing | .accepting .. =>
      some (s.close c source)
    | _ => none
  | none => none

/-- `HELLO_AUTH_TIMEOUT` cancels the task at whatever await point it stands. -/
def State.deadline (s : State D) (c : Nat) : Option (State D) :=
  match s.conns.lookup c with
  | some ⟨source, phase⟩ => if phase = .closed then none else some (s.close c source)
  | none => none

def State.onSession (s : State D) (c : Nat) (f : Session → Option Session) : Option (State D) :=
  ((s.sessions.lookup c).bind f).map fun x => { s with sessions := s.sessions.insert c x }

def State.endTask (s : State D) (c : Nat) (stuck : Bool) : Option (State D) :=
  s.onSession c fun x => if x.task = .running then some { x with task := .ended stuck } else none

def stuckMessage (dataChTimeout : Nat) : String :=
  s!"No data channel arrived within {dataChTimeout}s; the control channel is stuck"

def disconnectDetail (heartbeatInterval : Nat) (stuck : Bool) : String :=
  if stuck then stuckMessage (dataChannelTimeout heartbeatInterval) else "control channel stopped"

/-- The end of the control channel task. -/
def State.disconnect (s : State D) (c : Nat) (now : Nat) : Option (State D) :=
  match s.sessions.lookup c with
  | some x =>
    match x.task with
    | .ended stuck =>
      (RuntimeStatus.serverDisconnected now s.runtime x.service.name x.source x.since
        (some (disconnectDetail s.config.heartbeatInterval stuck))).map fun runtime =>
          { s with
            runtime := runtime
            sessions := s.sessions.insert c { x with task := .reported } }
    | _ => none
  | none => none

def State.takeDataChannel (s : State D) (c : Nat) : Option (State D) :=
  s.onSession c fun x =>
    if x.pool ∧ x.dataChannels ≠ [] then some { x with dataChannels := x.dataChannels.tail }
    else none

def State.endPool (s : State D) (c : Nat) : Option (State D) :=
  s.onSession c fun x => if x.pool then some { x with pool := false, dataChannels := [] } else none

/-- The start of `handle_hot_reload`, up to the first lock. -/
def State.handleHotReload (s : State D) (e : ConfigChange) : State D :=
  match e with
  | .serverChange (.add cfg) =>
    { s with
      runtime := RuntimeStatus.serverAdd s.runtime cfg.name
      reload := .adding cfg s.stamp
      stamp := s.stamp + 1 }
  | .serverChange (.delete name) =>
    { s with
      runtime := RuntimeStatus.remove s.runtime name
      reload := .deleting name s.stamp
      stamp := s.stamp + 1 }
  | _ => s

def State.reloadServices (s : State D) : Option (State D) :=
  if s.serviceReaders = [] then
    match s.reload with
    | .adding cfg stamp =>
      let hash := digest (asBytes cfg.name)
      some { s with
        services := s.services.insert hash cfg
        reload := .added cfg.name hash stamp }
    | .deleting name stamp =>
      let hash := digest (asBytes name)
      some { s with
        services := s.services.erase hash
        reload := .deleted name hash stamp }
    | _ => none
  else none

def State.reloadChannels (s : State D) : Option (State D) :=
  if s.channelReaders = [] then
    match s.reload with
    | .added _ hash _ | .deleted _ hash _ =>
      some { s with
        controlChannels := (s.controlChannels.remove1 hash).2
        reload := .idle }
    | _ => none
  else none

def step (s : State D) : Action D → Option (State D)
  | .accept c source => s.accept c source
  | .readControlHello c d nonce => s.readControlHello c d nonce
  | .readDataHello c key => s.readDataHello c key
  | .greet c => s.greet c
  | .lookup c => s.lookup c
  | .readAuth c d => s.readAuth digest c d
  | .connect c now => s.connect c now
  | .register c => s.register c
  | .route c => s.route c
  | .deliver c => s.deliver c
  | .ioError c => s.ioError c
  | .deadline c => s.deadline c
  | .endTask c stuck => s.endTask c stuck
  | .disconnect c now => s.disconnect c now
  | .takeDataChannel c => s.takeDataChannel c
  | .endPool c => s.endPool c
  | .reload e => if s.running ∧ s.reload = .idle then some (s.handleHotReload e) else none
  | .reloadServices => s.reloadServices digest
  | .reloadChannels => s.reloadChannels
  | .shutdown =>
    if s.running ∧ s.reload = .idle then
      some { s with
        running := false
        runtime := RuntimeStatus.serverListenerStopped s.runtime }
    else none

/-- A server starts from a validated section, whose services carry the names they
are stored under. -/
def system : Transition.System (State D) (Action D) where
  init s := ∃ config entries processId now, Enumerates entries config.services ∧
    (∀ name service, config.services.lookup name = some service → service.name = name) ∧
    s = .start digest config entries processId now
  step := step digest

end Functions

end Rathole.Server
