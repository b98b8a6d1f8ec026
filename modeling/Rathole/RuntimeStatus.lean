import Rathole.HashMap

set_option autoImplicit false

/- The runtime registry: a snapshot behind a lock that every function below takes
for its whole duration. `now` is the wall clock in milliseconds. -/
namespace Rathole

inductive SocketAddr
  | v4 (ip : BitVec 32) (port : BitVec 16)
  | v6 (ip : BitVec 128) (port : BitVec 16) (flowinfo scopeId : BitVec 32)
  deriving DecidableEq

namespace RuntimeStatus

def runtimeSchemaVersion : Nat := 2

inductive RuntimeRole
  | client | server
  deriving DecidableEq

inductive ClientControlState
  | connecting | connected | retrying | stopped
  deriving DecidableEq

inductive ServerControlState
  | waiting | connected | stopped
  deriving DecidableEq

inductive ServerListenerState
  | pending | listening | error | stopped
  deriving DecidableEq

structure RuntimeEvent where
  atUnixMs : Nat
  message : String
  deriving DecidableEq

structure ServerListenerSnapshot where
  state : ServerListenerState
  lastError : Option RuntimeEvent
  deriving DecidableEq

structure ClientSnapshot where
  state : ClientControlState
  configuredControlTarget : String
  resolvedControlTarget : Option SocketAddr
  lastConnectedAtUnixMs : Option Nat
  lastError : Option RuntimeEvent
  deriving DecidableEq

structure ServerSnapshot where
  state : ServerControlState
  controlChannelSource : Option SocketAddr
  connectedSinceUnixMs : Option Nat
  lastDisconnectedOrError : Option RuntimeEvent
  deriving DecidableEq

inductive RuntimeServiceSnapshot
  | client (entry : ClientSnapshot)
  | server (entry : ServerSnapshot)
  deriving DecidableEq

/-- The entry of a client service whose task has stopped. -/
def RuntimeServiceSnapshot.isStopped : RuntimeServiceSnapshot → Bool
  | .client entry => entry.state = .stopped
  | .server _ => false

structure RuntimeSnapshot where
  schemaVersion : Nat
  role : RuntimeRole
  processId : Nat
  capturedAtUnixMs : Nat
  serverListener : Option ServerListenerSnapshot
  services : HashMap String RuntimeServiceSnapshot
  deriving DecidableEq

/-- `String::truncate` on the characters of a string: `none` is its panic when
the new length falls inside a character. -/
def truncate : Nat → List Char → Option (List Char)
  | _, [] => some []
  | 0, _ :: _ => some []
  | n + 1, c :: cs =>
    if c.utf8Size ≤ n + 1 then (truncate (n + 1 - c.utf8Size) cs).map (c :: ·) else none

def safeError (now : Nat) (error : String) : Option RuntimeEvent :=
  (truncate 512 error.toList).map fun message => ⟨now, String.ofList message⟩

def ServerSnapshot.waiting : ServerSnapshot := ⟨.waiting, none, none, none⟩

def ClientSnapshot.stopped (remoteAddr : String) : ClientSnapshot :=
  ⟨.stopped, remoteAddr, none, none, none⟩

def collect (names : List String) (entry : RuntimeServiceSnapshot) :
    HashMap String RuntimeServiceSnapshot :=
  names.foldl (fun services name => services.insert name entry) ∅

def clientRegistry (processId now : Nat) (remoteAddr : String) (services : List String) :
    RuntimeSnapshot where
  schemaVersion := runtimeSchemaVersion
  role := .client
  processId := processId
  capturedAtUnixMs := now
  serverListener := none
  services := collect services (.client (.stopped remoteAddr))

def serverRegistry (processId now : Nat) (services : List String) : RuntimeSnapshot where
  schemaVersion := runtimeSchemaVersion
  role := .server
  processId := processId
  capturedAtUnixMs := now
  serverListener := some ⟨.pending, none⟩
  services := collect services (.server .waiting)

def RuntimeSnapshot.setListener (r : RuntimeSnapshot)
    (f : ServerListenerSnapshot → ServerListenerSnapshot) : RuntimeSnapshot :=
  { r with serverListener := r.serverListener.map f }

def serverListenerPending (r : RuntimeSnapshot) : RuntimeSnapshot :=
  r.setListener fun _ => ⟨.pending, none⟩

def serverListenerListening (r : RuntimeSnapshot) : RuntimeSnapshot :=
  r.setListener fun _ => ⟨.listening, none⟩

def serverListenerStopped (r : RuntimeSnapshot) : RuntimeSnapshot :=
  r.setListener fun listener => { listener with state := .stopped }

def clientAdd (r : RuntimeSnapshot) (name remoteAddr : String) : RuntimeSnapshot :=
  { r with services := r.services.insert name (.client (.stopped remoteAddr)) }

def RuntimeSnapshot.setServer (r : RuntimeSnapshot) (name : String) (entry : ServerSnapshot) :
    RuntimeSnapshot :=
  { r with services := r.services.insert name (.server entry) }

def serverAdd (r : RuntimeSnapshot) (name : String) : RuntimeSnapshot := r.setServer name .waiting

def remove (r : RuntimeSnapshot) (name : String) : RuntimeSnapshot :=
  { r with services := r.services.erase name }

/-- `get_mut` on an entry of the client variant; other entries stay as they are. -/
def RuntimeSnapshot.modifyClient (r : RuntimeSnapshot) (name : String)
    (f : ClientSnapshot → ClientSnapshot) : RuntimeSnapshot :=
  match r.services.lookup name with
  | some (.client entry) => { r with services := r.services.insert name (.client (f entry)) }
  | _ => r

def clientConnecting (r : RuntimeSnapshot) (name : String) : RuntimeSnapshot :=
  r.modifyClient name fun entry => { entry with state := .connecting }

def clientResolved (r : RuntimeSnapshot) (name : String) (addr : SocketAddr) : RuntimeSnapshot :=
  r.modifyClient name fun entry => { entry with resolvedControlTarget := some addr }

def clientConnected (now : Nat) (r : RuntimeSnapshot) (name : String) : RuntimeSnapshot :=
  r.modifyClient name fun entry =>
    { entry with state := .connected, lastConnectedAtUnixMs := some now, lastError := none }

/-- The error text is cut while the lock is held; `none` is the panic. -/
def clientRetrying (now : Nat) (r : RuntimeSnapshot) (name error : String) :
    Option RuntimeSnapshot :=
  match r.services.lookup name with
  | some (.client _) =>
    (safeError now error).map fun event =>
      r.modifyClient name fun entry => { entry with state := .retrying, lastError := some event }
  | _ => some r

def clientStopped (r : RuntimeSnapshot) (name : String) : RuntimeSnapshot :=
  r.modifyClient name fun entry => { entry with state := .stopped }

/-- The start time when the entry exists, and the registry after the call. -/
def serverConnected (now : Nat) (r : RuntimeSnapshot) (name : String) (source : SocketAddr) :
    Option Nat × RuntimeSnapshot :=
  match r.services.lookup name with
  | some (.server _) => (some now, r.setServer name ⟨.connected, some source, some now, none⟩)
  | _ => (none, r)

/-- Only the channel that owns the entry clears it. -/
def serverDisconnected (now : Nat) (r : RuntimeSnapshot) (name : String) (source : SocketAddr)
    (connectedSince : Nat) (detail : Option String) : Option RuntimeSnapshot :=
  match r.services.lookup name with
  | some (.server entry) =>
    if entry.controlChannelSource ≠ some source ∨
        entry.connectedSinceUnixMs ≠ some connectedSince then some r
    else
      match detail with
      | none => some (r.setServer name .waiting)
      | some text =>
        (safeError now text).map fun event => r.setServer name ⟨.waiting, none, none, some event⟩
  | _ => some r

theorem lookup_modifyClient (r : RuntimeSnapshot) (name k : String)
    (f : ClientSnapshot → ClientSnapshot) :
    (r.modifyClient name f).services.lookup k =
      if k = name then (r.services.lookup name).map fun snapshot => match snapshot with
        | .client entry => .client (f entry)
        | .server entry => .server entry
      else r.services.lookup k := by
  unfold RuntimeSnapshot.modifyClient
  split
  · next entry found =>
    rw [lookup_insert_eq, found]
    rfl
  · next other =>
    split
    · next same =>
      rw [same]
      cases found : r.services.lookup name with
      | none => rfl
      | some snapshot =>
        cases snapshot with
        | client entry => exact absurd found (other entry)
        | server entry => rfl
    · rfl

theorem mem_collect (names : List String) (entry : RuntimeServiceSnapshot) (name : String) :
    name ∈ collect names entry ↔ name ∈ names := by
  have written := mem_foldl_insert (fun name => name) (fun _ => entry) names ∅ name
  rw [List.map_id', or_iff_right Finmap.notMem_empty] at written
  exact written

theorem lookup_collect {names : List String} {entry found : RuntimeServiceSnapshot} {name : String}
    (held : (collect names entry).lookup name = some found) : found = entry := by
  unfold collect at held
  have general : ∀ (names : List String) (m : HashMap String RuntimeServiceSnapshot),
      (names.foldl (fun services name => services.insert name entry) m).lookup name = some found →
        m.lookup name = some found ∨ found = entry := by
    intro names
    induction names with
    | nil => exact fun m held => .inl held
    | cons other rest ih =>
      intro m held
      rcases ih _ held with before | same
      · rw [lookup_insert_eq] at before
        split at before
        · exact .inr (Option.some.inj before).symm
        · exact .inl before
      · exact .inr same
  rcases general names ∅ held with absent | same
  · simp at absent
  · exact same

theorem lookup_collect_of_mem {names : List String} {entry : RuntimeServiceSnapshot} {name : String}
    (member : name ∈ names) : (collect names entry).lookup name = some entry := by
  unfold collect
  have general : ∀ (names : List String) (m : HashMap String RuntimeServiceSnapshot),
      name ∈ names ∨ m.lookup name = some entry →
      (names.foldl (fun services name => services.insert name entry) m).lookup name = some entry := by
    intro names
    induction names with
    | nil => exact fun m held => held.resolve_left nofun
    | cons other rest ih =>
      intro m held
      refine ih _ ?_
      rw [lookup_insert_eq]
      split
      · exact .inr rfl
      · next different =>
        exact held.imp_left fun member => (List.mem_cons.mp member).resolve_left different
  exact general names ∅ (.inl member)

/-- Cutting a text of single-byte characters never falls inside a character. -/
theorem truncate_isSome {cs : List Char} (ascii : ∀ c ∈ cs, c.utf8Size = 1) (n : Nat) :
    (truncate n cs).isSome := by
  induction cs generalizing n with
  | nil => rw [truncate]; rfl
  | cons c cs ih =>
    cases n with
    | zero => rw [truncate]; rfl
    | succ n =>
      have single : c.utf8Size = 1 := ascii c List.mem_cons_self
      have rest := ih (fun c member => ascii c (List.mem_cons_of_mem _ member)) n
      simpa [truncate, single] using rest

theorem safeError_isSome {error : String} (ascii : ∀ c ∈ error.toList, c.utf8Size = 1)
    (now : Nat) : (safeError now error).isSome := by
  simpa [safeError] using truncate_isSome ascii 512

end RuntimeStatus

end Rathole
