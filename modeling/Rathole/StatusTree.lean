import Mathlib.Data.List.ReduceOption
import Rathole.Config
import Rathole.Outline
import Rathole.StatusSnapshot

set_option autoImplicit false

/- `rathole-x status`: the tree of the configuration, and how much of the configuration it shows.
`tty` says whether the standard output is a terminal. -/
namespace Rathole.StatusCommand

open RuntimeStatus

def green : String := "32"
def red : String := "31"
def yellow : String := "33"
def dim : String := "2"

abbrev Node := Outline.Tree String

def leaf (label : String) : Node := .node label []

def drawing : Outline.Marks Char where
  branch last := (if last then "└── " else "├── ").toList
  fill last := (if last then "    " else "│   ").toList
  stop := '\n'
  branch_apart s t same := by
    have head := (List.cons.inj same).1
    exact absurd head (by decide)
  fill_apart last s t same := by
    cases last with
    | true =>
      have head := (List.cons.inj same).1
      exact absurd head (by decide)
    | false =>
      have head := (List.cons.inj same).1
      exact absurd head (by decide)

/-- `render_tree`. -/
def renderTree (node : Node) (pre : String) (isLast : Bool) : String :=
  String.ofList (Outline.draw drawing String.toList node pre.toList isLast)

example : renderTree (.node "config" [.node "a" [leaf "b"], leaf "c"]) "" true =
    "└── config\n    ├── a\n    │   └── b\n    └── c\n" := by decide

section Labels

variable (tty : Bool)

def colorize (text code : String) : String :=
  if tty then "\x1b[" ++ code ++ "m" ++ text ++ "\x1b[0m" else text

def mask : String := "••••"

def transportLabel (t : TransportConfig) : String :=
  match t.transportType with
  | .tcp => "tcp"
  | .tls => "tls"
  | .noise => "noise"
  | .websocket => "websocket"

def transportDetail (t : TransportConfig) : Option String :=
  match t.transportType with
  | .noise =>
    if (t.noise.map fun n => n.localPrivateKey.isSome).getD false then some ("local key " ++ mask)
    else if (t.noise.map fun n => n.remotePublicKey.isSome).getD false then
      some ("remote key " ++ mask)
    else none
  | .tls => t.tls.bind fun tls =>
    (tls.pkcs12.map fun p => "pkcs12 " ++ p).or (tls.trustedRoot.map fun r => "trusted_root " ++ r)
  | .websocket => t.websocket.map fun w => s!"tls = {w.tls}"
  | .tcp => none

def statusBadge (ok : Bool) : String :=
  colorize tty (if ok then "status: ok" else "status: error") (if ok then green else red)

def stateBadge (text code : String) : String := colorize tty ("status: " ++ text) code

def statusUnknown : String := colorize tty "status: unknown" yellow

/-- A badge behind a label. -/
def bracketed (badge : String) : String := " [" ++ badge ++ "]"

def clientServiceDetail (runtime : Option RuntimeSnapshot) (name : String) : String :=
  match runtime with
  | none => bracketed (statusUnknown tty)
  | some snapshot => bracketed <|
    match snapshot.services.lookup name with
    | some (.client entry) =>
      match entry.state with
      | .connected => statusBadge tty true
      | .connecting => stateBadge tty "connecting" yellow
      | .retrying => stateBadge tty "retrying" yellow
      | .stopped => stateBadge tty "stopped" dim
    | none | some (.server _) => statusUnknown tty

def serverServiceDetail (runtime : Option RuntimeSnapshot) (name : String) : String :=
  match runtime with
  | none => bracketed (statusUnknown tty)
  | some snapshot => bracketed <|
    match snapshot.services.lookup name with
    | some (.server entry) =>
      match entry.state with
      | .connected =>
        statusBadge tty true ++ ((entry.controlChannelSource.map fun address =>
          " [client: " ++ String.ofList address.display ++ "]").getD "")
      | .waiting => stateBadge tty "waiting" yellow
      | .stopped => stateBadge tty "stopped" dim
    | none | some (.client _) => statusUnknown tty

/-- What the closure of `find_map` has found and noted. -/
structure Seen where
  connected : Option SocketAddr
  connecting : Bool
  stopped : Bool

def Seen.next (seen : Seen) (service : RuntimeServiceSnapshot) : Seen :=
  if seen.connected.isSome then seen
  else
    match service with
    | .client entry =>
      match entry.state with
      | .connected => { seen with connected := entry.resolvedControlTarget }
      | .connecting | .retrying => { seen with connecting := true }
      | .stopped => { seen with stopped := true }
    | .server _ => seen

def clientRemoteDetail (runtime : Option RuntimeSnapshot) : String :=
  match runtime with
  | none => bracketed (statusUnknown tty)
  | some snapshot =>
    let services := (sortedEntries snapshot.services).map Prod.snd
    let seen := services.foldl Seen.next ⟨none, false, false⟩
    match seen.connected with
    | some address =>
      bracketed (statusBadge tty true) ++ " [resolved: " ++ String.ofList address.display ++ "]"
    | none =>
      if seen.connecting then bracketed (stateBadge tty "connecting" yellow)
      else if seen.stopped then bracketed (stateBadge tty "stopped" dim)
      else bracketed (statusUnknown tty)

def serverBindDetail (runtime : Option RuntimeSnapshot) : String :=
  match runtime with
  | none => bracketed (statusUnknown tty)
  | some snapshot => bracketed <|
    match snapshot.serverListener.map ServerListenerSnapshot.state with
    | some .listening => statusBadge tty true
    | some .pending => stateBadge tty "pending" yellow
    | some .error => statusBadge tty false
    | some .stopped => stateBadge tty "stopped" dim
    | none => statusUnknown tty

/-- `sort_by` on the names. -/
def sortByName {V : Type} (entries : List (String × V)) : List (String × V) :=
  entries.mergeSort fun a b => decide (a.1 ≤ b.1)

/-- The line of a service; both loops build it in the same way. -/
def serviceLabel (name addr : String) (serviceType : ServiceType) (token : Bool) (detail : String) :
    String :=
  name ++ " → " ++ addr ++ (if serviceType = .udp then " [udp]" else "") ++
    (if token then " [token " ++ mask ++ "]" else "") ++ detail

/-- A leaf that is there when the condition holds. -/
def leafIf (p : Prop) [Decidable p] (label : String) : Option Node :=
  if p then some (leaf label) else none

/-- A number that is shown unless it is the default. -/
def numberLeaf (label : String) (default n : Nat) : Option Node :=
  leafIf (n ≠ default) (label ++ toString n)

/-- A node with an address, a transport, the leaves that are there, and the services. -/
def sectionNode (title addr transport : String) (detail : Option String)
    (leaves : List (Option Node)) (services : List String) : Node :=
  .node (colorize tty title green) <|
    leaf addr :: leaf ("transport   = " ++ transport) ::
      ((detail.map fun detail => leaf ("transport detail = " ++ colorize tty detail dim)) ::
        leaves).reduceOption ++
      [.node s!"services ({services.length})" (services.map leaf)]

def clientNode (order : HashOrder) (runtime : Option RuntimeSnapshot) (c : ClientConfig) : Node :=
  sectionNode tty "[client]" ("remote_addr = " ++ c.remoteAddr ++ clientRemoteDetail tty runtime)
    (transportLabel c.transport) (transportDetail c.transport)
    [leafIf (c.preferIpv6 = some true) "prefer_ipv6 = true",
      numberLeaf "heartbeat_timeout = " 40 c.heartbeatTimeout,
      numberLeaf "retry_interval = " 1 c.retryInterval,
      leafIf (c.defaultToken.isSome = true) ("default_token = " ++ mask)]
    ((sortByName (order.entries c.services)).map fun e =>
      serviceLabel e.1 e.2.localAddr e.2.serviceType e.2.token.isSome
        (clientServiceDetail tty runtime e.1))

def serverNode (order : HashOrder) (runtime : Option RuntimeSnapshot) (s : ServerConfig) : Node :=
  sectionNode tty "[server]" ("bind_addr   = " ++ s.bindAddr ++ serverBindDetail tty runtime)
    (transportLabel s.transport) (transportDetail s.transport)
    [numberLeaf "heartbeat_interval = " 30 s.heartbeatInterval,
      leafIf (s.defaultToken.isSome = true) ("default_token = " ++ mask)]
    ((sortByName (order.entries s.services)).map fun e =>
      serviceLabel e.1 e.2.bindAddr e.2.serviceType e.2.token.isSome
        (serverServiceDetail tty runtime e.1))

/-- The tree that `render_one` prints for a configuration. -/
def configTree (order : HashOrder) (runtime : Option RuntimeSnapshot) (config : Config) : Node :=
  .node (colorize tty "config" green) <|
    (config.client.map (clientNode tty order runtime)).toList ++
      (config.server.map (serverNode tty order runtime)).toList

end Labels

/-- What a transport shows. -/
structure ShownTransport where
  label : String
  detail : Option String
  deriving DecidableEq

structure ShownService where
  name : String
  addr : String
  serviceType : ServiceType
  token : Bool
  deriving DecidableEq

/-- What the status shows of a client configuration. -/
structure ShownClient where
  remoteAddr : String
  transport : ShownTransport
  preferIpv6 : Bool
  heartbeatTimeout : Nat
  retryInterval : Nat
  defaultToken : Bool
  services : List ShownService
  deriving DecidableEq

structure ShownServer where
  bindAddr : String
  transport : ShownTransport
  heartbeatInterval : Nat
  defaultToken : Bool
  services : List ShownService
  deriving DecidableEq

def shownTransport (t : TransportConfig) : ShownTransport := ⟨transportLabel t, transportDetail t⟩

def shownClient (c : ClientConfig) : ShownClient where
  remoteAddr := c.remoteAddr
  transport := shownTransport c.transport
  preferIpv6 := c.preferIpv6 = some true
  heartbeatTimeout := c.heartbeatTimeout
  retryInterval := c.retryInterval
  defaultToken := c.defaultToken.isSome
  services := (sortedEntries c.services).map fun e =>
    ⟨e.1, e.2.localAddr, e.2.serviceType, e.2.token.isSome⟩

def shownServer (s : ServerConfig) : ShownServer where
  bindAddr := s.bindAddr
  transport := shownTransport s.transport
  heartbeatInterval := s.heartbeatInterval
  defaultToken := s.defaultToken.isSome
  services := (sortedEntries s.services).map fun e =>
    ⟨e.1, e.2.bindAddr, e.2.serviceType, e.2.token.isSome⟩

structure ShownConfig where
  client : Option ShownClient
  server : Option ShownServer
  deriving DecidableEq

def shownConfig (config : Config) : ShownConfig where
  client := config.client.map shownClient
  server := config.server.map shownServer

def OneLine (s : String) : Prop := '\n' ∉ s.toList

/-- A text without a blank. -/
structure Word (s : String) : Prop where
  line : OneLine s
  blank : ' ' ∉ s.toList

def PlainTransport (t : TransportConfig) : Prop := ∀ detail ∈ transportDetail t, OneLine detail

/-- The texts of a configuration stand on one line, and those of its services have no blank. -/
structure PlainClient (c : ClientConfig) : Prop where
  addr : OneLine c.remoteAddr
  transport : PlainTransport c.transport
  services : ∀ name s, c.services.lookup name = some s → Word name ∧ Word s.localAddr

structure PlainServer (s : ServerConfig) : Prop where
  addr : OneLine s.bindAddr
  transport : PlainTransport s.transport
  services : ∀ name v, s.services.lookup name = some v → Word name ∧ Word v.bindAddr

structure Plain (config : Config) : Prop where
  client : ∀ c ∈ config.client, PlainClient c
  server : ∀ s ∈ config.server, PlainServer s

section Sorted

variable {V : Type}

theorem pairwise_sortByName (entries : List (String × V)) :
    (sortByName entries).Pairwise fun a b => a.1 ≤ b.1 := by
  have sorted := @List.pairwise_mergeSort _ (fun a b : String × V => decide (a.1 ≤ b.1))
    (fun a b c ab bc => decide_eq_true
      (le_trans (of_decide_eq_true ab) (of_decide_eq_true bc)))
    (fun a b => by simpa using le_total a.1 b.1) entries
  exact sorted.imp of_decide_eq_true

/-- A list of all entries is determined by the order of its keys. -/
theorem eq_filterMap_of_enumerates {entries : List (String × V)} {m : HashMap String V}
    (listed : Enumerates entries m) :
    (entries.map Prod.fst).filterMap (fun k => (m.lookup k).map fun v => (k, v)) = entries := by
  have held : ∀ e ∈ entries, m.lookup e.1 = some e.2 := by
    intro e member
    exact (listed.mem_iff e.1 e.2).mp member
  rw [List.filterMap_map]
  clear listed
  induction entries with
  | nil => rfl
  | cons e rest ih =>
    rw [List.filterMap_cons, Function.comp_apply, held e List.mem_cons_self,
      ih fun e member => held e (List.mem_cons_of_mem _ member)]
    rfl

theorem sortByName_entries (order : HashOrder) (m : HashMap String V) :
    sortByName (order.entries m) = sortedEntries m := by
  have perm : (sortByName (order.entries m)).Perm (order.entries m) := List.mergeSort_perm _ _
  have listed : Enumerates (sortByName (order.entries m)) m := by
    refine ⟨(perm.map Prod.fst).nodup_iff.mpr (order.enumerates m).nodup, fun k v => ?_⟩
    rw [perm.mem_iff, (order.enumerates m).mem_iff]
  have keys : ((sortByName (order.entries m)).map Prod.fst).toFinset = m.keys := by
    apply Finset.ext
    intro k
    rw [List.mem_toFinset, Finmap.mem_keys, ← order.mem_keys m k, HashOrder.keys]
    exact (perm.map Prod.fst).mem_iff
  have sorted : m.keys.sort (fun a b => a ≤ b) = (sortByName (order.entries m)).map Prod.fst := by
    rw [← keys]
    apply (List.toFinset_sort _ listed.nodup).mpr
    exact List.pairwise_map.mpr (pairwise_sortByName _)
  rw [sortedEntries, sorted, eq_filterMap_of_enumerates listed]

end Sorted

section Drawn

variable (tty : Bool) (runtime : Option RuntimeSnapshot)

def ShownService.label (detail : String → String) (s : ShownService) : String :=
  serviceLabel s.name s.addr s.serviceType s.token (detail s.name)

/-- The nodes as functions of what is shown. -/
def drawClient (c : ShownClient) : Node :=
  sectionNode tty "[client]" ("remote_addr = " ++ c.remoteAddr ++ clientRemoteDetail tty runtime)
    c.transport.label c.transport.detail
    [leafIf (c.preferIpv6 = true) "prefer_ipv6 = true",
      numberLeaf "heartbeat_timeout = " 40 c.heartbeatTimeout,
      numberLeaf "retry_interval = " 1 c.retryInterval,
      leafIf (c.defaultToken = true) ("default_token = " ++ mask)]
    (c.services.map (ShownService.label (clientServiceDetail tty runtime)))

def drawServer (s : ShownServer) : Node :=
  sectionNode tty "[server]" ("bind_addr   = " ++ s.bindAddr ++ serverBindDetail tty runtime)
    s.transport.label s.transport.detail
    [numberLeaf "heartbeat_interval = " 30 s.heartbeatInterval,
      leafIf (s.defaultToken = true) ("default_token = " ++ mask)]
    (s.services.map (ShownService.label (serverServiceDetail tty runtime)))

theorem clientNode_eq (order : HashOrder) (c : ClientConfig) :
    clientNode tty order runtime c = drawClient tty runtime (shownClient c) := by
  simp only [clientNode, drawClient, shownClient, shownTransport, sortByName_entries, List.map_map,
    decide_eq_true_eq]
  rfl

theorem serverNode_eq (order : HashOrder) (s : ServerConfig) :
    serverNode tty order runtime s = drawServer tty runtime (shownServer s) := by
  simp only [serverNode, drawServer, shownServer, shownTransport, sortByName_entries, List.map_map]
  rfl

def drawConfig (config : ShownConfig) : Node :=
  .node (colorize tty "config" green)
    ((config.client.map (drawClient tty runtime)).toList ++
      (config.server.map (drawServer tty runtime)).toList)

theorem configTree_eq (order : HashOrder) (config : Config) :
    configTree tty order runtime config = drawConfig tty runtime (shownConfig config) := by
  rw [configTree, drawConfig, shownConfig, Option.map_map, Option.map_map,
    funext (clientNode_eq tty runtime order), funext (serverNode_eq tty runtime order)]
  rfl

end Drawn

end Rathole.StatusCommand
