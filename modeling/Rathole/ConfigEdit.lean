import Rathole.ConfigSchema
import Rathole.HostPort

set_option autoImplicit false

/- What the commands that edit a configuration have in common, and `config remove`. A command
answers with the text it hands to `write_atomic`. -/
namespace Rathole.ConfigEdit

open Toml (Item Entries TableKind)

section Errors

variable {A : Type}

/-- `bail!` under a condition. -/
def bailIf (c : Bool) (message : String) : Except String Unit :=
  if c then .error message else .ok ()

def checkIf (c : Bool) (check : Except String Unit) : Except String Unit :=
  if c then check else .ok ()

def okOrElse (x : Option A) (message : String) : Except String A :=
  match x with
  | some a => .ok a
  | none => .error message

def withContext (x : Except String A) (context : String) : Except String A :=
  match x with
  | .ok a => .ok a
  | .error e => .error s!"{context}: {e}"

theorem bailIf_ok {c : Bool} {message : String} : bailIf c message = .ok () ↔ c = false := by
  cases c <;> simp [bailIf]

theorem bind_ok {B : Type} {x : Except String A} {f : A → Except String B} {b : B}
    (ran : x >>= f = .ok b) : ∃ a, x = .ok a ∧ f a = .ok b := by
  cases x with
  | error message => cases ran
  | ok a => exact ⟨a, rfl, ran⟩

theorem withContext_ok {x : Except String A} {context : String} {a : A}
    (ran : withContext x context = .ok a) : x = .ok a := by
  cases x with
  | error message => cases ran
  | ok a => exact ran

theorem okOrElse_ok {x : Option A} {message : String} {a : A}
    (ran : okOrElse x message = .ok a) : x = some a := by
  cases x with
  | none => cases ran
  | some b =>
    cases ran
    rfl

end Errors

inductive ServiceSide
  | client | server
  deriving DecidableEq

def ServiceSide.key : ServiceSide → String
  | client => "client"
  | server => "server"

/-- The key of the address of a service. -/
def ServiceSide.serviceAddrKey : ServiceSide → String
  | client => "local_addr"
  | server => "bind_addr"

/-- The role a config file runs as. -/
inductive ServiceRole
  | client | server
  deriving DecidableEq

def ServiceRole.key : ServiceRole → String
  | client => "client"
  | server => "server"

/-- Which role a document declares. -/
def detectRole (doc : Entries) : Except String ServiceRole :=
  match (doc.lookup "client").isSome, (doc.lookup "server").isSome with
  | true, false => .ok .client
  | false, true => .ok .server
  | true, true => .error ("The config defines both [client] and [server]; this command edits " ++
      "single-role configs. Split it into two files and install two services.")
  | false, false => .error "The config defines neither [client] nor [server]"

/-- A document without a section takes either role. -/
def ensureRoleAllows (doc : Entries) (requested : ServiceSide) : Except String Unit :=
  if (doc.lookup "client").isNone ∧ (doc.lookup "server").isNone then .ok ()
  else do
    let role ← detectRole doc
    match role, requested with
    | .client, .client | .server, .server => .ok ()
    | _, _ => .error (s!"This config is a {role.key} config; {requested.key} entries do not " ++
        "belong here. Use the matching side or another service config.")

def configSkeleton : List String := [
    "# rathole-x configuration file",
    "#",
    "# Each rathole-x process runs exactly one role: client or server. Use separate",
    "# configs and processes for both roles; a legacy dual-section config requires",
    "# an explicit `rathole-x run --client` or `rathole-x run --server`.",
    "#",
    "# Point a client at its server once, then add services:",
    "#   rathole-x config set --client --remote-addr <SERVER:PORT>",
    "#   rathole-x config add --client \"name:my-service;local:<HOST:PORT>\"",
    "#   rathole-x config add --server \"name:my-service;bind:<HOST:PORT>\"",
    "#",
    "# ---------------------------------------------------------------------------",
    "# Client side: connect to a rathole server and expose local services through it",
    "# ---------------------------------------------------------------------------",
    "#",
    "# [client]",
    "# remote_addr = \"example.com:2333\"   # control channel address of the server",
    "# # default_token = \"secret\"         # default token for every client service",
    "# # heartbeat_timeout = 40           # seconds before the control channel is declared dead",
    "# # retry_interval = 1               # seconds between reconnection attempts",
    "#",
    "# # Optional transport configuration (default is plain TCP):",
    "# # [client.transport]",
    "# # type = \"noise\"                   # tcp | tls | noise | websocket",
    "# # [client.transport.noise]",
    "# # remote_public_key = \"...\"        # the server's noise public key",
    "#",
    "# [client.services.my-service]",
    "# local_addr = \"127.0.0.1:80\"        # local address the traffic is forwarded to",
    "# # token = \"secret\"                 # overrides default_token",
    "# # type = \"tcp\"                     # tcp (default) or udp",
    "#",
    "# ---------------------------------------------------------------------------",
    "# Server side: accept clients and publish their services",
    "# ---------------------------------------------------------------------------",
    "#",
    "# [server]",
    "# bind_addr = \"0.0.0.0:2333\"         # control channel bind address",
    "# # default_token = \"secret\"         # default token for every server service",
    "# # heartbeat_interval = 30          # seconds between heartbeats",
    "#",
    "# # Optional transport configuration (default is plain TCP):",
    "# # [server.transport]",
    "# # type = \"noise\"                   # tcp | tls | noise | websocket",
    "# # [server.transport.noise]",
    "# # local_private_key = \"...\"        # generate with: rathole-x genkey",
    "#",
    "# [server.services.my-service]",
    "# bind_addr = \"0.0.0.0:80\"           # address the service is published on",
    "# # token = \"secret\"                 # overrides default_token",
    "# # type = \"tcp\"                     # tcp (default) or udp"]

/-- What a command finds: the crates, the path of the configuration, and the order in which
the loader meets the services. -/
structure Env (Text : Type) where
  crate : Toml.Crate Text
  parseUrl : String → Option Url
  order : HashOrder
  path : String

section Commands

variable {Text : Type} (env : Env Text)

/-- `Config::from_str`, with the rules of the runtime loader. -/
def load (text : Text) : Except String Config :=
  Config.fromStr (Schema.tomlFromStr env.parseUrl env.crate) env.order text

/-- `Config::validate`. -/
def validate (text : Text) : Except String Unit := (load env text).map fun _ => ()

/-- `load_document`, of a file that may be missing. -/
def loadDocument : Option Text → Except String Entries
  | none => .ok []
  | some text => withContext (env.crate.parse text) s!"Failed to parse {env.path}"

/-- The text of a document, behind the skeleton when the file was just created. -/
def render (doc : Entries) (created : Bool) : Text :=
  let text := env.crate.print doc
  if created then env.crate.prepend (String.join (configSkeleton.map (· ++ "\n"))) text else text

/-- `save_with_skeleton`: the result is validated with the runtime rules first. -/
def saveWithSkeleton (doc : Entries) (created : Bool) : Except String Text := do
  validate env (env.crate.print doc)
  .ok (render env doc created)

/-- The nested table at the key, a new one when there is none. A table in braces is no table
here. -/
def ensureTable (kind : TableKind) (entries : Entries) (key : String) :
    Except String (TableKind × Entries) :=
  let created : Item := if kind.isInline then .table .inline [] else .table .header []
  okOrElse ((entries.lookup key).getD created).asTable s!"[{key}] is not a table in {env.path}"

/-- The section of a side, as a table of either kind. -/
def sectionOf (doc : Entries) (side : ServiceSide) : Except String (TableKind × Entries) :=
  okOrElse ((doc.lookup side.key).bind Item.asTableLike)
    s!"[{side.key}] is not a table in {env.path}"

/-- The services of a side, when they are a table of either kind. -/
def servicesOf (doc : Entries) (side : ServiceSide) : Option (TableKind × Entries) :=
  ((doc.lookup side.key).bind fun section_ => section_.get "services").bind Item.asTableLike

def serviceExists (doc : Entries) (side : ServiceSide) (name : String) : Bool :=
  match servicesOf doc side with
  | some (_, services) => (services.lookup name).isSome
  | none => false

structure ServiceInfo where
  name : String
  side : ServiceSide
  item : Item

def listServices (file : Option Text) : Except String (List ServiceInfo) := do
  let doc ← loadDocument env file
  let infos (side : ServiceSide) : List ServiceInfo :=
    match servicesOf doc side with
    | some (_, services) => services.map fun e => ⟨e.1, side, e.2⟩
    | none => []
  .ok (infos .client ++ infos .server)

/-- The first of the two sides that defines the service. -/
def definingSide (doc : Entries) (name : String) : Option ServiceSide :=
  [ServiceSide.client, .server].find? fun side => serviceExists doc side name

/-- The document is saved as it is. -/
def removeService (file : Option Text) (name : String) : Except String Text :=
  match file with
  | none => .error s!"Configuration file {env.path} does not exist"
  | some _ => do
    let doc ← loadDocument env file
    let side ← okOrElse (definingSide doc name) s!"No service named '{name}' in {env.path}"
    .ok (env.crate.print (doc.removeAt name [side.key, "services"]))

structure Removed where
  removed : String
  side : Option ServiceSide

def runRemove (file : Option Text) (entry : String) : Except String (Text × Removed) := do
  let services ← listServices env file
  let text ← removeService env file entry
  .ok (text, ⟨entry, (services.find? fun s => s.name = entry).map ServiceInfo.side⟩)

end Commands

end Rathole.ConfigEdit
