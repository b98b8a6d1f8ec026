import Rathole.ConfigEdit

set_option autoImplicit false

/- `config set`: the fields of a section and of its transport. -/
namespace Rathole.ConfigEdit

open Toml (Item Entries TableKind)

def transportKey : TransportType → String
  | .tcp => "tcp"
  | .tls => "tls"
  | .noise => "noise"
  | .websocket => "websocket"

/-- A missing field was not given. Numbers are of type `u64`. -/
structure SetArgs where
  client : Bool
  server : Bool
  remoteAddr : Option String
  bindAddr : Option String
  defaultToken : Option String
  preferIpv6 : Option Bool
  heartbeatTimeout : Option Nat
  retryInterval : Option Nat
  heartbeatInterval : Option Nat
  transport : Option TransportType
  noise : Bool
  noiseKey : Option String
  trustedRoot : Option String
  hostname : Option String
  pkcs12 : Option String
  pkcs12Password : Option String
  wsTls : Option Bool
  nodelay : Option Bool
  keepaliveSecs : Option Nat
  keepaliveInterval : Option Nat
  proxy : Option String

namespace SetArgs

variable (args : SetArgs)

def tlsRequested : Bool :=
  args.trustedRoot.isSome || args.hostname.isSome || args.pkcs12.isSome ||
    args.pkcs12Password.isSome

def tcpRequested : Bool :=
  args.nodelay.isSome || args.keepaliveSecs.isSome || args.keepaliveInterval.isSome ||
    args.proxy.isSome

def transportRequested : Bool :=
  args.transport.isSome || args.noise || args.noiseKey.isSome || args.tlsRequested ||
    args.wsTls.isSome || args.tcpRequested

def anyField : Bool :=
  args.remoteAddr.isSome || args.bindAddr.isSome || args.defaultToken.isSome ||
    args.preferIpv6.isSome || args.heartbeatTimeout.isSome || args.retryInterval.isSome ||
    args.heartbeatInterval.isSome || args.transportRequested

/-- No field of the other side. -/
def checkSide : ServiceSide → Except String Unit
  | .client =>
    if args.bindAddr.isSome then .error "--bind-addr is a [server] field"
    else if args.heartbeatInterval.isSome then .error "--heartbeat-interval is a [server] field"
    else if args.pkcs12.isSome || args.pkcs12Password.isSome then
      .error "--pkcs12/--pkcs12-password are [server] fields"
    else if args.noise then
      .error ("--noise (keypair generation) is server-side; " ++
        "clients set --noise-key <SERVER_PUBLIC_KEY>")
    else .ok ()
  | .server =>
    if args.remoteAddr.isSome then .error "--remote-addr is a [client] field"
    else if args.preferIpv6.isSome then .error "--prefer-ipv6 is a [client] field"
    else if args.heartbeatTimeout.isSome then .error "--heartbeat-timeout is a [client] field"
    else if args.retryInterval.isSome then .error "--retry-interval is a [client] field"
    else if args.trustedRoot.isSome || args.hostname.isSome then
      .error "--trusted-root/--hostname are [client] fields"
    else if args.noiseKey.isSome then
      .error "--noise-key is a [client] field; servers use --noise"
    else .ok ()

/-- The type that the flags imply. -/
def impliedType : Option TransportType :=
  if args.noise || args.noiseKey.isSome then some .noise
  else if args.tlsRequested then some .tls
  else if args.wsTls.isSome then some .websocket
  else none

end SetArgs

def insertSome (kind : TableKind) (entries : Entries) (key : String) : Option Item → Entries
  | some item => entries.insert kind key item
  | none => entries

/-- `i64::try_from`. -/
def seconds : Option Nat → Except String (Option Item)
  | none => .ok none
  | some v =>
    if v < 2 ^ 63 then .ok (some (.integer v))
    else .error "out of range integral type conversion attempted"

section Set

variable {Text : Type} (env : Env Text) (args : SetArgs)

/-- The flag of a side, else the role that the file declares. -/
def setSide (file : Option Text) : Except String ServiceSide :=
  match args.client, args.server with
  | true, false => .ok .client
  | false, true => .ok .server
  | true, true => .error "--client and --server are mutually exclusive"
  | false, false =>
    match loadDocument env file with
    | .error _ => .error "Exactly one of --client or --server is required"
    | .ok doc =>
      match (doc.lookup "client").isSome, (doc.lookup "server").isSome with
      | true, false => .ok .client
      | false, true => .ok .server
      | true, true => (detectRole doc).map fun _ => .client
      | false, false => .error "Exactly one of --client or --server is required"

def checkAddr (flag : String) : Option String → Except String Unit
  | some addr => validateHostPort addr flag
  | none => .ok ()

def checkValues : Except String Unit := do
  checkAddr "--remote-addr" args.remoteAddr
  checkAddr "--bind-addr" args.bindAddr
  match args.proxy with
  | some p => bailIf (env.parseUrl p).isNone s!"Invalid --proxy URL '{p}'"
  | none => .ok ()

/-- A new section has the address of the control channel, and services. -/
def createSection (doc : Entries) (side : ServiceSide) : Except String Entries :=
  if (doc.lookup side.key).isSome then .ok doc
  else
    let create (key addr : String) : Entries :=
      Toml.insertKey doc side.key
        (.table .header [(key, .string addr), ("services", .table .header [])])
    match side with
    | .client => (okOrElse args.remoteAddr
        "creating a new [client] section requires --remote-addr").map (create "remote_addr")
    | .server => (okOrElse args.bindAddr
        "creating a new [server] section requires --bind-addr").map (create "bind_addr")

def setFields (kind : TableKind) (entries : Entries) : Except String Entries := do
  let entries := insertSome kind entries "remote_addr" (args.remoteAddr.map .string)
  let entries := insertSome kind entries "bind_addr" (args.bindAddr.map .string)
  let entries := insertSome kind entries "default_token" (args.defaultToken.map .string)
  let entries := insertSome kind entries "prefer_ipv6" (args.preferIpv6.map .boolean)
  let entries := insertSome kind entries "heartbeat_timeout" (← seconds args.heartbeatTimeout)
  let entries := insertSome kind entries "retry_interval" (← seconds args.retryInterval)
  .ok (insertSome kind entries "heartbeat_interval" (← seconds args.heartbeatInterval))

def setTls (kind : TableKind) (entries : Entries) : Except String Entries :=
  let entries := insertSome kind entries "trusted_root" (args.trustedRoot.map .string)
  let entries := insertSome kind entries "hostname" (args.hostname.map .string)
  let entries := insertSome kind entries "pkcs12" (args.pkcs12.map .string)
  .ok (insertSome kind entries "pkcs12_password" (args.pkcs12Password.map .string))

def setTcp (kind : TableKind) (entries : Entries) : Except String Entries := do
  let entries := insertSome kind entries "nodelay" (args.nodelay.map .boolean)
  let entries := insertSome kind entries "keepalive_secs" (← seconds args.keepaliveSecs)
  let entries := insertSome kind entries "keepalive_interval" (← seconds args.keepaliveInterval)
  .ok (insertSome kind entries "proxy" (args.proxy.map .string))

/-- The explicit type, else the implied one. A type that is there stays, and a new table has
the type `tcp`. -/
def setType (kind : TableKind) (entries : Entries) : Entries :=
  let entries := insertSome kind entries "type"
    ((args.transport.or args.impliedType).map fun t => .string (transportKey t))
  if (entries.lookup "type").isNone then entries.insert kind "type" (.string "tcp") else entries

/-- The nested table, when one of its fields is given. -/
def setNested (given : Bool) (kind : TableKind) (entries : Entries) (key : String)
    (f : TableKind → Entries → Except String Entries) : Except String Entries :=
  if given then do
    let (inner, table) ← ensureTable env kind entries key
    let table ← f inner table
    .ok (Toml.insertKey entries key (.table inner table))
  else .ok entries

/-- `keypair` is what `generate_keypair` answers, a private and a public key. -/
def setNoise (keypair : Except String (String × String)) (kind : TableKind) (entries : Entries) :
    Except String Entries :=
  if args.noise then do
    let keys ← keypair
    setNested env true kind entries "noise" fun kind noise =>
      .ok (noise.insert kind "local_private_key" (.string keys.1))
  else .ok entries

def setTransport (keypair : Except String (String × String)) (kind : TableKind)
    (entries : Entries) : Except String Entries := do
  let entries := setType args kind entries
  let entries ← setNoise env args keypair kind entries
  let entries ← setNested env args.noiseKey.isSome kind entries "noise" fun kind noise =>
    .ok (insertSome kind noise "remote_public_key" (args.noiseKey.map .string))
  let entries ← setNested env args.tlsRequested kind entries "tls" (setTls args)
  let entries ← setNested env args.wsTls.isSome kind entries "websocket" fun kind ws =>
    .ok (insertSome kind ws "tls" (args.wsTls.map .boolean))
  setNested env args.tcpRequested kind entries "tcp" (setTcp args)

structure SetResult where
  side : ServiceSide
  section_ : Option Item
  generated : Option (String × String)
  created : Bool

def runSet (keypair : Except String (String × String)) (file : Option Text) :
    Except String (Text × SetResult) := do
  let side ← setSide env args file
  bailIf (!args.anyField) "No fields given; see `rathole-x config set --help`"
  args.checkSide side
  checkValues env args
  let doc ← loadDocument env file
  ensureRoleAllows doc side
  let doc ← createSection args doc side
  let (kind, entries) ← sectionOf env doc side
  let entries ← setFields args kind entries
  let entries ← setNested env args.transportRequested kind entries "transport"
    (setTransport env args keypair)
  let doc := Toml.insertKey doc side.key (.table kind entries)
  withContext (validate env (env.crate.print doc))
    s!"Refusing to save an invalid configuration to {env.path}"
  let generated := if args.noise then keypair.toOption else none
  .ok (render env doc file.isNone, ⟨side, doc.lookup side.key, generated, file.isNone⟩)

end Set

end Rathole.ConfigEdit
