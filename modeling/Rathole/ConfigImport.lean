import Rathole.ConfigEdit

set_option autoImplicit false

/- `config import`: the supported subset of an old configuration, with a report of what was
applied, skipped and ignored. -/
namespace Rathole.ConfigEdit

open Toml (Item Entries TableKind)

inductive ScalarKind
  | str | int | bool
  deriving DecidableEq

def ScalarKind.matches_ : ScalarKind → Item → Bool
  | str, .string _ => true
  | int, .integer _ => true
  | bool, .boolean _ => true
  | _, _ => false

abbrev ImportKeys := List (String × ScalarKind)

def clientImportGlobals : ImportKeys :=
  [("remote_addr", .str), ("default_token", .str), ("prefer_ipv6", .bool),
    ("heartbeat_timeout", .int), ("retry_interval", .int)]

def serverImportGlobals : ImportKeys :=
  [("bind_addr", .str), ("default_token", .str), ("heartbeat_interval", .int)]

def transportImportKeys : List String := ["type", "tcp", "tls", "noise", "websocket"]

def tcpImportKeys : ImportKeys :=
  [("nodelay", .bool), ("keepalive_secs", .int), ("keepalive_interval", .int), ("proxy", .str)]

def tlsImportKeys : ImportKeys :=
  [("hostname", .str), ("trusted_root", .str), ("pkcs12", .str), ("pkcs12_password", .str)]

def noiseImportKeys : ImportKeys :=
  [("pattern", .str), ("local_private_key", .str), ("remote_public_key", .str)]

def websocketImportKeys : ImportKeys := [("tls", .bool)]

def clientServiceImportKeys : ImportKeys :=
  [("type", .str), ("local_addr", .str), ("token", .str), ("nodelay", .bool),
    ("retry_interval", .int), ("prefer_ipv6", .bool)]

def serverServiceImportKeys : ImportKeys :=
  [("type", .str), ("bind_addr", .str), ("token", .str), ("nodelay", .bool)]

/-- The tables of a transport, in the order in which they are copied. -/
def transportImportSubkeys : List (String × ImportKeys) :=
  [("tcp", tcpImportKeys), ("tls", tlsImportKeys), ("noise", noiseImportKeys),
    ("websocket", websocketImportKeys)]

def ServiceSide.importGlobals : ServiceSide → ImportKeys
  | client => clientImportGlobals
  | server => serverImportGlobals

def ServiceSide.serviceImportKeys : ServiceSide → ImportKeys
  | client => clientServiceImportKeys
  | server => serverServiceImportKeys

/-- The key of the control channel address of a section. -/
def ServiceSide.sectionAddrKey : ServiceSide → String
  | client => "remote_addr"
  | server => "bind_addr"

def ServiceRole.side : ServiceRole → ServiceSide
  | client => .client
  | server => .server

/-- `validate_service_name`. -/
def validateServiceName (name : String) : Except String Unit :=
  if name = "" ∨ ¬ name.toList.all (fun c => c.isAlphanum || c = '-' || c = '_') then
    .error s!"Invalid service name '{name}': use letters, digits, '-' or '_' only"
  else .ok ()

structure Imported where
  fields : List String
  transport : Bool
  services : List String
  existingServices : List String
  invalidServices : List (String × String)
  ignored : List String
  deriving DecidableEq

namespace Imported

def start : Imported := ⟨[], false, [], [], [], []⟩

def ignore (r : Imported) (key : String) : Imported := { r with ignored := r.ignored ++ [key] }

def apply (r : Imported) (field : String) : Imported := { r with fields := r.fields ++ [field] }

def skip (r : Imported) (name reason : String) : Imported :=
  { r with invalidServices := r.invalidServices ++ [(name, reason)] }

/-- The keys of a table that are not among the known ones. -/
def ignoreUnknown (r : Imported) (known : String → Bool) (label : String → String)
    (table : Entries) : Imported :=
  { r with ignored := r.ignored ++
    (table.filter fun e => known e.1 = false).map fun e => label e.1 }

end Imported

def ImportKeys.has (keys : ImportKeys) (key : String) : Bool := keys.any fun k => k.1 = key

/-- Why a global field of the right kind is not taken. -/
def rejectGlobal (side : ServiceSide) (key : String) (kind : ScalarKind) (item : Item) :
    Option String :=
  if key = "remote_addr" ∨ key = "bind_addr" then
    match validateHostPort (item.asStr.getD "") key with
    | .ok () => none
    | .error e => some e
  else if key = "default_token" ∧ item.asStr.all String.isEmpty = true then some "empty token"
  else if side = .client ∧ key = "retry_interval" then
    if item.asInteger.all (· ≤ 0) = true then some "must be greater than 0" else none
  else if kind = .int then
    if item.asInteger.any (· < 0) = true then some "negative value" else none
  else none

/-- One turn of the loop over the global fields. -/
def importGlobal (side : ServiceSide) (src : Entries) (kind : TableKind)
    (state : Entries × Imported) (field : String × ScalarKind) : Entries × Imported :=
  let (section_, r) := state
  match src.lookup field.1 with
  | none => state
  | some item =>
    if field.2.matches_ item = false then
      (section_, r.ignore s!"{side.key}.{field.1} (unexpected value type)")
    else
      match rejectGlobal side field.1 field.2 item with
      | some reason => (section_, r.ignore s!"{side.key}.{field.1} ({reason})")
      | none => (section_.insert kind field.1 item, r.apply field.1)

/-- A field of a nested table, when it is of its kind. -/
def importScalar (label : String) (src : Entries) (kind : TableKind)
    (state : Entries × Imported) (field : String × ScalarKind) : Entries × Imported :=
  let (entries, r) := state
  match src.lookup field.1 with
  | none => state
  | some item =>
    if field.2.matches_ item then (entries.insert kind field.1 item, r)
    else (entries, r.ignore s!"{label}.{field.1} (unexpected value type)")

def importType (label : String) (src : Entries) (kind : TableKind) (state : Entries × Imported) :
    Entries × Imported :=
  let (transport, r) := state
  match src.lookup "type" with
  | none => state
  | some item =>
    match item.asStr with
    | some s =>
      if s ∈ ["tcp", "tls", "noise", "websocket"] then
        (transport.insert kind "type" (.string s), r)
      else (transport, r.ignore s!"{label}.type (unknown type `{s}`)")
    | none => (transport, r.ignore s!"{label}.type (not a string)")

def importedType (src : Entries) : Except String Entries :=
  match src.lookup "type" with
  | none => .ok []
  | some item => do
    let s ← okOrElse item.asStr "service type is not a string"
    bailIf (s ≠ "tcp" ∧ s ≠ "udp") s!"unknown service type `{s}`"
    .ok [("type", .string s)]

def importedAddr (key : String) (src : Entries) : Except String Entries := do
  let a ← okOrElse ((src.lookup key).bind Item.asStr) s!"missing or invalid {key}"
  bailIf (!(validateHostPort a key).isOk) s!"missing or invalid {key}"
  .ok [(key, .string a)]

def importedToken (defaultTokenPresent : Bool) (src : Entries) : Except String Entries :=
  match src.lookup "token" with
  | some item => do
    let t ← okOrElse item.asStr "token is not a non-empty string"
    bailIf (t = "") "token is not a non-empty string"
    .ok [("token", .string t)]
  | none => do
    bailIf (!defaultTokenPresent) "no token and no default_token available"
    .ok []

/-- The part of a service entry without which it is skipped, or the reason for that. -/
def importedEntry (side : ServiceSide) (defaultTokenPresent : Bool) (src : Entries) :
    Except String Entries := do
  let type ← importedType src
  let addr ← importedAddr side.serviceAddrKey src
  let token ← importedToken defaultTokenPresent src
  .ok (type ++ addr ++ token)

/-- The other fields of a service entry. -/
def otherServiceKeys (side : ServiceSide) : ImportKeys :=
  side.serviceImportKeys.filter fun k => k.1 ∉ ["type", "local_addr", "bind_addr", "token"]

/-- One turn of the loop over the services of the old configuration. -/
def importService (side : ServiceSide) (existing : List String) (defaultTokenPresent : Bool)
    (kind : TableKind) (state : Entries × Imported) (e : String × Item) : Entries × Imported :=
  let (services, r) := state
  let (name, item) := e
  if name ∈ existing then
    (services, { r with existingServices := r.existingServices ++ [name] })
  else
    match validateServiceName name with
    | .error e => (services, r.skip name e)
    | .ok () =>
      match item.asTableLike with
      | none => (services, r.skip name "entry is not a table")
      | some (_, src) =>
        let label := s!"{side.key}.services.{name}"
        let r := r.ignoreUnknown side.serviceImportKeys.has (fun k => s!"{label}.{k}") src
        match importedEntry side defaultTokenPresent src with
        | .error reason => (services, r.skip name reason)
        | .ok entry =>
          let (entry, r) := (otherServiceKeys side).foldl (importScalar label src .header) (entry, r)
          (services.insert kind name (.table .header entry),
            { r with services := r.services ++ [name] })

/-- A new section has services; its address is among the fields that are imported. -/
def withImportSection (doc : Entries) (side : ServiceSide) : Entries :=
  if (doc.lookup side.key).isNone then
    Toml.insertKey doc side.key (.table .header [("services", .table .header [])])
  else doc

section Import

variable {Text : Type} (env : Env Text)

/-- One of the tables of the transport. -/
def importSub (label : String) (src : Entries) (kind : TableKind) (state : Entries × Imported)
    (sub : String × ImportKeys) : Except String (Entries × Imported) :=
  let (transport, r) := state
  let label := s!"{label}.{sub.1}"
  match src.lookup sub.1 with
  | none => .ok state
  | some item =>
    match item.asTableLike with
    | none => .ok (transport, r.ignore s!"{label} (not a table)")
    | some (_, src) => do
      let (inner, table) ← ensureTable env kind transport sub.1
      let r := r.ignoreUnknown sub.2.has (fun k => s!"{label}.{k}") src
      let (table, r) := sub.2.foldl (importScalar label src inner) (table, r)
      .ok (Toml.insertKey transport sub.1 (.table inner table), r)

def importTransport (side : ServiceSide) (src : Entries) (kind : TableKind)
    (state : Entries × Imported) : Except String (Entries × Imported) :=
  let (section_, r) := state
  let label := s!"{side.key}.transport"
  match src.lookup "transport" with
  | none => .ok state
  | some item =>
    match item.asTableLike with
    | none => .ok (section_, r.ignore s!"{label} (not a table)")
    | some (_, src) => do
      let (inner, transport) ← ensureTable env kind section_ "transport"
      let r := { r with transport := true }
      let r := r.ignoreUnknown (fun k => decide (k ∈ transportImportKeys))
        (fun k => s!"{label}.{k}") src
      let (transport, r) ← transportImportSubkeys.foldlM (importSub env label src inner)
        (importType label src inner (transport, r))
      .ok (Toml.insertKey section_ "transport" (.table inner transport), r)

def importServices (side : ServiceSide) (src : Entries) (kind : TableKind)
    (state : Entries × Imported) : Except String (Entries × Imported) :=
  let (section_, r) := state
  let existing := match (section_.lookup "services").bind Item.asTableLike with
    | some (_, services) => services.map Prod.fst
    | none => []
  let defaultTokenPresent :=
    ((section_.lookup "default_token").bind Item.asStr).any fun t => t ≠ ""
  match src.lookup "services" with
  | none => .ok state
  | some item =>
    match item.asTableLike with
    | none => .ok (section_, r.ignore s!"{side.key}.services (not a table)")
    | some (_, src) => do
      let (inner, services) ← ensureTable env kind section_ "services"
      let (services, r) := src.foldl (importService side existing defaultTokenPresent inner)
        (services, r)
      .ok (Toml.insertKey section_ "services" (.table inner services), r)

/-- The keys of a section that are fields or handled as tables of their own. -/
def knownSectionKey (side : ServiceSide) (key : String) : Bool :=
  side.importGlobals.has key || key = "transport" || key = "services"

/-- The import into the section of the target. -/
def importSection (side : ServiceSide) (src : Entries) (kind : TableKind) (section_ : Entries) :
    Except String (Entries × Imported) := do
  let (section_, r) := side.importGlobals.foldl (importGlobal side src kind) (section_, .start)
  let r := r.ignoreUnknown (knownSectionKey side) (fun k => s!"{side.key}.{k}") src
  let state ← importTransport env side src kind (section_, r)
  importServices env side src kind state

/-- `old` is what reading the old configuration answers. -/
def runImport (source : String) (old : Except String Text) (file : Option Text) :
    Except String (Text × ServiceSide × Imported) := do
  let text ← withContext old s!"Failed to read old config {source}"
  let src ← withContext (env.crate.parse text) s!"Failed to parse old config {source}"
  let role ← withContext (detectRole src) s!"invalid old config {source}"
  let side := role.side
  let (_, srcSection) ← okOrElse ((src.lookup side.key).bind Item.asTableLike)
    s!"[{side.key}] is not a table in {source}"
  let doc ← loadDocument env file
  withContext (ensureRoleAllows doc side) s!"cannot import a {role.key} config into {env.path}"
  let addrKey := side.sectionAddrKey
  bailIf ((doc.lookup side.key).isNone ∧ ((srcSection.lookup addrKey).bind Item.asStr).isNone)
    (s!"old config has no [{side.key}].{addrKey}; cannot create the [{side.key}] section " ++
      s!"in {env.path}")
  let doc := withImportSection doc side
  let (kind, section_) ← sectionOf env doc side
  let (section_, r) ← importSection env side srcSection kind section_
  let doc := Toml.insertKey doc side.key (.table kind section_)
  let text ← saveWithSkeleton env doc file.isNone
  .ok (text, side, r)

end Import

end Rathole.ConfigEdit
