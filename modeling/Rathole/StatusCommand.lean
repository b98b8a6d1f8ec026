import Rathole.ConfigWrite
import Rathole.StatusShown

set_option autoImplicit false

/- `rathole-x status` as a whole, and that nothing it prints or returns depends on a secret of a
configuration or on the order of a hash map. -/
namespace Rathole.StatusCommand

open RuntimeStatus
open Json (Value)
open ConfigEdit (FilePath Os ServiceRole detectRole validateServiceName)
open ConfigEdit.FilePath (stemAndExtension)

/-- `json!` of an object: a `Map` lists its fields in the order of the keys. -/
def json (fields : List (String × Value)) : Value := .object (sortByName fields)

mutual

/-- `serde_json::to_value`: the objects in a value become such maps. -/
def toValue : Value → Value
  | .array items => .array (toValues items)
  | .object fields => json (toFields fields)
  | v => v

def toValues : List Value → List Value
  | [] => []
  | v :: rest => toValue v :: toValues rest

def toFields : List (String × Value) → List (String × Value)
  | [] => []
  | (key, v) :: rest => (key, toValue v) :: toFields rest

end

def typeText : ServiceType → String
  | .tcp => "tcp"
  | .udp => "udp"

def serviceJson (addrKey addr : String) (serviceType : ServiceType) (token : Bool) : Value :=
  json [(addrKey, .string addr), ("type", .string (typeText serviceType)),
    ("token_set", .bool token)]

def clientJson (order : HashOrder) (c : ClientConfig) : Value :=
  let services := (sortByName (order.entries c.services)).map fun e =>
    (e.1, serviceJson "local_addr" e.2.localAddr e.2.serviceType e.2.token.isSome)
  json [("remote_addr", .string c.remoteAddr),
    ("transport", .string (transportLabel c.transport)),
    ("default_token_set", .bool c.defaultToken.isSome),
    ("services", json services)]

def serverJson (order : HashOrder) (s : ServerConfig) : Value :=
  let services := (sortByName (order.entries s.services)).map fun e =>
    (e.1, serviceJson "bind_addr" e.2.bindAddr e.2.serviceType e.2.token.isSome)
  json [("bind_addr", .string s.bindAddr),
    ("transport", .string (transportLabel s.transport)),
    ("default_token_set", .bool s.defaultToken.isSome),
    ("services", json services)]

inductive ReadError
  | notFound | other
  deriving DecidableEq

/-- A service as its manager sees it: the name of the state, and the process. -/
abbrev ServiceState := String × Option Nat

/-- What the command asks its surroundings. They answer the same during one command. -/
structure System where
  os : Os
  tty : Bool
  configDir : String
  readToString : FilePath → Except ReadError String
  /-- `toml::from_str`, without its error. -/
  fromStr : String → Option Config
  /-- `str::parse` of a document, without its error. -/
  parse : String → Option Toml.Entries
  /-- The names in a directory, in the order of the system. -/
  readDir : String → Option (List String)
  versionExists : FilePath → Bool
  writableByCurrentUser : FilePath → Bool
  queryRuntimeStatus : FilePath → Except String RuntimeSnapshot
  queryNamedService : (role name : String) → Option ServiceState

structure StatusArgs where
  config : Option FilePath
  name : Option String
  json : Bool

namespace System

variable (sys : System)

/-- The configuration in a file: whether the text can be read, and what it says. -/
def config (path : FilePath) : Except ReadError (Option Config) :=
  (sys.readToString path).map sys.fromStr

def serviceConfig (name : String) : FilePath := ⟨sys.configDir, s!"{name}.toml"⟩

/-- `load_document`, without its error. -/
def document (path : FilePath) : Option Toml.Entries :=
  (sys.readToString path).toOption.bind sys.parse

/-- The service that a file of the directory of configurations makes. -/
def installed (file : String) : Option (String × ServiceRole) :=
  let (stem, extension) := stemAndExtension file
  if extension ≠ some "toml" ∨ stem = "version" then none
  else do
    let doc ← sys.document ⟨sys.configDir, file⟩
    let role ← (detectRole doc).toOption
    some (stem, role)

/-- `out.sort()` goes by the names, which are distinct. A directory that cannot be read has none. -/
def listInstalledServices : Except String (List (String × ServiceRole)) :=
  .ok (sortByName (((sys.readDir sys.configDir).getD []).filterMap sys.installed))

structure Runtime where
  value : Value
  snapshot : Option RuntimeSnapshot
  unavailable : Option String

def runtimeStatusFor (path : FilePath) : Runtime :=
  match sys.queryRuntimeStatus path with
  | .ok snapshot => ⟨toValue snapshot.value, some snapshot, none⟩
  | .error error => ⟨.null, none, some s!"local endpoint unavailable: {error}"⟩

def availability (runtime : Runtime) : Value :=
  json [("available", .bool runtime.snapshot.isSome),
    ("reason", ofOption .string runtime.unavailable)]

def lines (texts : List String) : String := String.join (texts.map fun text => text ++ "\n")

def printRuntimeHuman (runtime : Runtime) : String :=
  match runtime.snapshot with
  | some snapshot =>
    s!"Runtime: {snapshot.role.name} (pid {snapshot.processId}, " ++
      s!"snapshot {snapshot.capturedAtUnixMs})"
  | none =>
    let reason := runtime.unavailable.getD "local endpoint did not return a snapshot"
    "Runtime: " ++ colorize sys.tty ("unavailable — " ++ reason) yellow

def access : Except ReadError (Option Config) → String
  | .ok _ => "readable"
  | .error .notFound => "missing"
  | .error .other => "denied"

def hint (access : String) : String :=
  if access = "missing" then
    "config file missing — run `rathole-x service install server|client --yes`"
  else if access = "denied" then
    "config permission denied — static config tree hidden; service and runtime state above " ++
      "remain readable"
  else "invalid configuration — run `rathole-x config set` or fix the file"

def serviceLine (name : String) (service : Option ServiceState) (stateKnown : Bool) : String :=
  match service with
  | some (state, pid) =>
    let colored :=
      if state = "Running" then colorize sys.tty state green
      else if state = "Stopped" then colorize sys.tty state red
      else colorize sys.tty state yellow
    match pid with
    | some pid => s!"Service: {name} — {colored} (pid {pid})"
    | none => s!"Service: {name} — {colored}"
  | none =>
    if stateKnown = false then
      s!"Service: {name} — " ++
        colorize sys.tty "unknown (config outside the service directory)" yellow
    else s!"Service: {name} — " ++ colorize sys.tty "not installed" yellow

/-- `render_one`: what it prints, and the result. -/
def renderOne (order : HashOrder) (args : StatusArgs) (name : String) (path : FilePath)
    (service : Option ServiceState) (stateKnown : Bool) : String × Value :=
  let content := sys.config path
  let parsed := content.toOption.bind id
  let runtime := sys.runtimeStatusFor path
  let result := json [
    ("service", json [("name", .string name), ("state", ofOption .string (service.map Prod.fst)),
      ("pid", ofOption ofNat (service.bind Prod.snd))]),
    ("config", json [("path", .string path.display), ("exists", .bool content.toOption.isSome),
      ("readable", .bool content.isOk), ("access", .string (access content)),
      ("valid", .bool parsed.isSome),
      ("auth", json [("version_file_exists", .bool (sys.versionExists path)),
        ("writable_by_user", .bool (sys.writableByCurrentUser path))])]),
    ("client", ofOption (clientJson order) (parsed.bind fun c => c.client)),
    ("server", ofOption (serverJson order) (parsed.bind fun c => c.server)),
    ("runtime", runtime.value),
    ("runtime_availability", availability runtime)]
  if args.json then ("", result)
  else
    let head := lines [
      colorize sys.tty s!"rathole-x status: {name}" green, "",
      sys.serviceLine name service stateKnown,
      s!"Config:  {path.display}",
      "Auth:    version stamp: " ++ (if sys.versionExists path then "yes" else "none") ++
        " | writable by you: " ++
        (if sys.writableByCurrentUser path then "yes" else "no (UAC)"),
      sys.printRuntimeHuman runtime, ""]
    let body :=
      match parsed with
      | some config => renderTree (configTree sys.tty order runtime.snapshot config) "" true
      | none => lines [colorize sys.tty (hint (access content)) yellow]
    (head ++ body, result)

def configRole (path : FilePath) : Option ServiceRole :=
  ((sys.config path).toOption.bind id).map fun c =>
    if c.client.isSome then .client else .server

def runtimeRole (path : FilePath) : Option ServiceRole :=
  (sys.queryRuntimeStatus path).toOption.map fun snapshot =>
    match snapshot.role with
    | .client => .client
    | .server => .server

/-- `service_state_for`. -/
def serviceStateFor (name : String) (path : FilePath) : Option ServiceState :=
  match sys.os with
  | .windows => ((sys.runtimeRole path).or (sys.configRole path)).bind fun role =>
      sys.queryNamedService role.key name
  | .linux => (sys.configRole path).bind fun role => sys.queryNamedService role.key name
  | .other => none

/-- The state of a listed service; other platforms have no service manager. -/
def listedState (role : ServiceRole) (name : String) : Option ServiceState :=
  match sys.os with
  | .windows | .linux => sys.queryNamedService role.key name
  | .other => none

def listed (name : String) (role : ServiceRole) : Value :=
  let runtime := sys.runtimeStatusFor (sys.serviceConfig name)
  json [("name", .string name), ("role", .string role.key),
    ("state", ofOption .string ((sys.listedState role name).map Prod.fst)),
    ("pid", ofOption ofNat ((sys.listedState role name).bind Prod.snd)),
    ("runtime", runtime.value),
    ("runtime_availability", availability runtime)]

/-- `{:n}`. -/
def pad (n : Nat) (s : String) : String := s ++ String.ofList (List.replicate (n - s.length) ' ')

def roleOf : Value → Option String
  | .object fields => (fields.lookup "role").bind readString
  | _ => none

def listedLine (name : String) (role : ServiceRole) : String :=
  let state :=
    match sys.listedState role name with
    | some (s, some pid) => s!"{s} (pid {pid})"
    | some (s, none) => s
    | none => "not installed"
  let runtime := ((roleOf (sys.runtimeStatusFor (sys.serviceConfig name)).value).map fun role =>
    "runtime " ++ role).getD "runtime unavailable"
  pad 12 name ++ " " ++ pad 8 role.key ++ " " ++ state ++ " | " ++ runtime

def listAll (args : StatusArgs) : Except String (String × Value) :=
  sys.listInstalledServices.map fun installed =>
    let services := sortByName installed
    let result := json [("services", .array (services.map fun s => sys.listed s.1 s.2))]
    if args.json then ("", result)
    else
      let body :=
        if services.isEmpty then
          [colorize sys.tty
            "no installed services — run `rathole-x service install server|client --yes`" yellow]
        else
          services.map (fun s => sys.listedLine s.1 s.2) ++
            ["", "Run `rathole-x status --name <name>` for the full config tree."]
      (lines ([colorize sys.tty "rathole-x services" green, ""] ++ body), result)

/-- `run_status`. -/
def runStatus (order : HashOrder) (args : StatusArgs) : Except String (String × Value) :=
  match args.name with
  | some name =>
    match validateServiceName name with
    | .error e => .error e
    | .ok () =>
      let path := args.config.getD (sys.serviceConfig name)
      .ok (sys.renderOne order args name path (sys.serviceStateFor name path) true)
  | none =>
    match args.config with
    | some path =>
      let name := (path.fileName.map fun n => (stemAndExtension n).1).getD "config"
      let stateKnown := path.parent = some sys.configDir
      let service := if stateKnown then sys.serviceStateFor name path else none
      .ok (sys.renderOne order args name path service stateKnown)
    | none => sys.listAll args

end System

/-- A configuration with nothing secret in it. -/
def maskedTransport (t : TransportConfig) : TransportConfig :=
  { t with
    tcp := { t.tcp with proxy := none }
    tls := t.tls.map fun tls => { tls with pkcs12Password := tls.pkcs12Password.map fun _ => "" }
    noise := t.noise.map fun n =>
      { n with
        localPrivateKey := n.localPrivateKey.map fun _ => ""
        remotePublicKey := n.remotePublicKey.map fun _ => "" } }

def maskedClient (c : ClientConfig) : ClientConfig :=
  { c with
    defaultToken := c.defaultToken.map fun _ => ""
    services := mapEntries (fun s => { s with token := s.token.map fun _ => "" }) c.services
    transport := maskedTransport c.transport }

def maskedServer (s : ServerConfig) : ServerConfig :=
  { s with
    defaultToken := s.defaultToken.map fun _ => ""
    services := mapEntries (fun v => { v with token := v.token.map fun _ => "" }) s.services
    transport := maskedTransport s.transport }

def masked (config : Config) : Config where
  server := config.server.map maskedServer
  client := config.client.map maskedClient

section Masked

theorem sortedEntries_mapEntries {V : Type} (f : V → V) (m : HashMap String V) :
    sortedEntries (mapEntries f m) = (sortedEntries m).map fun e => (e.1, f e.2) := by
  have keys : (mapEntries f m).keys = m.keys := by
    apply Finset.ext
    intro k
    rw [Finmap.mem_keys, Finmap.mem_keys, ← Finmap.lookup_isSome, ← Finmap.lookup_isSome,
      lookup_mapEntries, Option.isSome_map]
  rw [sortedEntries, sortedEntries, keys, List.map_filterMap]
  apply List.filterMap_congr
  intro k _
  rw [lookup_mapEntries, Option.map_map, Option.map_map]
  rfl

theorem shownTransport_masked (t : TransportConfig) :
    shownTransport (maskedTransport t) = shownTransport t := by
  obtain ⟨type, tcp, tls, noise, websocket⟩ := t
  simp only [shownTransport, maskedTransport, transportLabel, transportDetail]
  cases type with
  | tcp => rfl
  | websocket => rfl
  | tls => cases tls <;> rfl
  | noise =>
    cases noise with
    | none => rfl
    | some n => simp [Option.isSome_map]

theorem shownClient_masked (c : ClientConfig) : shownClient (maskedClient c) = shownClient c := by
  simp only [shownClient, maskedClient, shownTransport_masked, sortedEntries_mapEntries,
    List.map_map, Option.isSome_map, Function.comp_def]
  rfl

theorem shownServer_masked (s : ServerConfig) : shownServer (maskedServer s) = shownServer s := by
  simp only [shownServer, maskedServer, shownTransport_masked, sortedEntries_mapEntries,
    List.map_map, Option.isSome_map, Function.comp_def]

theorem shownConfig_masked (config : Config) :
    shownConfig (masked config) = shownConfig config := by
  simp only [shownConfig, masked, Option.map_map, Function.comp_def, shownClient_masked,
    shownServer_masked]

/-- The values as functions of what is shown. -/
def servicesJson (addrKey : String) (services : List ShownService) : Value :=
  json (services.map fun s => (s.name, serviceJson addrKey s.addr s.serviceType s.token))

theorem clientJson_eq (order : HashOrder) (c : ClientConfig) : clientJson order c =
    json [("remote_addr", .string (shownClient c).remoteAddr),
      ("transport", .string (shownClient c).transport.label),
      ("default_token_set", .bool (shownClient c).defaultToken),
      ("services", servicesJson "local_addr" (shownClient c).services)] := by
  simp only [clientJson, servicesJson, shownClient, sortByName_entries, List.map_map]
  rfl

theorem serverJson_eq (order : HashOrder) (s : ServerConfig) : serverJson order s =
    json [("bind_addr", .string (shownServer s).bindAddr),
      ("transport", .string (shownServer s).transport.label),
      ("default_token_set", .bool (shownServer s).defaultToken),
      ("services", servicesJson "bind_addr" (shownServer s).services)] := by
  simp only [serverJson, servicesJson, shownServer, sortByName_entries, List.map_map]
  rfl

theorem clientJson_same (order order' : HashOrder) {c c' : ClientConfig}
    (same : shownClient c = shownClient c') : clientJson order c = clientJson order' c' := by
  rw [clientJson_eq, clientJson_eq, same]

theorem serverJson_same (order order' : HashOrder) {s s' : ServerConfig}
    (same : shownServer s = shownServer s') : serverJson order s = serverJson order' s' := by
  rw [serverJson_eq, serverJson_eq, same]

theorem map_same {A B C : Type} {f : A → B} {g g' : A → C} {a b : Option A}
    (same : a.map f = b.map f) (each : ∀ x y, f x = f y → g x = g' y) : a.map g = b.map g' := by
  cases a with
  | none =>
    cases b with
    | none => rfl
    | some y => cases same
  | some x =>
    cases b with
    | none => cases same
    | some y => rw [Option.map_some, Option.map_some, each x y (Option.some.inj same)]

end Masked

/-- Two systems that differ only in secrets of configurations: every file can be read or not, and
what it says is the same but for them. -/
structure Alike (a b : System) : Prop where
  os : a.os = b.os
  tty : a.tty = b.tty
  configDir : a.configDir = b.configDir
  config : ∀ path, (a.config path).map (Option.map masked) = (b.config path).map (Option.map masked)
  versionExists : a.versionExists = b.versionExists
  writable : a.writableByCurrentUser = b.writableByCurrentUser
  runtime : a.queryRuntimeStatus = b.queryRuntimeStatus
  services : a.queryNamedService = b.queryNamedService
  files : a.readDir = b.readDir
  sections : ∀ path, (a.document path).map (List.map Prod.fst) =
    (b.document path).map (List.map Prod.fst)

section Alike

variable {a b : System}

/-- What a file says, as far as it is shown. -/
theorem Alike.shown (alike : Alike a b) (path : FilePath) :
    (a.config path).map (Option.map shownConfig) =
      (b.config path).map (Option.map shownConfig) := by
  have same := alike.config path
  have through : ∀ content : Except ReadError (Option Config),
      (content.map (Option.map masked)).map (Option.map shownConfig) =
        content.map (Option.map shownConfig) := by
    intro content
    cases content with
    | error e => rfl
    | ok parsed =>
      simp only [Except.map, Option.map_map, Function.comp_def, shownConfig_masked]
  rw [← through, same, through]

theorem Alike.runtimeStatusFor (alike : Alike a b) (path : FilePath) :
    a.runtimeStatusFor path = b.runtimeStatusFor path := by
  rw [System.runtimeStatusFor, System.runtimeStatusFor, alike.runtime]

theorem Alike.serviceLine (alike : Alike a b) : a.serviceLine = b.serviceLine := by
  funext name service stateKnown
  simp only [System.serviceLine, alike.tty]

theorem Alike.printRuntimeHuman (alike : Alike a b) :
    a.printRuntimeHuman = b.printRuntimeHuman := by
  funext runtime
  simp only [System.printRuntimeHuman, alike.tty]

theorem ofOption_same {A : Type} {f g : A → Value} {x y : Option A} (same : x.map f = y.map g) :
    ofOption f x = ofOption g y := by
  cases x with
  | none =>
    cases y with
    | none => rfl
    | some y => cases same
  | some x =>
    cases y with
    | none => cases same
    | some y => exact Option.some.inj same

theorem Alike.renderOne (alike : Alike a b) (order order' : HashOrder) (args : StatusArgs)
    (name : String) (path : FilePath) (service : Option ServiceState) (stateKnown : Bool) :
    a.renderOne order args name path service stateKnown =
      b.renderOne order' args name path service stateKnown := by
  have same := alike.shown path
  simp only [System.renderOne]
  rw [alike.runtimeStatusFor, alike.versionExists, alike.writable, alike.tty, alike.serviceLine,
    alike.printRuntimeHuman]
  generalize a.config path = content at same ⊢
  generalize b.config path = content' at same ⊢
  cases content with
  | error e =>
    cases content' with
    | error e' =>
      cases same
      rfl
    | ok parsed' => cases same
  | ok parsed =>
    cases content' with
    | error e' => cases same
    | ok parsed' =>
      have both := Except.ok.inj same
      cases parsed with
      | none =>
        cases parsed' with
        | none => rfl
        | some c' => cases both
      | some c =>
        cases parsed' with
        | none => cases both
        | some c' =>
          have shown := Option.some.inj both
          have clients := congrArg ShownConfig.client shown
          have servers := congrArg ShownConfig.server shown
          have client := ofOption_same (map_same clients fun x y => clientJson_same order order')
          have server := ofOption_same (map_same servers fun x y => serverJson_same order order')
          simp only [Except.toOption, Option.bind_some, id, configTree_eq, shown, client, server]
          rfl

theorem Alike.configRole (alike : Alike a b) (path : FilePath) :
    a.configRole path = b.configRole path := by
  have role : ∀ sys : System, sys.configRole path =
      (((sys.config path).map (Option.map shownConfig)).toOption.bind id).map fun c =>
        if c.client.isSome then .client else .server := by
    intro sys
    rw [System.configRole]
    cases sys.config path with
    | error e => rfl
    | ok parsed =>
      cases parsed with
      | none => rfl
      | some c => simp [Except.map, Except.toOption, shownConfig]
  rw [role, role, alike.shown]

theorem Alike.serviceStateFor (alike : Alike a b) (name : String) (path : FilePath) :
    a.serviceStateFor name path = b.serviceStateFor name path := by
  have runtime : a.runtimeRole path = b.runtimeRole path := by
    rw [System.runtimeRole, System.runtimeRole, alike.runtime]
  rw [System.serviceStateFor, System.serviceStateFor, alike.os, runtime, alike.configRole,
    alike.services]

/-- The role of a document is in the names of its sections. -/
theorem detectRole_same {doc doc' : Toml.Entries}
    (same : doc.map Prod.fst = doc'.map Prod.fst) : detectRole doc = detectRole doc' := by
  have there : ∀ key, (doc.lookup key).isSome = (doc'.lookup key).isSome := by
    intro key
    rw [Bool.eq_iff_iff, Toml.lookup_isSome, Toml.lookup_isSome, same]
  rw [detectRole, detectRole, there, there]

theorem Alike.listInstalledServices (alike : Alike a b) :
    a.listInstalledServices = b.listInstalledServices := by
  have installed : a.installed = b.installed := by
    funext file
    have same := alike.sections ⟨b.configDir, file⟩
    simp only [System.installed, alike.configDir]
    generalize a.document ⟨b.configDir, file⟩ = doc at same ⊢
    generalize b.document ⟨b.configDir, file⟩ = doc' at same ⊢
    cases doc with
    | none =>
      cases doc' with
      | none => rfl
      | some doc' => cases same
    | some doc =>
      cases doc' with
      | none => cases same
      | some doc' =>
        simp only [Option.bind_eq_bind, Option.bind_some,
          detectRole_same (Option.some.inj same)]
  rw [System.listInstalledServices, System.listInstalledServices, alike.configDir, alike.files,
    installed]

theorem Alike.listAll (alike : Alike a b) (args : StatusArgs) :
    a.listAll args = b.listAll args := by
  have config : a.serviceConfig = b.serviceConfig := by
    funext name
    rw [System.serviceConfig, System.serviceConfig, alike.configDir]
  have state : a.listedState = b.listedState := by
    funext role name
    rw [System.listedState, System.listedState, alike.os, alike.services]
  have listed : a.listed = b.listed := by
    funext name role
    rw [System.listed, System.listed, config, state, alike.runtimeStatusFor]
  have line : a.listedLine = b.listedLine := by
    funext name role
    rw [System.listedLine, System.listedLine, config, state, alike.runtimeStatusFor]
  rw [System.listAll, System.listAll, alike.listInstalledServices, alike.tty, listed,
    line]

/-- Neither a secret nor the order of a hash map has any influence on the status. -/
theorem runStatus_same (alike : Alike a b) (order order' : HashOrder) (args : StatusArgs) :
    a.runStatus order args = b.runStatus order' args := by
  have config : a.serviceConfig = b.serviceConfig := by
    funext name
    rw [System.serviceConfig, System.serviceConfig, alike.configDir]
  obtain ⟨path, name, json⟩ := args
  simp only [System.runStatus, config, alike.configDir, alike.serviceStateFor,
    alike.renderOne order order', alike.listAll]

def demoText (token : MaskedString) : String :=
  "[client]\nremote_addr = \"example.com:2333\"\n[client.services.web]\n" ++
    "local_addr = \"127.0.0.1:80\"\ntoken = \"" ++ token ++ "\"\n"

def demoDocument (token : MaskedString) : Toml.Entries :=
  [("client", .table .header [("remote_addr", .string "example.com:2333"),
    ("services", .table .header [("web", .table .header
      [("local_addr", .string "127.0.0.1:80"), ("token", .string token)])])])]

def demoSystem (token : MaskedString) : System where
  os := .linux
  tty := false
  configDir := "/etc/rathole-x"
  readToString path :=
    if path = ⟨"/etc/rathole-x", "web.toml"⟩ then .ok (demoText token) else .error .notFound
  fromStr text := if text = demoText token then some (demo token) else none
  parse text := if text = demoText token then some (demoDocument token) else none
  readDir _ := some ["version.toml", "web.toml"]
  versionExists _ := true
  writableByCurrentUser _ := false
  queryRuntimeStatus _ := .error "connection refused"
  queryNamedService _ _ := some ("Running", some 812)

theorem masked_demo (token : MaskedString) : masked (demo token) = masked (demo "") := by
  simp only [masked, maskedClient, demo, mapEntries, sortedEntries_single, Option.map_some,
    Option.map_none, List.map_cons, List.map_nil]

theorem alike_demo (token token' : MaskedString) :
    Alike (demoSystem token) (demoSystem token') := by
  refine ⟨rfl, rfl, rfl, fun path => ?_, rfl, rfl, rfl, rfl, rfl, fun path => ?_⟩
  · simp only [System.config, demoSystem]
    split
    · simp only [Except.map, if_true, Option.map_some, masked_demo token, masked_demo token']
    · rfl
  · simp only [System.document, demoSystem]
    split
    · simp only [Except.toOption, Option.bind_some, if_true]
      rfl
    · rfl

theorem status_demo :
    (demoSystem "abc").runStatus .some ⟨none, some "web", false⟩ =
      (demoSystem "xyz").runStatus .some ⟨none, some "web", false⟩ :=
  runStatus_same (alike_demo "abc" "xyz") .some .some _

end Alike

end Rathole.StatusCommand
