import Rathole.ConfigEdit

set_option autoImplicit false

/- `config add`, of one service from flags and answers, of a batch of compact specs, and of the
services of a dialog. -/
namespace Rathole.ConfigEdit

open Toml (Item Entries TableKind)

def defaultServerBindAddr : String := "0.0.0.0:2333"

structure ServiceSpec where
  name : String
  localAddr : Option String
  bindAddr : Option String
  token : Option String
  udp : Bool
  deriving DecidableEq

/-- One turn of the loop of `parse_spec`. -/
def parsePair (side : ServiceSide) (out : ServiceSpec) (pair : String) :
    Except String ServiceSpec :=
  let pair := trim pair
  if pair = "" then .ok out
  else
    match splitOnce ':' pair with
    | none => .error s!"Invalid SPEC entry '{pair}': expected key:value"
    | some (key, val) =>
      let key := trim key
      let val := trim val
      if key = "name" then .ok { out with name := val }
      else if key = "token" then .ok { out with token := some val }
      else if key = "type" then
        if val = "tcp" then .ok out
        else if val = "udp" then .ok { out with udp := true }
        else .error s!"Invalid type '{val}' in SPEC (tcp|udp)"
      else if key = "server" ∨ key = "remote" then
        .error ("the `server:` spec key is gone; set the control channel once per config " ++
          "with `config set --client --remote-addr <host:port>`")
      else if key = "local" ∧ side = .client then do
        validateHostPort val "local"
        .ok { out with localAddr := some val }
      else if key = "bind" ∧ side = .server then do
        validateHostPort val "bind"
        .ok { out with bindAddr := some val }
      else .error s!"Unknown key '{key}' in {side.key} SPEC"

def parseSpec (spec : String) (side : ServiceSide) : Except String ServiceSpec := do
  let out ← (splitAll ';' spec).foldlM (parsePair side) ⟨"", none, none, none, false⟩
  bailIf (out.name = "") s!"Missing 'name' in {side.key} SPEC '{spec}'"
  bailIf (side = .client ∧ out.localAddr.isNone) s!"Missing 'local' in client SPEC '{spec}'"
  bailIf (side = .server ∧ out.bindAddr.isNone) s!"Missing 'bind' in server SPEC '{spec}'"
  .ok out

/-- One service that is ready to be written. -/
structure PendingService where
  side : ServiceSide
  name : String
  entry : Entries
  generatedToken : Option String

/-- `fresh` is the token that is generated when none is given. -/
def specToPending (spec : ServiceSpec) (side : ServiceSide) (fresh : String) : PendingService where
  side := side
  name := spec.name
  entry := (if spec.udp then [("type", .string "udp")] else []) ++
    (spec.localAddr.map fun a => ("local_addr", Item.string a)).toList ++
    (spec.bindAddr.map fun a => ("bind_addr", Item.string a)).toList ++
    [("token", .string (spec.token.getD fresh))]
  generatedToken := if spec.token.isNone then some fresh else none

structure Added where
  name : String
  side : ServiceSide
  service : Option Item
  token : Option String

def insertPending (doc : Entries) (p : PendingService) : Except String (Entries × Added) := do
  let (kind, entries) ← okOrElse ((doc.lookup p.side.key).bind Item.asTableLike)
    s!"[{p.side.key}] is not a table"
  let (inner, services) ← okOrElse ((entries.lookup "services").bind Item.asTableLike)
    s!"[{p.side.key}.services] is not a table"
  let services := services.insert inner p.name (.table .header p.entry)
  let entries := Toml.insertKey entries "services" (.table inner services)
  .ok (Toml.insertKey doc p.side.key (.table kind entries),
    ⟨p.name, p.side, services.lookup p.name, p.generatedToken⟩)

section Add

variable {Text : Type} (env : Env Text)

def ensureClientRemoteSet (doc : Entries) : Except String Unit :=
  if ((doc.lookup "client").bind fun c => c.get "remote_addr").isSome then .ok ()
  else .error (s!"[client] remote_addr is not set in {env.path}; one client config connects to " ++
    "exactly one server — run `rathole-x config set --client --remote-addr <host:port>` first")

def insertAll : Entries → List PendingService → Except String (Entries × List Added)
  | doc, [] => .ok (doc, [])
  | doc, p :: rest => do
    let (doc, added) ← insertPending doc p
    let (doc, others) ← insertAll doc rest
    .ok (doc, added :: others)

/-- The first service that is in the batch twice. -/
def firstRepeated : List (ServiceSide × String) → List PendingService → Option PendingService
  | _, [] => none
  | seen, p :: rest =>
    if (p.side, p.name) ∈ seen then some p else firstRepeated ((p.side, p.name) :: seen) rest

/-- The specs of a side; `fresh` numbers the tokens of the batch. -/
def specsToPending (fresh : Nat → String) (side : ServiceSide) :
    Nat → List String → Except String (List PendingService)
  | _, [] => .ok []
  | i, spec :: rest => do
    let parsed ← parseSpec spec side
    let others ← specsToPending fresh side (i + 1) rest
    .ok (specToPending parsed side (fresh i) :: others)

def serverSection : Item :=
  .table .header [("bind_addr", .string defaultServerBindAddr), ("services", .table .header [])]

def checkRepeated (pending : List PendingService) : Except String Unit :=
  match firstRepeated [] pending with
  | some p => .error s!"duplicate {p.side.key} service `{p.name}` in this batch"
  | none => .ok ()

def checkVacant (doc : Entries) (pending : List PendingService) : Except String Unit :=
  match pending.find? fun p => serviceExists doc p.side p.name with
  | some p => .error s!"A {p.side.key} service named '{p.name}' already exists"
  | none => .ok ()

/-- The section for the first services of a server. -/
def withServerSection (doc : Entries) (pending : List PendingService) : Entries :=
  if pending.any (fun p => p.side = .server) ∧ (doc.lookup "server").isNone then
    Toml.insertKey doc "server" serverSection
  else doc

/-- The whole batch is written at once. -/
def runAddBatch (clientSpecs serverSpecs : List String) (fresh : Nat → String)
    (file : Option Text) : Except String (Text × List Added) := do
  let clients ← specsToPending fresh .client 0 clientSpecs
  let servers ← specsToPending fresh .server clientSpecs.length serverSpecs
  let pending := clients ++ servers
  checkRepeated pending
  let preDoc := (loadDocument env file).toOption.getD []
  checkIf (pending.any fun p => p.side = .client) do
    ensureRoleAllows preDoc .client
    ensureClientRemoteSet env preDoc
  checkIf (pending.any fun p => p.side = .server) (ensureRoleAllows preDoc .server)
  let doc ← loadDocument env file
  let doc := withServerSection doc pending
  checkVacant doc pending
  let (doc, results) ← insertAll doc pending
  let text ← saveWithSkeleton env doc file.isNone
  .ok (text, results)

/-- The flags of a single service. The name is there. -/
structure AddArgs where
  entry : String
  bindAddr : Option String
  localAddr : Option String
  token : Option String
  noise : Bool
  noiseKey : Option String
  serviceType : ServiceType

/-- What the user answers to the prompts; an address is asked for until it is valid. -/
structure Answers where
  side : Except String String
  localAddr : List String
  bindAddr : List String
  noiseKey : Except String String
  token : Except String String

def promptValidatedHostPort (inputs : List String) (field : String) : Except String String :=
  match inputs.find? fun input => (validateHostPort input field).isOk with
  | some input => .ok input
  | none => .error "read interrupted"

/-- The flags of one side, else the role that the document declares. -/
def inferSide (args : AddArgs) (existing : Option Entries) : Except String (Option ServiceSide) :=
  match args.localAddr.isSome || args.noiseKey.isSome, args.bindAddr.isSome with
  | true, true => .error "--bind-addr (server) cannot be combined with --local-addr (client)"
  | true, false => .ok (some .client)
  | false, true => .ok (some .server)
  | false, false =>
    match existing with
    | none => .ok none
    | some doc =>
      match (doc.lookup "client").isSome, (doc.lookup "server").isSome with
      | true, false => .ok (some .client)
      | false, true => .ok (some .server)
      | true, true => (detectRole doc).map fun _ => none
      | false, false => .ok none

/-- The key of `transport.noise` and its value. -/
inductive NoisePlan
  | none
  | server (privateKey publicKey : String)
  | client (remotePublicKey : String)

/-- The nested table of either kind, a new one when there is none; any other value is
unwrapped. -/
def unwrapTable (kind : TableKind) (entries : Entries) (key : String) :
    Except String (TableKind × Entries) :=
  let created : Item := if kind.isInline then .table .inline [] else .table .header []
  okOrElse ((entries.lookup key).getD created).asTableLike
    "called `Option::unwrap()` on a `None` value"

/-- The type of a transport that is there, `tcp` when it has none. -/
def existingType (entries : Entries) : String :=
  match (entries.lookup "transport").bind Item.asTableLike with
  | some (_, t) => ((t.lookup "type").bind Item.asStr).getD "tcp"
  | none => "tcp"

def noiseTransport (doc : Entries) (side : ServiceSide) (key v : String) :
    Except String Entries := do
  let (kind, entries) ← sectionOf env doc side
  let existing := existingType entries
  bailIf (existing ≠ "tcp" ∧ existing ≠ "noise")
    (s!"[{side.key}.transport] is already configured as '{existing}'; edit {env.path} " ++
      "manually to switch transports")
  let (outer, transport) ← unwrapTable kind entries "transport"
  let transport := transport.insert outer "type" (.string "noise")
  let (inner, noise) ← unwrapTable outer transport "noise"
  let noise := noise.insert inner key (.string v)
  let transport := Toml.insertKey transport "noise" (.table inner noise)
  let entries := Toml.insertKey entries "transport" (.table outer transport)
  .ok (Toml.insertKey doc side.key (.table kind entries))

def applyNoiseTransport (doc : Entries) : NoisePlan → Except String Entries
  | .none => .ok doc
  | .server privateKey _ => noiseTransport env doc .server "local_private_key" privateKey
  | .client remotePublicKey => noiseTransport env doc .client "remote_public_key" remotePublicKey

/-- The section of the side, with a table of services. Only `config set` creates a client
section. -/
def prepareSection (doc : Entries) (side : ServiceSide) : Except String Entries :=
  if (doc.lookup side.key).isNone then
    match side with
    | .client => .error ("[client] section missing; run `rathole-x config set --client " ++
        "--remote-addr <host:port>` first")
    | .server => .ok (Toml.insertKey doc "server" serverSection)
  else do
    let (kind, entries) ← sectionOf env doc side
    let entries :=
      if (entries.lookup "services").isNone then
        entries.insert kind "services" (.table .header [])
      else entries
    .ok (Toml.insertKey doc side.key (.table kind entries))

/-- A value that is asked for when the flag is missing and there is somebody to ask. -/
def flagOr {A : Type} (flag : Option A) (prompt : Option (Except String A)) :
    Except String (Option A) :=
  match flag, prompt with
  | some a, _ => .ok (some a)
  | none, some answer => answer.map some
  | none, none => .ok none

/-- The side that the flags or the document decide, else the one that is chosen. -/
def singleSide (args : AddArgs) (answers : Option Answers) (existing : Option Entries) :
    Except String ServiceSide := do
  let side ← inferSide args existing
  let chosen ← flagOr side (answers.map fun answers =>
    answers.side.map fun choice => if trim choice = "2" then .server else .client)
  okOrElse chosen "Cannot determine the side: give --local-addr (client) or --bind-addr (server)"

/-- The address of the service; its flag is checked when it was not asked for. -/
def singleAddr (args : AddArgs) (answers : Option Answers) (side : ServiceSide) :
    Except String (Option String) :=
  match side with
  | .client => flagOr args.localAddr
      (answers.map fun answers => promptValidatedHostPort answers.localAddr "--local-addr")
  | .server => flagOr args.bindAddr
      (answers.map fun answers => promptValidatedHostPort answers.bindAddr "--bind-addr")

def ServiceSide.addrFlag : ServiceSide → String
  | client => "--local-addr"
  | server => "--bind-addr"

/-- The key of the server, when a client is to use the noise transport. -/
def singleNoiseKey (args : AddArgs) (answers : Option Answers) (side : ServiceSide) :
    Except String (Option String) :=
  if (args.noise || args.noiseKey.isSome) && side = .client then
    flagOr args.noiseKey (answers.map Answers.noiseKey)
  else .ok none

/-- The token of the answers, unless it is left empty. -/
def promptedToken (args : AddArgs) (answers : Option Answers) : Except String (Option String) :=
  match args.token, answers with
  | none, some answers => do
    let t ← answers.token
    .ok (if trim t = "" then none else some (trim t))
  | _, _ => .ok none

def noisePlan (args : AddArgs) (keypair : Except String (String × String)) (side : ServiceSide)
    (noiseKey : Option String) : Except String NoisePlan :=
  match side with
  | .server => if args.noise then keypair.map fun keys => .server keys.1 keys.2 else .ok .none
  | .client =>
    match noiseKey with
    | some key => .ok (.client key)
    | none => .ok .none

/-- One service from flags, and from answers when there is somebody to ask. -/
def runAddSingle (args : AddArgs) (answers : Option Answers) (fresh : String)
    (keypair : Except String (String × String)) (file : Option Text) :
    Except String (Text × Added × NoisePlan) := do
  let existing := (loadDocument env file).toOption
  let side ← singleSide args answers existing
  checkIf (side = .client) do
    ensureRoleAllows (existing.getD []) .client
    ensureClientRemoteSet env (existing.getD [])
  let addr ← singleAddr args answers side
  let noiseKey ← singleNoiseKey args answers side
  let missing := (if addr.isNone then [side.addrFlag] else []) ++
    (if args.noise && side = .client && noiseKey.isNone then ["--noise-key"] else [])
  let names := ", ".intercalate missing
  bailIf (missing ≠ []) (s!"Missing required argument(s): {names}. They could not be prompted " ++
    "for because stdin/stdout is not a TTY, --json, or --yes was given.")
  let addr := addr.getD ""
  validateHostPort addr side.addrFlag
  let prompted ← promptedToken args answers
  let given := args.token.or prompted
  let plan ← noisePlan args keypair side noiseKey
  let doc ← loadDocument env file
  ensureRoleAllows doc side
  bailIf (serviceExists doc side args.entry)
    s!"a {side.key} service named `{args.entry}` already exists in {env.path}"
  let doc ← prepareSection env doc side
  let doc ← applyNoiseTransport env doc plan
  let entry := (if args.serviceType = .udp then [("type", .string "udp")] else []) ++
    [(side.serviceAddrKey, .string addr), ("token", .string (given.getD fresh))]
  let generated := if given.isNone then some fresh else none
  let (doc, added) ← insertPending doc ⟨side, args.entry, entry, generated⟩
  let text ← saveWithSkeleton env doc file.isNone
  .ok (text, added, plan)

/-- What the user answers in one turn of the dialog. A selection is the number of the item. -/
structure Round where
  name : Except String String
  side : Except String Nat
  addr : List String
  serviceType : Except String Nat
  token : Except String String

/-- The side that the document declares. -/
def pinnedSide (doc : Entries) : Except String (Option ServiceSide) :=
  match (doc.lookup "client").isSome, (doc.lookup "server").isSome with
  | true, false => .ok (some .client)
  | false, true => .ok (some .server)
  | true, true => (detectRole doc).map fun _ => none
  | false, false => .ok none

def roundSide (pinned : Option ServiceSide) (r : Round) : Except String ServiceSide :=
  match pinned with
  | some side => .ok side
  | none => r.side.map fun choice => if choice = 1 then .server else .client

def ServiceSide.addrField : ServiceSide → String
  | client => "local"
  | server => "bind"

def roundPending (side : ServiceSide) (name fresh : String) (r : Round) :
    Except String PendingService := do
  let addr ← promptValidatedHostPort r.addr side.addrField
  let choice ← r.serviceType
  let entered ← r.token
  let entered := trim entered
  let token := if entered = "" then fresh else entered
  .ok {
    side := side
    name := name
    entry := [(side.serviceAddrKey, .string addr)] ++
      (if choice = 1 then [("type", .string "udp")] else []) ++ [("token", .string token)]
    generatedToken := if entered = "" then some fresh else none }

/-- The turns of the dialog, up to an empty name; `fresh` numbers the tokens. -/
def queueRounds (doc : Entries) (pinned : Option ServiceSide) (fresh : Nat → String) :
    Nat → List PendingService → List Round → Except String (List PendingService)
  | _, _, [] => .error "read interrupted"
  | i, pending, r :: rest => do
    let name ← r.name
    let name := trim name
    if name = "" then .ok pending
    else do
      let side ← roundSide pinned r
      if side = .client ∧ (ensureClientRemoteSet env doc).isOk = false then
        queueRounds doc pinned fresh (i + 1) pending rest
      else if serviceExists doc side name ∨
          pending.any (fun p => p.side = side ∧ p.name = name) then
        queueRounds doc pinned fresh (i + 1) pending rest
      else do
        let p ← roundPending side name (fresh i) r
        queueRounds doc pinned fresh (i + 1) (pending ++ [p]) rest

/-- Nothing is written when no service was queued. -/
def runAddInteractive (rounds : List Round) (fresh : Nat → String) (file : Option Text) :
    Except String (Option Text × List Added) := do
  let doc ← loadDocument env file
  let pinned ← pinnedSide doc
  checkIf (pinned = some .client) (ensureClientRemoteSet env doc)
  let pending ← queueRounds env doc pinned fresh 0 [] rounds
  if pending.isEmpty then .ok (none, [])
  else do
    let doc := withServerSection doc pending
    let (doc, results) ← insertAll doc pending
    let text ← saveWithSkeleton env doc file.isNone
    .ok (some text, results)

end Add

end Rathole.ConfigEdit
