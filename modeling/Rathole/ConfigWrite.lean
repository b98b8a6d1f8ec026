import Rathole.ConfigAdd
import Rathole.ConfigImport
import Rathole.ConfigSet
import Rathole.Disk

set_option autoImplicit false

/- The commands with their file operations, in the order of the code. -/
namespace Rathole.ConfigEdit

open Disk (Program Fault fileExists createDirAll setPermissions orFail recover)
open Toml (Entries)

/-- A path as its directory and its last component. Different paths are different files. -/
structure FilePath where
  dir : String
  last : String
  deriving DecidableEq

/-- The text before the last dot, and the text after it. -/
def rsplitDot : List Char → Option (List Char × List Char)
  | [] => none
  | c :: rest =>
    match rsplitDot rest with
    | some (before, after) => some (c :: before, after)
    | none => if c = '.' then some ([], rest) else none

namespace FilePath

def fileName (p : FilePath) : Option String :=
  if p.last = "" ∨ p.last = ".." then none else some p.last

def parent (p : FilePath) : Option String := if p.last = "" then none else some p.dir

def display (p : FilePath) : String :=
  if p.dir = "" ∨ p.dir.endsWith "/" then p.dir ++ p.last else p.dir ++ "/" ++ p.last

/-- `rsplit_file_at_dot`: a dot in front is part of the stem. -/
def stemAndExtension (name : String) : String × Option String :=
  match rsplitDot name.toList with
  | some (b :: before, after) => (String.ofList (b :: before), some (String.ofList after))
  | _ => (name, none)

def extension (p : FilePath) : Option String := p.fileName.bind fun name => (stemAndExtension name).2

def withExtension (p : FilePath) (extension : String) : FilePath :=
  match p.fileName with
  | none => p
  | some name =>
    let stem := (stemAndExtension name).1
    { p with last := if extension = "" then stem else stem ++ "." ++ extension }

/-- A path without a file name is a directory. -/
def names (p : FilePath) : Bool := p.fileName.isSome

end FilePath

inductive Os
  | linux | windows | other
  deriving DecidableEq

/-- The machine that a command runs on. -/
structure Host (Text B : Type) where
  crate : Toml.Crate Text
  parseUrl : String → Option Url
  order : HashOrder
  path : FilePath
  pid : Nat
  os : Os
  encode : Text → List B
  decode : List B → Except String Text

namespace Host

variable {Text B : Type} (h : Host Text B)

def env : Env Text := ⟨h.crate, h.parseUrl, h.order, h.path.display⟩

abbrev Cmd (B A : Type) := Program FilePath B String A

def tmp : FilePath := h.path.withExtension s!"tmp{h.pid}"

/-- What the system offers to put one file in the place of another, and to remove one. -/
structure Swapping (B : Type) where
  replace : FilePath → FilePath → Cmd B (Except Fault Unit)
  remove : FilePath → Cmd B (Except Fault Unit)

/-- A system whose failed replacements have moved nothing. -/
def Swapping.disk : Swapping B := ⟨Disk.replace, Disk.remove⟩

section Swap

variable (system : Swapping B)

/-- No temporary file is left behind. -/
def cleanUp (x : Cmd B (Except Fault Unit)) (replacement : FilePath) : Cmd B (Except Fault Unit) :=
  recover x fun fault => do
    let _ ← system.remove replacement
    pure (.error fault)

/-- `ReplaceFileW`, or a rename when there is no file to replace. -/
def replaceFilePreservingSecurity (replacement replaced : FilePath) :
    Cmd B (Except Fault Unit) :=
  cleanUp system (recover (system.replace replacement replaced) fun fault =>
    if fault.notFound then Disk.rename replacement replaced else pure (.error fault)) replacement

def replaceFile : Cmd B (Except Fault Unit) :=
  if h.os = .windows then replaceFilePreservingSecurity system h.tmp h.path
  else Disk.rename h.tmp h.path

def secure : Cmd B Unit :=
  if h.os = .linux then
    orFail (setPermissions h.tmp) fun fault => s!"Failed to secure {h.tmp.display}: {fault.message}"
  else pure ()

def writeAtomicOn (content : Text) : Cmd B Unit := do
  orFail (Disk.write FilePath.names h.tmp (h.encode content))
    fun fault => s!"Failed to write {h.tmp.display}: {fault.message}"
  h.secure
  orFail (cleanUp system (h.replaceFile system) h.tmp) fun fault =>
    s!"Failed to replace {h.path.display} with {h.tmp.display}: {fault.message}"

end Swap

def writeAtomic (content : Text) : Cmd B Unit := h.writeAtomicOn .disk content

def readToString (p : FilePath) : Cmd B (Except Fault Text) := do
  match ← Disk.read p with
  | .ok bytes =>
    match h.decode bytes with
    | .ok text => pure (.ok text)
    | .error e => pure (.error ⟨false, e⟩)
  | .error fault => pure (.error fault)

def loadDocument : Cmd B Entries := do
  match ← h.readToString h.path with
  | .ok text => Program.lift (ConfigEdit.loadDocument h.env (some text))
  | .error fault =>
    if fault.notFound then pure []
    else Program.lift (.error s!"Failed to read {h.path.display}: {fault.message}")

/-- `ensure_config_skeleton`: whether the file is yet to be created. -/
def ensureConfigSkeleton : Cmd B Bool := do
  if ← fileExists h.path then pure false
  else do
    let dir := h.path.parent.getD ""
    if dir ≠ "" then
      orFail createDirAll fun fault => s!"Failed to create {dir}: {fault.message}"
    pure true

/-- The document that is there, an empty one for a file that is yet to be created. -/
def openDocument : Cmd B (Bool × Entries) := do
  let created ← h.ensureConfigSkeleton
  let doc ← if created then pure [] else h.loadDocument
  pure (created, doc)

/-- `save_document`, with the skeleton in front when the file was just created. -/
def saveDocument (doc : Entries) (created : Bool) : Cmd B Text := do
  let content := render h.env doc created
  (h.writeAtomic content).mapError fun e => s!"Failed to write {h.path.display}: {e}"
  pure content

def saveWithSkeleton (doc : Entries) (created : Bool) : Cmd B Text := do
  Program.lift (validate h.env (h.crate.print doc))
  h.saveDocument doc created

def removeService (name : String) : Cmd B Text := do
  if ← fileExists h.path then do
    let doc ← h.loadDocument
    let side ← okOrElse (definingSide doc name) s!"No service named '{name}' in {h.path.display}"
    h.saveDocument (doc.removeAt name [side.key, "services"]) false
  else Program.lift (.error s!"Configuration file {h.path.display} does not exist")

/-- The flag of a side, else the role of the document that is there. -/
def setSideFrom (args : SetArgs) (existing : Option Entries) : Except String ServiceSide :=
  match args.client, args.server with
  | true, false => .ok .client
  | false, true => .ok .server
  | true, true => .error "--client and --server are mutually exclusive"
  | false, false =>
    match existing with
    | none => .error "Exactly one of --client or --server is required"
    | some doc =>
      match (doc.lookup "client").isSome, (doc.lookup "server").isSome with
      | true, false => .ok .client
      | false, true => .ok .server
      | true, true => (detectRole doc).map fun _ => .client
      | false, false => .error "Exactly one of --client or --server is required"

/-- The document that is there, if it can be loaded. -/
def existingDocument : Cmd B (Option Entries) := do
  let doc ← h.loadDocument.attempt
  pure doc.toOption

/-- A flag decides without the document. -/
def setSide (args : SetArgs) : Cmd B ServiceSide := do
  if args.client ∨ args.server then setSideFrom args none
  else do
    let existing ← h.existingDocument
    setSideFrom args existing

def runSet (args : SetArgs) (keypair : Except String (String × String)) :
    Cmd B (Text × SetResult) := do
  let side ← h.setSide args
  bailIf (!args.anyField) "No fields given; see `rathole-x config set --help`"
  args.checkSide side
  checkValues h.env args
  let (created, doc) ← h.openDocument
  ensureRoleAllows doc side
  let doc ← createSection args doc side
  let (kind, entries) ← sectionOf h.env doc side
  let entries ← setFields args kind entries
  let entries ← setNested h.env args.transportRequested kind entries "transport"
    (setTransport h.env args keypair)
  let doc := Toml.insertKey doc side.key (.table kind entries)
  withContext (validate h.env (h.crate.print doc))
    s!"Refusing to save an invalid configuration to {h.path.display}"
  let text ← h.saveDocument doc created
  let generated := if args.noise then keypair.toOption else none
  pure (text, ⟨side, doc.lookup side.key, generated, created⟩)

def runAddSingle (args : AddArgs) (answers : Option Answers) (fresh : String)
    (keypair : Except String (String × String)) : Cmd B (Text × Added × NoisePlan) := do
  let existing ← h.existingDocument
  let side ← singleSide args answers existing
  checkIf (side = .client) do
    ensureRoleAllows (existing.getD []) .client
    ensureClientRemoteSet h.env (existing.getD [])
  let addr ← singleAddr args answers side
  let noiseKey ← singleNoiseKey args answers side
  let missing := (if addr.isNone then [side.addrFlag] else []) ++
    (if args.noise && side = .client && noiseKey.isNone then ["--noise-key"] else [])
  let names := ", ".intercalate missing
  bailIf (missing ≠ []) (s!"Missing required argument(s): {names}. They could not be prompted " ++
    "for because stdin/stdout is not a TTY, --json, or --yes was given.")
  let addr := addr.getD ""
  validateHostPort addr side.addrFlag
  let prompted ← promptedToken args answers
  let given := args.token.or prompted
  let plan ← noisePlan args keypair side noiseKey
  let (created, doc) ← h.openDocument
  ensureRoleAllows doc side
  bailIf (serviceExists doc side args.entry)
    s!"a {side.key} service named `{args.entry}` already exists in {h.path.display}"
  let doc ← prepareSection h.env doc side
  let doc ← applyNoiseTransport h.env doc plan
  let entry := (if args.serviceType = .udp then [("type", .string "udp")] else []) ++
    [(side.serviceAddrKey, .string addr), ("token", .string (given.getD fresh))]
  let generated := if given.isNone then some fresh else none
  let (doc, added) ← insertPending doc ⟨side, args.entry, entry, generated⟩
  let text ← h.saveWithSkeleton doc created
  pure (text, added, plan)

def runAddBatch (clientSpecs serverSpecs : List String) (fresh : Nat → String) :
    Cmd B (Text × List Added) := do
  let clients ← specsToPending fresh .client 0 clientSpecs
  let servers ← specsToPending fresh .server clientSpecs.length serverSpecs
  let pending := clients ++ servers
  checkRepeated pending
  let existing ← h.existingDocument
  let preDoc := existing.getD []
  checkIf (pending.any fun p => p.side = .client) do
    ensureRoleAllows preDoc .client
    ensureClientRemoteSet h.env preDoc
  checkIf (pending.any fun p => p.side = .server) (ensureRoleAllows preDoc .server)
  let (created, doc) ← h.openDocument
  let doc := withServerSection doc pending
  checkVacant doc pending
  let (doc, results) ← insertAll doc pending
  let text ← h.saveWithSkeleton doc created
  pure (text, results)

/-- The directory is created when the dialog is over. -/
def runAddInteractive (rounds : List Round) (fresh : Nat → String) :
    Cmd B (Option Text × List Added) := do
  let there ← fileExists h.path
  let doc ← h.loadDocument
  let pinned ← pinnedSide doc
  checkIf (pinned = some .client) (ensureClientRemoteSet h.env doc)
  let pending ← queueRounds h.env doc pinned fresh 0 [] rounds
  if pending.isEmpty then pure (none, [])
  else do
    let doc := withServerSection doc pending
    let _ ← h.ensureConfigSkeleton
    let (doc, results) ← insertAll doc pending
    let text ← h.saveWithSkeleton doc (!there)
    pure (some text, results)

def runImport (source : FilePath) : Cmd B (Text × ServiceSide × Imported) := do
  let text ← orFail (h.readToString source)
    fun fault => s!"Failed to read old config {source.display}: {fault.message}"
  let src ← withContext (h.crate.parse text) s!"Failed to parse old config {source.display}"
  let role ← withContext (detectRole src) s!"invalid old config {source.display}"
  let side := role.side
  let (_, srcSection) ← okOrElse ((src.lookup side.key).bind Toml.Item.asTableLike)
    s!"[{side.key}] is not a table in {source.display}"
  let (created, doc) ← h.openDocument
  withContext (ensureRoleAllows doc side)
    s!"cannot import a {role.key} config into {h.path.display}"
  let addrKey := side.sectionAddrKey
  bailIf ((doc.lookup side.key).isNone ∧
      ((srcSection.lookup addrKey).bind Toml.Item.asStr).isNone)
    (s!"old config has no [{side.key}].{addrKey}; cannot create the [{side.key}] section " ++
      s!"in {h.path.display}")
  let doc := withImportSection doc side
  let (kind, section_) ← sectionOf h.env doc side
  let (section_, r) ← importSection h.env side srcSection kind section_
  let doc := Toml.insertKey doc side.key (.table kind section_)
  let text ← h.saveWithSkeleton doc created
  pure (text, side, r)

/-- A command with its flags, answers and specs. -/
inductive Invocation
  | addSingle (args : AddArgs) (answers : Option Answers) (fresh : String)
      (keypair : Except String (String × String))
  | addBatch (clientSpecs serverSpecs : List String) (fresh : Nat → String)
  | addInteractive (rounds : List Round) (fresh : Nat → String)
  | set (args : SetArgs) (keypair : Except String (String × String))
  | importFrom (source : FilePath)
  | remove (name : String)

/-- What the command has written; nothing when there was nothing to change. -/
def execute : Invocation → Cmd B (Option Text)
  | .addSingle args answers fresh keypair => do
    let out ← h.runAddSingle args answers fresh keypair
    pure (some out.1)
  | .addBatch clientSpecs serverSpecs fresh => do
    let out ← h.runAddBatch clientSpecs serverSpecs fresh
    pure (some out.1)
  | .addInteractive rounds fresh => do
    let out ← h.runAddInteractive rounds fresh
    pure out.1
  | .set args keypair => do
    let out ← h.runSet args keypair
    pure (some out.1)
  | .importFrom source => do
    let out ← h.runImport source
    pure (some out.1)
  | .remove name => do
    let text ← h.removeService name
    pure (some text)

end Host

end Rathole.ConfigEdit
