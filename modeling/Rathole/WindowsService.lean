import Mathlib.Data.List.Destutter
import Rathole.ConfigRole
import Rathole.Fallible

set_option autoImplicit false

/- The commands that install, remove and upgrade the services of Windows: what they register with
the service control manager, which files they leave in the configuration directory, and whom
they let access these. Names stand for themselves up to case. -/
namespace Rathole.Windows

open ConfigEdit (Env ServiceRole detectRole withContext validate)
open Fallible (Program)
open Toml (Entries)

/-- The SCM service name for an installed service. -/
def scmName (role : ServiceRole) (name : String) : String := s!"rathole-x-{role.key}-{name}"

inductive Account
  | wellKnown (sid : String)
  | service (name : String)

def Account.arg : Account → String
  | wellKnown sid => s!"*{sid}"
  | service name => s!"NT SERVICE\\{name}"

def Account.service? : Account → Option String
  | wellKnown _ => none
  | service name => some name

structure Grant where
  account : Account
  perm : String

def Grant.arg (g : Grant) : String := s!"{g.account.arg}:{g.perm}"

def serviceAccountGrant (service perm : String) : Grant := ⟨.service service, perm⟩

def admins (perm : String) : Grant := ⟨.wellKnown "S-1-5-32-544", perm⟩

def system (perm : String) : Grant := ⟨.wellKnown "S-1-5-18", perm⟩

def users (perm : String) : Grant := ⟨.wellKnown "S-1-5-32-545", perm⟩

/-- One invocation of icacls. -/
inductive Icacls
  | setowner (path : String) (sid : String)
  | lockdown (path : String) (grants : List Grant)
  | grant (path : String) (grant : Grant)

namespace Icacls

def path : Icacls → String
  | setowner path _ | lockdown path _ | grant path _ => path

def args : Icacls → List String
  | setowner path sid => [path, "/setowner", s!"*{sid}"]
  | lockdown path grants => path :: "/inheritance:r" :: grants.flatMap fun g => ["/grant", g.arg]
  | grant path g => [path, "/grant", g.arg]

/-- The services whose accounts an invocation names. -/
def services : Icacls → List String
  | setowner _ _ => []
  | lockdown _ grants => grants.filterMap fun g => g.account.service?
  | grant _ g => g.account.service?.toList

end Icacls

def pathLockdownArgs (path : String) (grants : List Grant) : List Icacls :=
  [.setowner path "S-1-5-32-544", .lockdown path grants]

def exeLockdownArgs (exe : String) (services : List String) : List Icacls :=
  pathLockdownArgs exe
    ([admins "F", system "F"] ++ services.map fun s => serviceAccountGrant s "(RX)")

def lockdownIcaclsArgs (dir exe config logs : String) (services : List String)
    (allowUserConfig : Bool) : List Icacls :=
  pathLockdownArgs dir ([admins "(OI)(CI)F", system "(OI)(CI)F", users "(OI)(CI)R"] ++
      (services.map fun s => serviceAccountGrant s "(OI)(CI)RX") ++
      if allowUserConfig then [users "WD"] else []) ++
    exeLockdownArgs exe services ++
    pathLockdownArgs config ([admins "F", system "R", users "R"] ++
      (services.map fun s => serviceAccountGrant s "(R)") ++
      if allowUserConfig then [users "M"] else []) ++
    pathLockdownArgs logs ([admins "(OI)(CI)F", system "(OI)(CI)F"] ++
      services.map fun s => serviceAccountGrant s "(OI)(CI)M")

def serviceAccessGrantArgs (service dir config : String) : List Icacls :=
  [.grant dir (serviceAccountGrant service "(OI)(CI)RX"),
    .grant config (serviceAccountGrant service "(R)"),
    .grant (dir ++ "\\logs") (serviceAccountGrant service "(OI)(CI)M")]

/-- The service names of a lockdown: the listed ones, and `extra`. -/
def managedNames (listed : List String) (extra : String) : List String :=
  let out := if extra ∈ listed then listed else listed ++ [extra]
  (out.mergeSort fun a b => decide (a ≤ b)).destutter (· ≠ ·)

/-- What the machine is asked for. Files are named by their stems. -/
inductive Operation
  | currentExe | readDir | createDir | createLogs | copyBinary
  | read (stem : String) | write (stem : String) | remove (stem : String)
  | openManager | openService (name : String) | createService | harden | startService
  | queryStatus | deleteService

structure Fault where
  denied : Bool
  message : String

def permissionHint (fault : Fault) : String :=
  if fault.denied then " (insufficient permissions; run the command elevated, e.g. with sudo)"
  else ""

/-- How the operations of a command go. -/
structure Machine where
  fault : Operation → Option Fault
  /-- The exit code of an icacls that knows all the accounts. -/
  exitCode : Icacls → Nat

def Machine.works (m : Machine) (op : Operation) : Bool := (m.fault op).isNone

/-- What `DEFAULT_CLIENT_CONFIG` and `DEFAULT_SERVER_CONFIG` say. -/
def defaultConfig : ServiceRole → Entries
  | .client => [("client", .table .header [("remote_addr", .string "example.com:2333"),
      ("services", .table .header [])])]
  | .server => [("server", .table .header [("bind_addr", .string "0.0.0.0:2333"),
      ("services", .table .header [])])]

/-- What does not change between the commands. -/
structure Setup (Text : Type) where
  env : Env Text
  dir : String
  exe : String
  exeName : String
  listing : HashOrder
  skeleton : ServiceRole → Text
  stamp : Text
  parsed : ∀ role, env.crate.parse (skeleton role) = .ok (defaultConfig role)

/-- The services that the SCM knows, and the `.toml` files of the configuration directory. -/
structure State (Text : Type) where
  registered : Finset String
  files : HashMap String Text

namespace Setup

variable {Text : Type} (setup : Setup Text) (m : Machine)

def configPath (stem : String) : String := s!"{setup.dir}\\{stem}.toml"

def installedExe : String := s!"{setup.dir}\\{setup.exeName}"

/-- The role that the document in a file declares. -/
def declares (content : Text) : Option ServiceRole :=
  match setup.env.crate.parse content with
  | .ok doc => (detectRole doc).toOption
  | .error _ => none

/-- The role that a file runs as. -/
def runsAs (content : Text) : Option ServiceRole :=
  match Schema.tomlFromStr setup.env.parseUrl setup.env.crate content with
  | .ok config => some (if config.client.isSome then .client else .server)
  | .error _ => none

/-- The entry that a file makes in the list of installed services. -/
def installed (s : State Text) (stem : String) : Option ServiceRole :=
  if stem = "version" then none else (s.files.lookup stem).bind setup.declares

def listInstalledServices (s : State Text) : List (String × ServiceRole) :=
  if m.works .readDir then
    ((setup.listing.keys s.files).filterMap fun stem =>
      if m.works (.read stem) then (setup.installed s stem).map fun role => (stem, role)
      else none).mergeSort fun a b => decide (a.1 ≤ b.1)
  else []

def managedServiceNames (s : State Text) (extra : String) : List String :=
  managedNames ((setup.listInstalledServices m s).map fun e => scmName e.2 e.1) extra

abbrev Command (Text A : Type) := Program (State Text) String A

/-- An operation that may fail and leaves the services and the files to the rest. -/
def ask (op : Operation) : Command Text Unit :=
  match m.fault op with
  | none => pure ()
  | some fault => .lift (.error fault.message)

def attempt (op : Operation) (context : Fault → String) : Command Text Unit :=
  match m.fault op with
  | none => pure ()
  | some fault => .lift (.error s!"{context fault}: {fault.message}")

def writeFile (stem : String) (content : Text) (s : State Text) : State Text :=
  { s with files := s.files.insert stem content }

/-- A deletion that the SCM accepts, or has accepted before, takes effect at once. -/
def deleteService (name : String) (s : State Text) : State Text :=
  if m.works .deleteService then { s with registered := s.registered.erase name } else s

/-- icacls fails on an account that the SCM does not know (`ERROR_NONE_MAPPED`). -/
def runIcacls (cmd : Icacls) : Command Text Unit := fun s =>
  let code := if ∀ service ∈ cmd.services, service ∈ s.registered then m.exitCode cmd else 1332
  (if code = 0 then .ok ()
    else .error s!"icacls failed (exit exit code: {code}) on `{cmd.path}`", s)

def runAllIcacls : List Icacls → Command Text Unit
  | [] => pure ()
  | cmd :: cmds => do
    runIcacls m cmd
    runAllIcacls cmds

/-- Answers whether the file was created. -/
def ensureRoleConfig (stem : String) (role : ServiceRole) : Command Text Bool := do
  let s ← Program.state
  match s.files.lookup stem with
  | some content =>
    attempt m (.read stem) fun fault =>
      s!"Failed to read config file {setup.configPath stem}{permissionHint fault}"
    .lift (withContext (validate setup.env content)
      s!"Config file {setup.configPath stem} is not a valid rathole-x configuration")
    match setup.declares content with
    | some existing =>
      if existing = role then pure false
      else .lift (.error (s!"Config {setup.configPath stem} is a {existing.key} config from a " ++
        s!"previous install; it cannot back a {role.key} service. Remove it (`sudo rm " ++
        s!"{setup.configPath stem}`) or uninstall with --purge first"))
    | none => pure false
  | none =>
    attempt m .createDir fun fault =>
      s!"Failed to create config directory {setup.dir}{permissionHint fault}"
    attempt m (.write stem) fun fault =>
      s!"Failed to write default config {setup.configPath stem}{permissionHint fault}"
    .modify (writeFile stem (setup.skeleton role))
    pure true

/-- `create_service` refuses a name that the SCM knows. -/
def createService (service name : String) : Command Text Unit := do
  let s ← Program.state
  if service ∈ s.registered then
    .lift (.error (s!"service '{service}' already exists; run `rathole-x service uninstall " ++
      s!"--yes --name {name}` first"))
  else do
    attempt m .createService fun _ => s!"failed to create service '{service}'"
    .modify fun s => { s with registered := insert service s.registered }

/-- The first half of `install`, up to the registration. -/
def prepare (role : ServiceRole) (name : String) : Command Text Unit := do
  attempt m .createDir fun _ => s!"failed to create config directory {setup.dir}"
  attempt m (.write "version") fun _ => "failed to write version.toml"
  .modify (writeFile "version" setup.stamp)
  attempt m .currentExe fun _ => "failed to resolve current executable path"
  attempt m .copyBinary fun _ => s!"failed to copy {setup.exe} to {setup.installedExe} (is the " ++
    s!"service running from {setup.installedExe}? run `rathole-x service uninstall --yes` first)"
  attempt m .createLogs fun _ => s!"failed to create log directory {setup.dir}\\logs"
  attempt m .openManager fun _ =>
    "failed to open the service control manager (elevated rights required)"
  createService m (scmName role name) name
  (ask m .harden).orElse (deleteService m (scmName role name)) fun e _ =>
    s!"failed to harden service '{scmName role name}'; rolled back its SCM registration: {e}"

/-- What a service is about to be locked down with. -/
def register (role : ServiceRole) (name stem : String) : Command Text Unit := do
  let _ ← ensureRoleConfig setup m stem role
  prepare setup m role name

def lockdown (role : ServiceRole) (name stem : String) (allowUserConfig : Bool) :
    Command Text Unit := do
  let s ← Program.state
  runAllIcacls m (lockdownIcaclsArgs setup.dir setup.installedExe (setup.configPath stem)
    (setup.dir ++ "\\logs") (setup.managedServiceNames m s (scmName role name)) allowUserConfig)

/-- `service install` with a configuration of the directory. -/
def install (role : ServiceRole) (name stem : String) (allowUserConfig : Bool) :
    Command Text Unit := do
  let service := scmName role name
  register setup m role name stem
  (lockdown setup m role name stem allowUserConfig).orElse (deleteService m service) fun e _ =>
    s!"failed to lock down files for service '{service}'; rolled back its SCM registration: {e}"
  (ask m .startService).orElse (deleteService m service) fun e _ =>
    match m.fault .deleteService with
    | none => s!"failed to start service '{service}'; rolled back its SCM registration: {e}"
    | some fault => s!"failed to start service '{service}' (and failed to roll back the " ++
        s!"registration: {fault.message}); run `rathole-x service uninstall --yes --name " ++
        s!"{name}` before retrying: {e}"

/-- The role in the file of a service, when it can be read. -/
def roleAt (s : State Text) (stem : String) : Option ServiceRole :=
  if m.works (.read stem) then (s.files.lookup stem).bind setup.runsAs else none

def opens (s : State Text) (service : String) : Bool :=
  decide (service ∈ s.registered) && m.works (.openService service)

def otherRole : ServiceRole → ServiceRole
  | .client => .server
  | .server => .client

/-- The registered service that `uninstall` takes for the owner of a configuration. -/
def owner (s : State Text) (stem : String) : Except String String :=
  match setup.roleAt m s stem with
  | some role =>
    if opens m s (scmName role stem) then .ok (scmName role stem)
    else if opens m s (scmName (otherRole role) stem) then .ok (scmName (otherRole role) stem)
    else if scmName (otherRole role) stem ∈ s.registered then
      .error s!"failed to open service '{scmName role stem}'"
    else .error s!"service '{scmName role stem}' does not exist"
  | none =>
    if opens m s (scmName .client stem) then .ok (scmName .client stem)
    else if opens m s (scmName .server stem) then .ok (scmName .server stem)
    else .error (s!"failed to open service '{scmName .client stem}' or " ++
      s!"'{scmName .server stem}'")

/-- The version stamp goes with the last configuration. -/
def removeServiceFiles (stem : String) (purge : Bool) (s : State Text) : State Text :=
  let files := if purge && m.works (.remove stem) then s.files.erase stem else s.files
  let othersRemain := m.works .readDir &&
    decide (∃ other ∈ files.keys, other ≠ stem ∧ other ≠ "version")
  { s with files := if !othersRemain && m.works (.remove "version") then files.erase "version"
      else files }

def uninstall (stem : String) (purge : Bool) : Command Text Unit := do
  attempt m .openManager fun _ =>
    "failed to open the service control manager (elevated rights required)"
  let s ← Program.state
  let service ← Program.lift (setup.owner m s stem)
  attempt m .queryStatus fun _ => "failed to query service status"
  attempt m .deleteService fun _ => "failed to delete service"
  .modify (deleteService m service)
  .modify (removeServiceFiles m stem purge)

def serviceExists (s : State Text) (service : String) : Bool :=
  m.works .openManager && opens m s service

/-- `service uninstall`. The files of a service that is gone are removed all the same. -/
def uninstallService (stem : String) (purge : Bool) : Command Text Unit := do
  let s ← Program.state
  let found := match setup.roleAt m s stem with
    | some role => serviceExists m s (scmName role stem)
    | none => serviceExists m s (scmName .client stem) || serviceExists m s (scmName .server stem)
  if found then uninstall setup m stem purge else .modify (removeServiceFiles m stem purge)

/-- One turn of the loop of `uninstall_all`. -/
def uninstallListed (stem : String) (purge : Bool) : Command Text Unit := do
  let s ← Program.state
  if serviceExists m s (scmName .client stem) || serviceExists m s (scmName .server stem) then
    uninstall setup m stem purge
  else .modify (removeServiceFiles m stem purge)

/-- The grants of every service, one after the other. -/
def grantAccess : List (String × ServiceRole) → Command Text Unit
  | [] => pure ()
  | (name, role) :: services => do
    attempt m .createLogs fun _ => s!"failed to create log directory for {setup.configPath name}"
    runAllIcacls m (serviceAccessGrantArgs (scmName role name) setup.dir (setup.configPath name))
    grantAccess services

/-- `upgrade`, as far as it can fail. -/
def upgradeBinary : Command Text Unit := do
  let s ← Program.state
  let services := setup.listInstalledServices m s
  attempt m .openManager fun _ =>
    "failed to open the service control manager (elevated rights required)"
  attempt m .currentExe fun _ => "failed to resolve current executable path"
  grantAccess setup m services
  attempt m .copyBinary fun _ => s!"failed to copy {setup.exe} to {setup.installedExe} (is the " ++
    s!"service running from {setup.installedExe}? run `rathole-x service uninstall --yes` first)"
  runAllIcacls m (exeLockdownArgs setup.installedExe (services.map fun e => scmName e.2 e.1))

end Setup

end Rathole.Windows
