import Rathole.Json
import Rathole.Text
import Rathole.Traced
import Rathole.WindowsService

set_option autoImplicit false

/- What the commands print, on every platform. A command asks the machine how its operations go;
what it does with the files and the services besides is left out. -/
namespace Rathole.Console

open ConfigEdit (ServiceRole)
open Traced (Flow)
open Windows (Icacls scmName managedNames lockdownIcaclsArgs exeLockdownArgs
  serviceAccessGrantArgs)

inductive Printed
  | out (text : String)
  | err (text : String)

/-- What a process prints itself, and the envelope that it passes on from another. -/
inductive Shown
  | printed (p : Printed)
  | relayed (envelope : String)

/-- How a command ends early: with an error for `run`, or with a panic that ends the process. -/
inductive Failure
  | error (message : String)
  | panic

instance : Coe String Failure := ⟨.error⟩

abbrev Output (A : Type) := Flow Printed String A

abbrev Command (A : Type) := Flow Shown Failure A

instance : MonadLift (Flow Printed String) (Flow Shown Failure) :=
  ⟨fun x => (x.mapTrace .printed).mapError .error⟩

inductive Level
  | info | warn

/-- A program that writes to the standard output of this one, told apart by its turn. -/
structure Tool where
  program : String
  args : List String
  turn : Nat

inductive ToolRun
  | absent (error : String)
  | exited (success : Bool) (lines : List String)

/-- What a command asks of the machine, and how an error answer reads. -/
inductive Operation
  | resolveConfig | versionCompat | serviceConfigPath | ensureRoleConfig | readConfirmation
  | currentExe | copyBinary | createDir (path : String) | writeFile (path : String)
  | removeFile (path : String) | setMode (path : String) | renderService (name : String)
  | run (program : String) (args : List String) | icacls (cmd : Icacls)
  | openManager | openService (name : String) | createService (name : String)
  | startService (name : String) | stopService (name : String) | deleteService (name : String)
  | queryStatus (name : String)

inductive Removal
  | removed | missing | failed (error : String)

/-- How an uninstall stops its service. -/
inductive Stopping
  | notRunning | stopped | late | pollFailed (error : String) | refused (error : String)

inductive Init
  | systemd | openRc

inductive ServiceAction
  | start | stop | restart

def ServiceAction.key : ServiceAction → String
  | start => "start"
  | stop => "stop"
  | restart => "restart"

/-- How things stand on the machine, and how it answers. -/
structure Machine where
  fault : Operation → Option String
  tool : Tool → ToolRun
  /-- What a program prints whose output is caught. -/
  caught : Operation → List String
  /-- The log records that the subscriber writes, which it does to standard output. -/
  shows : Level → Bool
  /-- An administrator, or the superuser. -/
  elevated : Bool
  terminal : Bool
  agrees : Bool
  services : List (String × ServiceRole)
  present : String → Bool
  writable : Bool
  removal : String → Removal
  othersRemain : String → Bool
  /-- The service that the SCM has for a configuration. -/
  owner : String → Except String String
  /-- What `uninstall` takes for its service is registered; of one role, or of either. -/
  registered : String → Bool
  registeredEither : String → Bool
  stopping : String → Stopping
  roleOf : String → Option ServiceRole
  /-- What a command of the configuration computes, and what it has to say to a reader. A path
  in the answer reads as it is displayed. -/
  answer : Except String Json.Value
  human : List String
  created : Bool
  init : Option Init

section Printing

variable (m : Machine)

/-- An operation whose output, if any, does not reach this program. -/
def ask (op : Operation) : Output Unit :=
  match m.fault op with
  | none => pure ()
  | some error => .fail error

/-- `println!` of the standard library. -/
def say (text : String) : Output Unit := .emit (.out text)

def sayAll : List String → Output Unit
  | [] => pure ()
  | text :: texts => do
    say text
    sayAll texts

/-- `println!` of the Windows module, and every print that looks at the mode. -/
def tell (json : Bool) (text : String) : Output Unit :=
  .emit (if json then .err text else .out text)

def errAll : List String → Output Unit
  | [] => pure ()
  | text :: texts => do
    Flow.emit (.err text)
    errAll texts

def tellAll (json : Bool) : List String → Output Unit
  | [] => pure ()
  | text :: texts => do
    tell json text
    tellAll json texts

/-- A log record. -/
def record (level : Level) (text : String) : Output Unit :=
  if m.shows level then say text else pure ()

/-- `Command::status`, where the tool inherits the standard output. -/
def status (t : Tool) : Output (Except String Bool) :=
  match m.tool t with
  | .absent error => pure (.error error)
  | .exited success lines => do
    sayAll lines
    pure (.ok success)

def succeeds (t : Tool) : Output Bool := do
  match ← status m t with
  | .ok success => pure success
  | .error _ => pure false

/-- `Command::output`, printed again afterwards. -/
def runEchoed (json : Bool) (op : Operation) : Output Unit := do
  tellAll json (m.caught op)
  ask m op

end Printing

structure InstallArgs where
  role : Option ServiceRole
  name : String
  config : OsPath
  allowUserConfig : Bool
  yes : Bool
  json : Bool

/-- `config` is the path as it is displayed. -/
structure UninstallArgs where
  name : String
  config : String
  purge : Bool
  all : Bool
  yes : Bool
  json : Bool

structure ServiceArgs where
  name : Option String
  all : Bool
  json : Bool

namespace Linux

variable (m : Machine)

def serviceAccount : String := "rathole-x"

def installedBinary : String := "/usr/local/lib/rathole-x/rathole-x"

def configDir : String := "/etc/rathole-x"

def versionPath : String := configDir ++ "/version.toml"

def ensureRoot : Output Unit := if m.elevated then pure () else .fail "please run with sudo"

def commandOk (t : Tool) : Output Unit := do
  match ← status m t with
  | .ok true => pure ()
  | .ok false => .fail (t.program ++ " " ++ " ".intercalate t.args ++ " failed")
  | .error error => .fail error

/-- Nobody has the name yet, and it cannot be added in the way of most systems. -/
def lacks (turn : Nat) (database : String) (add : Tool) : Output Bool := do
  if ← succeeds m ⟨"getent", [database, serviceAccount], turn⟩ then pure false
  else do
    let added ← succeeds m add
    pure !added

def groupAdd (turn : Nat) : Tool := ⟨"groupadd", ["--system", serviceAccount], turn⟩

def addGroup (turn : Nat) : Tool := ⟨"addgroup", ["-S", serviceAccount], turn⟩

def userAdd (turn : Nat) : Tool :=
  ⟨"useradd", ["--system", "--no-create-home", "--shell", "/usr/sbin/nologin", "--gid",
    serviceAccount, serviceAccount], turn⟩

def addUser (turn : Nat) : Tool :=
  ⟨"adduser", ["-S", "-D", "-H", "-s", "/sbin/nologin", "-G", serviceAccount, serviceAccount],
    turn⟩

def ensureServiceAccount (turn : Nat) : Output Unit := do
  ensureRoot m
  if ← lacks m turn "group" (groupAdd turn) then commandOk m (addGroup turn)
  if ← lacks m turn "passwd" (userAdd turn) then commandOk m (addUser turn)

def owner (turn : Nat) (path mode : String) : Output Unit := do
  commandOk m ⟨"chown", ["root:rathole-x", path], turn⟩
  commandOk m ⟨"chmod", [mode, path], turn⟩

def secureManagedConfig (turn : Nat) (path : String) : Output Unit := do
  ask m (.createDir configDir)
  owner m turn configDir "0755"
  if m.present path then owner m turn path "0644"

def writeVersionStamp (turn : Nat) : Output Unit := do
  ask m (.writeFile versionPath)
  secureManagedConfig m turn versionPath

def chownBinary : Tool := ⟨"chown", ["root:root", installedBinary], 0⟩

def chmodBinary : Tool := ⟨"chmod", ["0755", installedBinary], 0⟩

def deployBinary : Output String := do
  ensureRoot m
  ask m (.createDir "/usr/local/lib/rathole-x")
  ask m .currentExe
  ask m .copyBinary
  commandOk m chownBinary
  commandOk m chmodBinary
  pure installedBinary

def removeServiceFiles (config : String) (purge : Bool) : Output Unit := do
  if purge && m.present config then
    ensureRoot m
    ask m (.removeFile config)
  if !m.othersRemain config && m.present versionPath then ask m (.removeFile versionPath)

def configPath (name : String) : String := s!"{configDir}/{name}.toml"

end Linux

/-- The lines that announce an install on Linux. -/
def Linux.announcement (role : ServiceRole) (name service config start : String) : List String :=
  [s!"Installing {role.key} service '{name}':", s!"  Service:     {service}",
    s!"  Config:      {config}", "  Access:      root-managed config; edits require sudo",
    s!"  Runtime:     {serviceAccount} (CAP_NET_BIND_SERVICE only)",
    s!"  Auto start:  enabled ({start})"]

/-- The lines after an install. -/
def installedLines (service name : String) : List String :=
  [s!"Service '{service}' installed and started",
    s!"Run `rathole-x status --name {name}` to inspect, " ++
      s!"`rathole-x config add --name {name} ...` to configure (hot-reloaded)."]

def unsafeUserConfig : String :=
  "--allow-user-config is unsafe for Linux managed services and is not supported"

namespace Systemd

open Rathole.Console.Linux

variable (m : Machine)

def unitName (role : ServiceRole) (name : String) : String :=
  s!"rathole-x-{role.key}-{name}.service"

def unitPath (unit : String) : String := s!"/etc/systemd/system/{unit}"

def existingUnit (name : String) : Option String :=
  ([ServiceRole.client, .server].map fun role => unitName role name).find? fun unit =>
    m.present (unitPath unit)

def runSystemctl (args : List String) : Output Unit := ask m (.run "systemctl" args)

def trySystemctl (args : List String) : Bool := (m.fault (.run "systemctl" args)).isNone

def installService (args : InstallArgs) (role : ServiceRole) : Output Unit := do
  if args.allowUserConfig then .fail unsafeUserConfig
  let unit := unitName role args.name
  sayAll (announcement role args.name unit args.config.display "boot")
  ensureRoot m
  if m.present (unitPath unit) then
    .fail (s!"service '{unit}' already exists; run `rathole-x service uninstall --yes --name " ++
      s!"{args.name}` first")
  ensureServiceAccount m 1
  writeVersionStamp m 1
  secureManagedConfig m 2 versionPath
  secureManagedConfig m 3 args.config.display
  let _ ← deployBinary m
  ask m (.renderService args.name)
  ask m (.writeFile (unitPath unit))
  runSystemctl m ["daemon-reload"]
  runSystemctl m ["enable", "--now", unit]
  sayAll (installedLines unit args.name)

def uninstallService (args : UninstallArgs) : Output Unit := do
  say s!"Uninstalling service '{args.name}':"
  if args.purge then say s!"  Config:      will be removed ({args.config})"
  else say s!"  Config:      will be kept ({args.config})"
  match existingUnit m args.name with
  | some unit =>
    ensureRoot m
    ask m (.removeFile (unitPath unit))
    runSystemctl m ["daemon-reload"]
  | none => say s!"Service '{args.name}' is not installed; cleaning up leftover files."
  removeServiceFiles m args.config args.purge
  say s!"Service '{args.name}' stopped and removed"
  if args.purge then say s!"  Config:      removed ({args.config})"
  else say s!"  Config:      kept (delete with sudo or rerun with --purge) ({args.config})"

def unitOf (name : String) (role : ServiceRole) : String :=
  (existingUnit m name).getD (unitName role name)

def controlOne (action : ServiceAction) (name : String) (role : ServiceRole) : Output Unit :=
  runSystemctl m [action.key, unitOf m name role]

/-- Every service once, with what goes wrong in the log only. -/
def eachBestEffort (verb : String) : List (String × ServiceRole) → Output Unit
  | [] => pure ()
  | (name, role) :: services => do
    if trySystemctl m [verb, unitOf m name role] then pure ()
    else record m .warn s!"failed to {verb} '{unitOf m name role}'"
    eachBestEffort verb services

def rewriteUnits : List (String × ServiceRole) → Output Unit
  | [] => pure ()
  | (name, role) :: services => do
    let unit := unitOf m name role
    if m.present (unitPath unit) then
      ask m (.renderService name)
      ask m (.writeFile (unitPath unit))
    else record m .warn s!"skipping missing unit '{unitPath unit}'"
    rewriteUnits services

def started : List (String × ServiceRole) → Nat
  | [] => 0
  | (name, role) :: services =>
    (if trySystemctl m ["start", unitOf m name role] then 1 else 0) + started services

def upgradeBinary : Output Unit := do
  if m.services = [] then say "No installed services; nothing to upgrade."
  else do
    ensureRoot m
    eachBestEffort m "stop" m.services
    let installed ← deployBinary m
    rewriteUnits m m.services
    runSystemctl m ["daemon-reload"]
    eachBestEffort m "start" m.services
    say s!"Updated {installed} and restarted {started m m.services} service(s)."

end Systemd

namespace OpenRc

open Rathole.Console.Linux

variable (m : Machine)

def serviceName (role : ServiceRole) (name : String) : String := s!"rathole-x-{role.key}-{name}"

def initdPath (svc : String) : String := s!"/etc/init.d/{svc}"

def logPath (svc : String) : String := s!"/var/log/{svc}.log"

def existingService (name : String) : Option String :=
  ([ServiceRole.client, .server].map fun role => serviceName role name).find? fun svc =>
    m.present (initdPath svc)

def runRc (tool : String) (args : List String) : Output Unit := ask m (.run tool args)

def tryRc (tool : String) (args : List String) : Bool := (m.fault (.run tool args)).isNone

/-- What becomes of `openrc default` does not matter, only what it prints. -/
def ensureOpenrcRuntime : Output Unit := do
  if m.present "/run/openrc/softlevel" then pure ()
  else do
    let _ ← status m ⟨"openrc", ["default"], 0⟩
    pure ()

def ensureLogFile (svc : String) : Output Unit := do
  ask m (.writeFile (logPath svc))
  ask m (.setMode (logPath svc))
  runRc m "chown" [s!"{serviceAccount}:{serviceAccount}", logPath svc]

def installService (args : InstallArgs) (role : ServiceRole) : Output Unit := do
  if args.allowUserConfig then .fail unsafeUserConfig
  let svc := serviceName role args.name
  sayAll (announcement role args.name svc args.config.display "default runlevel")
  ensureRoot m
  if m.present (initdPath svc) then
    .fail (s!"service '{svc}' already exists; run `rathole-x service uninstall --yes --name " ++
      s!"{args.name}` first")
  ensureServiceAccount m 1
  writeVersionStamp m 1
  secureManagedConfig m 2 versionPath
  secureManagedConfig m 3 args.config.display
  ensureOpenrcRuntime m
  let _ ← deployBinary m
  ask m (.renderService args.name)
  ask m (.writeFile (initdPath svc))
  ask m (.setMode (initdPath svc))
  ensureLogFile m svc
  runRc m "rc-update" ["add", svc, "default"]
  runRc m "rc-service" [svc, "start"]
  sayAll (installedLines svc args.name)

def uninstallService (args : UninstallArgs) : Output Unit := do
  say s!"Uninstalling service '{args.name}':"
  if args.purge then say s!"  Config:      will be removed ({args.config})"
  else say s!"  Config:      will be kept ({args.config})"
  match existingService m args.name with
  | some svc =>
    ensureRoot m
    ask m (.removeFile (initdPath svc))
  | none => say s!"Service '{args.name}' is not installed; cleaning up leftover files."
  removeServiceFiles m args.config args.purge
  say s!"Service '{args.name}' stopped and removed"
  let outcome := if args.purge then "removed" else "kept protected"
  say s!"  Config:      {outcome} ({args.config})"

def serviceOf (name : String) (role : ServiceRole) : String :=
  (existingService m name).getD (serviceName role name)

def controlOne (action : ServiceAction) (name : String) (role : ServiceRole) : Output Unit :=
  runRc m "rc-service" [serviceOf m name role, action.key]

def eachBestEffort (verb : String) : List (String × ServiceRole) → Output Unit
  | [] => pure ()
  | (name, role) :: services => do
    if tryRc m "rc-service" [serviceOf m name role, verb] then pure ()
    else record m .warn s!"failed to {verb} '{serviceOf m name role}'"
    eachBestEffort verb services

def rewriteScripts : List (String × ServiceRole) → Output Unit
  | [] => pure ()
  | (name, role) :: services => do
    let script := initdPath (serviceOf m name role)
    if m.present script then
      ask m (.renderService name)
      ask m (.writeFile script)
      ask m (.setMode script)
    else record m .warn s!"skipping missing init.d script '{script}'"
    rewriteScripts services

def started : List (String × ServiceRole) → Nat
  | [] => 0
  | (name, role) :: services =>
    (if tryRc m "rc-service" [serviceOf m name role, "start"] then 1 else 0) + started services

def upgradeBinary : Output Unit := do
  if m.services = [] then say "No installed services; nothing to upgrade."
  else do
    ensureRoot m
    ensureOpenrcRuntime m
    eachBestEffort m "stop" m.services
    let installed ← deployBinary m
    rewriteScripts m m.services
    eachBestEffort m "start" m.services
    say s!"Updated {installed} and restarted {started m m.services} service(s)."

end OpenRc

namespace Linux

variable (m : Machine)

def init : Output Init :=
  match m.init with
  | some init => pure init
  | none => .fail "no supported Linux init system found; rathole-x supports systemd and OpenRC"

def installService (args : InstallArgs) (role : ServiceRole) : Output Unit := do
  if args.allowUserConfig then .fail unsafeUserConfig
  ensureRoot m
  ensureServiceAccount m 0
  secureManagedConfig m 0 args.config.display
  match ← init m with
  | .systemd => Systemd.installService m args role
  | .openRc => OpenRc.installService m args role

def uninstallService (args : UninstallArgs) : Output Unit := do
  match ← init m with
  | .systemd => Systemd.uninstallService m args
  | .openRc => OpenRc.uninstallService m args

def uninstallEach (args : UninstallArgs) : List (String × ServiceRole) → Output Unit
  | [] => pure ()
  | (name, _) :: services => do
    uninstallService m { args with name := name, config := configPath name }
    uninstallEach args services

def uninstallAll (args : UninstallArgs) : Output Unit := uninstallEach m args m.services

def controlEach (action : ServiceAction) : List String → Output Unit
  | [] => pure ()
  | name :: names => do
    let role := ((m.services.find? fun e => e.1 = name).map Prod.snd).getD .server
    match ← init m with
    | .systemd => Systemd.controlOne m action name role
    | .openRc => OpenRc.controlOne m action name role
    controlEach action names

def controlService (action : ServiceAction) (args : ServiceArgs) : Output Unit :=
  controlEach m action
    (if args.all then m.services.map Prod.fst else [args.name.getD "default"])

def upgradeBinary : Output Unit := do
  match ← init m with
  | .systemd => Systemd.upgradeBinary m
  | .openRc => OpenRc.upgradeBinary m

end Linux

namespace OnWindows

/-- What the elevated process leaves in its log, line by line. -/
abbrev Relaunch := Except String (List String)

variable (m : Machine) (json : Bool) (relaunch : Relaunch)

def dir : String := "C:\\ProgramData\\rathole-x"

def configPath (name : String) : String := s!"{dir}\\{name}.toml"

def versionPath : String := s!"{dir}\\version.toml"

def batPath (name : String) : String := s!"{dir}\\uninstall-{name}.bat"

def logsPath : String := s!"{dir}\\logs"

def installedExe : String := s!"{dir}\\rathole-x.exe"

/-- The lines of the log with the last one that has `ok` taken out. -/
def sortOut (hasOk : String → Bool) : List String → Option String × List String
  | [] => (none, [])
  | line :: lines =>
    let rest := sortOut hasOk lines
    if hasOk line then (if rest.1.isSome then rest else (some line, rest.2))
    else (rest.1, line :: rest.2)

variable (hasOk : String → Bool)

def replayElevatedOutput (output : List String) : Command Unit :=
  if json then do
    let sorted := sortOut hasOk output
    (errAll sorted.2 : Output Unit)
    match sorted.1 with
    | some envelope => .emit (.relayed envelope)
    | none => .fail "elevated command completed without a JSON result envelope"
  else sayAll output

def elevateAndReplay : Command Unit := do
  match relaunch with
  | .ok output => replayElevatedOutput json hasOk output
  | .error error => .fail error

/-- Whether the elevated process has done the work. -/
def elevateForConfigIfNeeded : Command Bool := do
  if !m.writable && !m.elevated then
    tell json "Requesting administrator rights (UAC) to modify the service config..."
    elevateAndReplay json relaunch hasOk
    pure true
  else pure false

def recordRemoval (what path : String) : Output Unit :=
  match m.removal path with
  | .removed => record m .info s!"removed {what} {path}"
  | .missing => pure ()
  | .failed error => record m .warn s!"failed to remove {path}: {error}"

def removeServiceFiles (name config : String) (purge : Bool) : Output Unit := do
  recordRemoval m "helper script" (batPath name)
  if purge then recordRemoval m "config" config
  if !m.othersRemain config then recordRemoval m "version stamp" versionPath

def grantUsersModify (path : String) : Output Unit := do
  if m.present path then
    match ← status m ⟨"icacls", [path, "/grant", "*S-1-5-32-545:M"], 0⟩ with
    | .ok true => record m .info s!"granted Users modify on {path}"
    | .ok false => record m .warn s!"icacls failed granting Users modify on {path}"
    | .error error => record m .warn s!"failed to run icacls on {path}: {error}"

def runAllIcacls : List Icacls → Output Unit
  | [] => pure ()
  | cmd :: cmds => do
    runEchoed m json (.icacls cmd)
    runAllIcacls cmds

def runSc (args : List String) : Output Unit := runEchoed m json (.run "sc.exe" args)

def configureServiceHardening (service : String) : Output Unit := do
  runSc m json ["sidtype", service, "restricted"]
  runSc m json ["privs", service, "SeChangeNotifyPrivilege"]

def managedServiceNames (extra : String) : List String :=
  managedNames (m.services.map fun e => scmName e.2 e.1) extra

/-- A failed step takes the registration back, and says so. -/
def orRollBack (x : Output Unit) (report : String → String) : Output Unit := do
  match ← x.attempt with
  | .ok () => pure ()
  | .error error => .fail (report error)

def writeUninstallBat (name : String) : Output Unit :=
  match m.fault (.writeFile (batPath name)) with
  | none => pure ()
  | some error => record m .warn s!"failed to write {batPath name}: {error}"

def install (args : InstallArgs) (role : ServiceRole) : Output Unit := do
  let service := scmName role args.name
  ask m (.createDir dir)
  ask m (.writeFile versionPath)
  ask m .currentExe
  ask m .copyBinary
  ask m (.createDir logsPath)
  ask m .openManager
  ask m (.createService service)
  orRollBack (configureServiceHardening m json service) fun error =>
    s!"failed to harden service '{service}'; rolled back its SCM registration: {error}"
  orRollBack (runAllIcacls m json (lockdownIcaclsArgs dir installedExe args.config.display
      logsPath (managedServiceNames m service) args.allowUserConfig)) fun error =>
    s!"failed to lock down files for service '{service}'; rolled back its SCM registration: {error}"
  orRollBack (ask m (.startService service)) fun error =>
    match m.fault (.deleteService service) with
    | none => s!"failed to start service '{service}'; rolled back its SCM registration: {error}"
    | some other => s!"failed to start service '{service}' (and failed to roll back the " ++
        s!"registration: {other}); run `rathole-x service uninstall --yes --name {args.name}` " ++
        s!"before retrying: {error}"
  writeUninstallBat m args.name
  record m .info (s!"service '{service}' installed and started (binary: {installedExe}, " ++
    s!"config: {args.config.display})")

def installService (args : InstallArgs) (role : ServiceRole) : Command Unit := do
  let service := scmName role args.name
  let access := if args.allowUserConfig then "normal users may edit the config (no UAC)"
    else "admin-only config; edits elevate via UAC"
  tellAll json [s!"Installing {role.key} service '{args.name}':", s!"  Service:     {service}",
    s!"  Config:      {args.config.display}", s!"  Access:      {access}",
    "  Auto start:  enabled (boot)"]
  if !m.elevated then
    tell json "Requesting administrator rights (UAC)..."
    elevateAndReplay json relaunch hasOk
  else do
    install m json args role
    tellAll json (installedLines service args.name)

def stopForUninstall (service : String) : Output Unit :=
  match m.stopping service with
  | .notRunning | .stopped => pure ()
  | .late => record m .warn "service did not stop within 15s; deleting anyway"
  | .pollFailed error => .fail s!"failed to poll service status while stopping: {error}"
  | .refused error =>
    record m .warn s!"failed to send STOP to the service: {error}; deleting anyway"

def uninstall (name config : String) (purge : Bool) : Output Unit := do
  ask m .openManager
  match m.owner config with
  | .error error => .fail error
  | .ok service => do
    ask m (.queryStatus service)
    stopForUninstall m service
    ask m (.deleteService service)
    removeServiceFiles m name config purge
    record m .info s!"service for '{name}' uninstalled"

def uninstallService (args : UninstallArgs) : Command Unit := do
  let fate := if args.purge then "removed" else "kept"
  tellAll json [s!"Uninstalling service '{args.name}':",
    s!"  Config:      will be {fate} ({args.config})"]
  if !m.registered args.config then
    tell json (s!"Service '{args.name}' is not installed; removing leftover files without " ++
      "elevation.")
    removeServiceFiles m args.name args.config args.purge
    if !args.purge then grantUsersModify m args.config
    tell json (if args.purge then "Done. Leftover files and the config removed."
      else "Done. Leftover files removed; config kept.")
  else if !m.elevated then
    tell json "Requesting administrator rights (UAC)..."
    elevateAndReplay json relaunch hasOk
  else do
    uninstall m args.name args.config args.purge
    if !args.purge then grantUsersModify m args.config
    tellAll json [s!"Service '{args.name}' stopped and removed",
      if args.purge then s!"  Config:      removed ({args.config})"
      else s!"  Config:      kept (user-deletable) ({args.config})"]

def uninstallEach (purge : Bool) : List (String × ServiceRole) → Output Unit
  | [] => pure ()
  | (name, _) :: services => do
    let path := configPath name
    if m.registeredEither path then uninstall m name path purge
    else removeServiceFiles m name path purge
    if !purge then grantUsersModify m path
    uninstallEach purge services

def uninstallAll (args : UninstallArgs) : Command Unit := do
  if m.services = [] then tell json "No installed services to remove."
  else if !m.elevated then
    tell json "Requesting administrator rights (UAC) to remove all services..."
    elevateAndReplay json relaunch hasOk
  else do
    uninstallEach m args.purge m.services
    let fate := if args.purge then "removed" else "kept"
    tell json (s!"Removed {m.services.length} service(s) and the shared binary in {dir} " ++
      s!"(configs {fate}).")

def stopAndWait (service : String) : Output Unit := do
  ask m (.queryStatus service)
  ask m (.stopService service)

def controlOne (action : ServiceAction) (service : String) : Output Unit := do
  ask m (.openService service)
  match action with
  | .start => ask m (.startService service)
  | .stop => stopAndWait m service
  | .restart => do
    stopAndWait m service
    ask m (.startService service)
  tell json s!"{action.key}ed '{service}'"

def controlEach (action : ServiceAction) : List (String × ServiceRole) → Output Unit
  | [] => pure ()
  | (name, role) :: services => do
    controlOne m json action (scmName role name)
    controlEach action services

def controlTargets (args : ServiceArgs) : Output (List (String × ServiceRole)) :=
  if args.all then pure m.services
  else do
    ask m .resolveConfig
    let name := args.name.getD "default"
    match m.roleOf name with
    | some role => pure [(name, role)]
    | none => .fail s!"cannot determine the role of {configPath name}"

def controlService (action : ServiceAction) (args : ServiceArgs) : Command Unit := do
  let targets ← controlTargets m args
  if targets = [] then .fail "no installed services"
  let names := ", ".intercalate (targets.map Prod.fst)
  tell json s!"Will {action.key}: {names}"
  if !m.elevated then
    tell json "Requesting administrator rights (UAC)..."
    elevateAndReplay json relaunch hasOk
  else do
    ask m .openManager
    controlEach m json action targets

def opens (service : String) : Bool := (m.fault (.openService service)).isNone

def stopEach : List (String × ServiceRole) → Output Unit
  | [] => pure ()
  | (name, role) :: services => do
    let service := scmName role name
    if opens m service then
      match (stopAndWait m service).result with
      | .ok () => pure ()
      | .error error => record m .warn s!"failed to stop '{service}': {error}"
    stopEach services

def migrateSteps (service : String) : List (List String) :=
  [["config", service, "obj=", "NT AUTHORITY\\LocalService"], ["sidtype", service, "restricted"],
    ["privs", service, "SeChangeNotifyPrivilege"]]

def migrateServiceHardening (service : String) : List (List String) → Output Unit
  | [] => pure ()
  | args :: steps => do
    match ← (runSc m json args).attempt with
    | .ok () => pure ()
    | .error error => record m .warn (s!"failed to migrate service '{service}' to the " ++
        s!"least-privilege account: {error}")
    migrateServiceHardening service steps

def migrateEach : List (String × ServiceRole) → Output Unit
  | [] => pure ()
  | (name, role) :: services => do
    migrateServiceHardening m json (scmName role name) (migrateSteps (scmName role name))
    migrateEach services

def grantEach : List (String × ServiceRole) → Output Unit
  | [] => pure ()
  | (name, role) :: services => do
    ask m (.createDir logsPath)
    runAllIcacls m json (serviceAccessGrantArgs (scmName role name) dir (configPath name))
    grantEach services

def startEach : List (String × ServiceRole) → Output Unit
  | [] => pure ()
  | (name, role) :: services => do
    let service := scmName role name
    if opens m service then
      match m.fault (.startService service) with
      | none => pure ()
      | some error => record m .warn s!"failed to start '{service}': {error}"
    startEach services

def started : List (String × ServiceRole) → Nat
  | [] => 0
  | (name, role) :: services =>
    (if opens m (scmName role name) && (m.fault (.startService (scmName role name))).isNone then 1
      else 0) + started services

def updateBinary : Output Unit := do
  grantEach m json m.services
  ask m .copyBinary
  runAllIcacls m json (exeLockdownArgs installedExe (m.services.map fun e => scmName e.2 e.1))

def upgradeBinary : Command Unit := do
  if !m.elevated then
    tell json "Requesting administrator rights (UAC) to update the installed binary..."
    elevateAndReplay json relaunch hasOk
  else do
    ask m .openManager
    stopEach m m.services
    migrateEach m json m.services
    ask m .currentExe
    match ← (updateBinary m json).attempt with
    | .error error => do
      record m .warn s!"binary update failed: {error}; restarting services best-effort"
      startEach m m.services
      record m .warn s!"restarted {started m m.services} service(s) after the failed update"
      .fail error
    | .ok () => do
      startEach m m.services
      tell json s!"Updated {installedExe} and restarted {started m m.services} service(s)."

end OnWindows

inductive Platform
  | windows | linux | other

structure AddArgs where
  specs : Bool
  entry : Option String
  yes : Bool
  json : Bool

/-- The commands that take `--json`. -/
inductive Cmd
  | add (args : AddArgs)
  | remove (entry : String) (yes json : Bool)
  | list (json : Bool)
  | set (json : Bool)
  | importFrom (json : Bool) (source : OsPath)
  | status (json : Bool) (config : Option OsPath)
  | install (args : InstallArgs)
  | uninstall (args : UninstallArgs)
  | control (action : ServiceAction) (args : ServiceArgs)
  | upgrade (yes json : Bool)

def commandRequestsJson : Cmd → Bool
  | .add args => args.json
  | .remove _ _ json | .list json | .set json | .importFrom json _ | .status json _ => json
  | .install args => args.json
  | .uninstall args => args.json
  | .control _ args => args.json
  | .upgrade _ json => json

/-- The command as an elevated process reads it, which takes a path for what `again` says: it gets
it by `to_string_lossy`, and starts in a directory of its own. -/
def Cmd.reread (again : OsPath → OsPath) : Cmd → Cmd
  | .importFrom json source => .importFrom json (again source)
  | .status json config => .status json (config.map again)
  | .install args => .install { args with config := again args.config }
  | cmd => cmd

section Dispatch

open Json (Value)

/-- A process: where it runs, what it finds there, whether it may do without a question, and
the way to an elevated one. -/
structure Process where
  platform : Platform
  machine : Machine
  confirmed : Bool
  relaunch : OnWindows.Relaunch
  hasOk : String → Bool

variable (p : Process)

namespace Process

def elevateForConfigIfNeeded (json : Bool) : Command Bool :=
  match p.platform with
  | .windows => OnWindows.elevateForConfigIfNeeded p.machine json p.relaunch p.hasOk
  | .linux | .other => pure false

/-- The other platforms have no services, and say so to a reader. -/
def unsupported (json : Bool) (lines : List String) : Command Unit :=
  if json then pure () else sayAll ("service management is not supported on this platform" :: lines)

def installService (args : InstallArgs) (role : ServiceRole) : Command Unit :=
  match p.platform with
  | .windows => OnWindows.installService p.machine args.json p.relaunch p.hasOk args role
  | .linux => Linux.installService p.machine args role
  | .other => unsupported args.json
      [s!"Would install {role.key} service '{args.name}' (config: {args.config.display})"]

def uninstallService (args : UninstallArgs) : Command Unit :=
  match p.platform with
  | .windows => OnWindows.uninstallService p.machine args.json p.relaunch p.hasOk args
  | .linux => Linux.uninstallService p.machine args
  | .other => unsupported args.json []

def uninstallAll (args : UninstallArgs) : Command Unit :=
  match p.platform with
  | .windows => OnWindows.uninstallAll p.machine args.json p.relaunch p.hasOk args
  | .linux => Linux.uninstallAll p.machine args
  | .other => unsupported args.json []

def controlService (action : ServiceAction) (args : ServiceArgs) : Command Unit :=
  match p.platform with
  | .windows => OnWindows.controlService p.machine args.json p.relaunch p.hasOk action args
  | .linux => Linux.controlService p.machine action args
  | .other => unsupported args.json []

def upgradeBinary (json : Bool) : Command Unit :=
  match p.platform with
  | .windows => OnWindows.upgradeBinary p.machine json p.relaunch p.hasOk
  | .linux => Linux.upgradeBinary p.machine
  | .other => unsupported json []

/-- A prompt is written to standard error. -/
def confirmAction (yes json : Bool) (subcommand : String) : Output Unit := do
  if yes || p.confirmed then pure ()
  else if json || !p.machine.terminal then
    .fail (s!"`{subcommand}` requires confirmation; re-run with --yes in an unattended or " ++
      "--json invocation")
  else do
    ask p.machine .readConfirmation
    if p.machine.agrees then pure () else .fail s!"{subcommand} cancelled by user"

/-- `json!` of a path unwraps, which panics for a path that is not UTF-8. -/
def serialised (path : OsPath) : Command Unit :=
  match path.toStr with
  | some _ => pure ()
  | none => do
    (Flow.emit (.err "path contains invalid UTF-8 characters") : Output Unit)
    .fail .panic

/-- What `run_list`, `run_remove`, `run_set`, `run_import` and `run_status` have in common, and
the two ways of `run_add` without a prompt: what they have to say is for a reader. `named` is the
path that the user gave and the answer shows. -/
def reported (json : Bool) (named : Option OsPath) : Command Value :=
  match p.machine.answer with
  | .ok answer => do
    match named with
    | some path => serialised path
    | none => pure ()
    if !json then sayAll p.machine.human
    pure answer
  | .error error => .fail error

def runAdd (args : AddArgs) : Command Value :=
  if args.specs then p.reported args.json none
  else
    let interactive := !args.json && !args.yes && p.machine.terminal
    match args.entry with
    | none =>
      if interactive then do
        sayAll p.machine.human
        match p.machine.answer with
        | .ok answer => pure answer
        | .error error => .fail error
      else .fail ("A service NAME is required, or pass --client/--server SPEC entries, or run " ++
        "interactively in a TTY without a name.")
    | some _ => p.reported args.json none

/-- A command that changes the configuration, after its checks. -/
def editing (json : Bool) (x : Command Value) : Command Value := do
  if ← p.elevateForConfigIfNeeded json then pure (.object [("relayed", .bool true)]) else x

def serviceActionNames (args : ServiceArgs) : List String :=
  match args.name with
  | some name => [name]
  | none => p.machine.services.map Prod.fst

def names (names : List String) : Value := .array (names.map .string)

def dispatchInstall (args : InstallArgs) : Command Value := do
  match args.role with
  | none => .fail "A role is required: `service install server` or `service install client`"
  | some role => do
    ask p.machine .serviceConfigPath
    p.confirmAction args.yes args.json "install"
    if ← p.elevateForConfigIfNeeded args.json then pure (.object [("relayed", .bool true)])
    else do
      ask p.machine .ensureRoleConfig
      if p.machine.created && !args.json then
        (say (s!"Created {role.key} config at {args.config.display} " ++
          "(no services configured yet).") : Output Unit)
      p.installService args role
      serialised args.config
      pure (.object [("action", .string "install"), ("names", names [args.name]),
        ("role", .string role.key), ("config", .string args.config.display),
        ("created", .bool p.machine.created), ("message", .string "service installed")])

def dispatchUninstall (args : UninstallArgs) : Command Value := do
  if args.all then
    p.confirmAction args.yes args.json "uninstall"
    p.uninstallAll args
    pure (.object [("action", .string "uninstall"),
      ("names", names (p.machine.services.map Prod.fst)), ("all", .bool true),
      ("purge", .bool args.purge), ("message", .string "all services uninstalled")])
  else do
    ask p.machine .resolveConfig
    p.confirmAction args.yes args.json "uninstall"
    p.uninstallService args
    pure (.object [("action", .string "uninstall"), ("names", names [args.name]),
      ("purge", .bool args.purge), ("message", .string "service uninstalled")])

def dispatchControl (action : ServiceAction) (args : ServiceArgs) : Command Value := do
  p.controlService action args
  pure (.object [("action", .string action.key), ("names", names (p.serviceActionNames args)),
    ("all", .bool args.all), ("message", .string "ok")])

def dispatchUpgrade (yes json : Bool) : Command Value := do
  p.confirmAction yes json "upgrade"
  p.upgradeBinary json
  pure (.object [("action", .string "upgrade"), ("message", .string "binary upgraded")])

def dispatchCommand : Cmd → Command Value
  | .add args => do
    ask p.machine .resolveConfig
    ask p.machine .versionCompat
    p.editing args.json (p.runAdd args)
  | .remove _ yes json => do
    ask p.machine .resolveConfig
    ask p.machine .versionCompat
    p.confirmAction yes json "config remove"
    p.editing json (p.reported json none)
  | .list json => do
    ask p.machine .resolveConfig
    p.reported json none
  | .set json => do
    ask p.machine .resolveConfig
    ask p.machine .versionCompat
    p.editing json (p.reported json none)
  | .importFrom json source => do
    ask p.machine .resolveConfig
    ask p.machine .versionCompat
    p.editing json (p.reported json (some source))
  | .status json config => p.reported json config
  | .install args => p.dispatchInstall args
  | .uninstall args => p.dispatchUninstall args
  | .control action args => p.dispatchControl action args
  | .upgrade yes json => p.dispatchUpgrade yes json

end Process

def jsonSuccessEnvelope (result : Value) : Value := .object [("ok", .bool true), ("result", result)]

def jsonFailureEnvelope (error : String) : Value :=
  .object [("ok", .bool false), ("error", .object [("message", .string error)])]

def envelope : Except String Value → Value
  | .ok result => jsonSuccessEnvelope result
  | .error error => jsonFailureEnvelope error

def Shown.isRelayed : Shown → Bool
  | .printed _ => false
  | .relayed _ => true

/-- What comes back to `run`. A panic does not. -/
def returned {A : Type} : Except Failure A → Option (Except String A)
  | .ok a => some (.ok a)
  | .error (.error message) => some (.error message)
  | .error .panic => none

/-- `run`: an envelope of its own, unless one was passed on. -/
def Process.run (cmd : Cmd) : Command Unit :=
  let x := p.dispatchCommand cmd
  let own : List Shown :=
    if commandRequestsJson cmd && !x.trace.any Shown.isRelayed then
      (returned x.result).toList.map fun r => .printed (.out (envelope r).text)
    else []
  ⟨x.result.map fun _ => (), x.trace ++ own⟩

/-- The exit code on Windows, where a release build aborts on a panic. -/
def exitCode : Except Failure Unit → Nat
  | .ok () => 0
  | .error (.error _) => 1
  | .error .panic => 0xC0000409

/-- The lines of both streams, as the elevated process writes them into its log. -/
def logOf (trace : List Shown) : List String :=
  trace.flatMap fun w => match w with
    | .printed (.out text) | .printed (.err text) | .relayed text => Json.linesOf text

def stdoutOf (trace : List Shown) : List String :=
  trace.flatMap fun w => match w with
    | .printed (.out text) | .relayed text => Json.linesOf text
    | .printed (.err _) => []

/-- `relaunch_elevated_wait`. The elevated process does not get up when the user declines. -/
def relaunchElevatedWait (declined : Option String) (elevated : Command Unit) :
    OnWindows.Relaunch :=
  match declined, elevated.result with
  | some error, _ => .error error
  | none, .ok () => .ok (logOf elevated.trace)
  | none, .error failure => .error (s!"elevated command failed (exit code " ++
      s!"{exitCode (.error failure)}); full output kept at the log:\n" ++
      "\n".intercalate (logOf elevated.trace))

/-- A process as the user starts it, with the elevated one that it may start in turn. -/
structure Launch where
  platform : Platform
  machine : Machine
  elevated : Machine
  declined : Option String
  again : OsPath → OsPath
  confirmed : Bool
  hasOk : String → Bool

namespace Launch

def child (l : Launch) : Process :=
  ⟨l.platform, { l.elevated with elevated := true }, true, .error "already elevated", l.hasOk⟩

def process (l : Launch) (cmd : Cmd) : Process :=
  ⟨l.platform, l.machine, l.confirmed,
    relaunchElevatedWait l.declined (l.child.run (cmd.reread l.again)), l.hasOk⟩

def run (l : Launch) (cmd : Cmd) : Command Unit := (l.process cmd).run cmd

end Launch

end Dispatch

end Rathole.Console
