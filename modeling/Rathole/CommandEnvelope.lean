import Rathole.CommandOutput

set_option autoImplicit false

/- When a command with `--json` prints its envelope and nothing else. -/
namespace Rathole.Console

open ConfigEdit (ServiceRole)
open Traced (Flow)
open Traced.Flow (Silent)
open Windows (Icacls scmName managedNames lockdownIcaclsArgs exeLockdownArgs
  serviceAccessGrantArgs)

def IsOut : Printed → Prop
  | .out _ => True
  | .err _ => False

/-- Nothing goes to standard output. -/
abbrev Quiet {A : Type} (x : Output A) : Prop := Silent IsOut x

section Printing

variable (m : Machine) {A : Type} {op : Operation} {t : Tool} {texts : List String}

/-- The tool is not there, or has nothing to say. -/
def ToolQuiet (t : Tool) : Prop :=
  match m.tool t with
  | .absent _ => True
  | .exited _ lines => lines = []

def toolOk (t : Tool) : Bool :=
  match m.tool t with
  | .absent _ => false
  | .exited success _ => success

variable {m}

@[simp] theorem quiet_ask : Quiet (ask m op) ↔ True := by
  unfold ask
  cases m.fault op <;> simp

@[simp] theorem ask_ok {u : Unit} : (ask m op).result = .ok u ↔ m.fault op = none := by
  unfold ask
  cases m.fault op <;> simp

@[simp] theorem quiet_say (text : String) : Quiet (say text) ↔ False := by
  simp [say, IsOut]

@[simp] theorem say_ok (text : String) : (say text).result = .ok () := rfl

@[simp] theorem sayAll_ok : (sayAll texts).result = .ok () := by
  induction texts with
  | nil => rfl
  | cons text texts ih => simp [sayAll, ih]

@[simp] theorem quiet_sayAll : Quiet (sayAll texts) ↔ texts = [] := by
  cases texts with
  | nil => simp [sayAll]
  | cons text texts => simp [sayAll]

@[simp] theorem quiet_tell (text : String) : Quiet (tell true text) ↔ True := by
  simp [tell, IsOut]

@[simp] theorem tell_ok (json : Bool) (text : String) : (tell json text).result = .ok () := rfl

@[simp] theorem tellAll_ok (json : Bool) : (tellAll json texts).result = .ok () := by
  induction texts with
  | nil => rfl
  | cons text texts ih => simp [tellAll, ih]

@[simp] theorem quiet_tellAll : Quiet (tellAll true texts) ↔ True := by
  induction texts with
  | nil => simp [tellAll]
  | cons text texts ih => simp [tellAll, ih]

@[simp] theorem record_ok (level : Level) (text : String) :
    (record m level text).result = .ok () := by
  unfold record
  split <;> rfl

@[simp] theorem quiet_record (level : Level) (text : String) :
    Quiet (record m level text) ↔ m.shows level = false := by
  simp [record]

@[simp] theorem quiet_status : Quiet (status m t) ↔ ToolQuiet m t := by
  unfold status ToolQuiet
  cases m.tool t <;> simp

@[simp] theorem quiet_succeeds : Quiet (succeeds m t) ↔ ToolQuiet m t := by
  unfold succeeds status ToolQuiet
  cases m.tool t <;> simp

@[simp] theorem succeeds_ok {b : Bool} : (succeeds m t).result = .ok b ↔ toolOk m t = b := by
  unfold succeeds status toolOk
  cases m.tool t <;> simp

@[simp] theorem quiet_runEchoed : Quiet (runEchoed m true op) ↔ True := by
  simp [runEchoed]

@[simp] theorem runEchoed_ok (json : Bool) {u : Unit} :
    (runEchoed m json op).result = .ok u ↔ m.fault op = none := by
  simp [runEchoed]

end Printing

/- The commands of Linux: which tools they run, and where they stop. -/
section Linux

open Rathole.Console.Linux

variable (m : Machine)

def LacksQuiet (turn : Nat) (database : String) (add : Tool) : Prop :=
  ToolQuiet m ⟨"getent", [database, serviceAccount], turn⟩ ∧
    (toolOk m ⟨"getent", [database, serviceAccount], turn⟩ = false → ToolQuiet m add)

def lacksOk (turn : Nat) (database : String) (add : Tool) : Bool :=
  !toolOk m ⟨"getent", [database, serviceAccount], turn⟩ && !toolOk m add

variable {m} {turn : Nat} {database path mode config : String} {t add : Tool}

@[simp] theorem quiet_lacks :
    Quiet (lacks m turn database add) ↔ LacksQuiet m turn database add := by
  simp [lacks, LacksQuiet]

@[simp] theorem lacks_ok {b : Bool} :
    (lacks m turn database add).result = .ok b ↔ lacksOk m turn database add = b := by
  unfold lacks lacksOk
  cases known : toolOk m ⟨"getent", [database, serviceAccount], turn⟩ <;> cases b <;> simp [known]

@[simp] theorem quiet_ensureRoot : Quiet (ensureRoot m) ↔ True := by
  simp [ensureRoot]

@[simp] theorem ensureRoot_ok {u : Unit} :
    (ensureRoot m).result = .ok u ↔ m.elevated = true := by
  simp [ensureRoot]

@[simp] theorem quiet_commandOk : Quiet (commandOk m t) ↔ ToolQuiet m t := by
  unfold commandOk status ToolQuiet
  cases m.tool t with
  | absent error => simp
  | exited success lines => cases success <;> simp

@[simp] theorem commandOk_ok {u : Unit} :
    (commandOk m t).result = .ok u ↔ toolOk m t = true := by
  unfold commandOk status toolOk
  cases m.tool t with
  | absent error => simp
  | exited success lines => cases success <;> simp

variable (m)

/-- The tools that see to the group and the user print nothing. -/
def AccountQuiet (turn : Nat) : Prop :=
  LacksQuiet m turn "group" (groupAdd turn) ∧
  (lacksOk m turn "group" (groupAdd turn) = true → ToolQuiet m (addGroup turn)) ∧
  ((lacksOk m turn "group" (groupAdd turn) = true → toolOk m (addGroup turn) = true) →
    LacksQuiet m turn "passwd" (userAdd turn) ∧
    (lacksOk m turn "passwd" (userAdd turn) = true → ToolQuiet m (addUser turn)))

def AccountOk (turn : Nat) : Prop :=
  (lacksOk m turn "group" (groupAdd turn) = true → toolOk m (addGroup turn) = true) ∧
  (lacksOk m turn "passwd" (userAdd turn) = true → toolOk m (addUser turn) = true)

def OwnerQuiet (turn : Nat) (path mode : String) : Prop :=
  ToolQuiet m ⟨"chown", ["root:rathole-x", path], turn⟩ ∧
    (toolOk m ⟨"chown", ["root:rathole-x", path], turn⟩ = true →
      ToolQuiet m ⟨"chmod", [mode, path], turn⟩)

def OwnerOk (turn : Nat) (path mode : String) : Prop :=
  toolOk m ⟨"chown", ["root:rathole-x", path], turn⟩ = true ∧
    toolOk m ⟨"chmod", [mode, path], turn⟩ = true

def SecureQuiet (turn : Nat) (path : String) : Prop :=
  m.fault (.createDir configDir) = none → OwnerQuiet m turn configDir "0755" ∧
    (OwnerOk m turn configDir "0755" → m.present path = true → OwnerQuiet m turn path "0644")

def SecureOk (turn : Nat) (path : String) : Prop :=
  m.fault (.createDir configDir) = none ∧ OwnerOk m turn configDir "0755" ∧
    (m.present path = true → OwnerOk m turn path "0644")

variable {m}

@[simp] theorem quiet_ensureServiceAccount :
    Quiet (ensureServiceAccount m turn) ↔ (m.elevated = true → AccountQuiet m turn) := by
  cases lacking : lacksOk m turn "group" (groupAdd turn) <;>
    simp [ensureServiceAccount, AccountQuiet, lacking]

@[simp] theorem ensureServiceAccount_ok {u : Unit} :
    (ensureServiceAccount m turn).result = .ok u ↔ m.elevated = true ∧ AccountOk m turn := by
  cases group : lacksOk m turn "group" (groupAdd turn) <;>
    cases user : lacksOk m turn "passwd" (userAdd turn) <;>
    simp [ensureServiceAccount, AccountOk, group, user]

@[simp] theorem quiet_owner : Quiet (owner m turn path mode) ↔ OwnerQuiet m turn path mode := by
  simp [owner, OwnerQuiet]

@[simp] theorem owner_ok {u : Unit} :
    (owner m turn path mode).result = .ok u ↔ OwnerOk m turn path mode := by
  simp [owner, OwnerOk]

@[simp] theorem quiet_secureManagedConfig :
    Quiet (secureManagedConfig m turn path) ↔ SecureQuiet m turn path := by
  simp [secureManagedConfig, SecureQuiet]

@[simp] theorem secureManagedConfig_ok {u : Unit} :
    (secureManagedConfig m turn path).result = .ok u ↔ SecureOk m turn path := by
  simp [secureManagedConfig, SecureOk]

variable (m)

/-- The binary is copied; what follows are two tools. -/
def CopyOk : Prop :=
  m.elevated = true ∧ m.fault (.createDir "/usr/local/lib/rathole-x") = none ∧
    m.fault .currentExe = none ∧ m.fault .copyBinary = none

def DeployQuiet : Prop :=
  CopyOk m → ToolQuiet m chownBinary ∧ (toolOk m chownBinary = true → ToolQuiet m chmodBinary)

def DeployOk : Prop := CopyOk m ∧ toolOk m chownBinary = true ∧ toolOk m chmodBinary = true

variable {m}

@[simp] theorem quiet_deployBinary : Quiet (deployBinary m) ↔ DeployQuiet m := by
  simp [deployBinary, DeployQuiet, CopyOk]

@[simp] theorem deployBinary_ok {binary : String} :
    (deployBinary m).result = .ok binary ↔ DeployOk m ∧ binary = installedBinary := by
  rw [eq_comm (a := binary)]
  simp [deployBinary, DeployOk, CopyOk, and_assoc]

end Linux

section Systemd

open Rathole.Console.Systemd

variable (m : Machine)

/-- A service that cannot be stopped or started makes a log record. -/
def Systemd.EachQuiet (verb : String) (services : List (String × ServiceRole)) : Prop :=
  ∀ e ∈ services, trySystemctl m [verb, unitOf m e.1 e.2] = true ∨ m.shows .warn = false

/-- The unit is written again, or is not there. -/
def Systemd.RewriteOk (services : List (String × ServiceRole)) : Prop :=
  ∀ e ∈ services, m.present (unitPath (unitOf m e.1 e.2)) = true →
    m.fault (.renderService e.1) = none ∧
      m.fault (.writeFile (unitPath (unitOf m e.1 e.2))) = none

/-- Up to the first unit that cannot be written, none is missing. -/
def Systemd.RewriteQuiet : List (String × ServiceRole) → Prop
  | [] => True
  | e :: services =>
    (m.present (unitPath (unitOf m e.1 e.2)) = false → m.shows .warn = false) ∧
      (Systemd.RewriteOk m [e] → Systemd.RewriteQuiet services)

variable {m} {role : ServiceRole} {services : List (String × ServiceRole)} {verb : String}

theorem Systemd.quiet_installService {args : InstallArgs} :
    Quiet (Systemd.installService m args role) ↔ args.allowUserConfig = true := by
  cases unsafe_ : args.allowUserConfig <;>
    simp [Systemd.installService, Linux.announcement, unsafe_]

theorem Systemd.quiet_uninstallService {args : UninstallArgs} :
    Quiet (Systemd.uninstallService m args) ↔ False := by
  simp [Systemd.uninstallService]

@[simp] theorem Systemd.quiet_controlOne {action : ServiceAction} {name : String} :
    Quiet (Systemd.controlOne m action name role) ↔ True := by
  simp [Systemd.controlOne, runSystemctl]

@[simp] theorem Systemd.eachBestEffort_ok :
    (Systemd.eachBestEffort m verb services).result = .ok () := by
  induction services with
  | nil => rfl
  | cons e services ih => simp [Systemd.eachBestEffort, ih]

@[simp] theorem Systemd.quiet_eachBestEffort :
    Quiet (Systemd.eachBestEffort m verb services) ↔ Systemd.EachQuiet m verb services := by
  induction services with
  | nil => simp [Systemd.eachBestEffort, Systemd.EachQuiet]
  | cons e services ih =>
    cases known : trySystemctl m [verb, unitOf m e.1 e.2] <;>
      simp [Systemd.eachBestEffort, ih, known, Systemd.EachQuiet]

@[simp] theorem Systemd.rewriteUnits_ok {u : Unit} :
    (Systemd.rewriteUnits m services).result = .ok u ↔ Systemd.RewriteOk m services := by
  induction services with
  | nil => simp [Systemd.rewriteUnits, Systemd.RewriteOk]
  | cons e services ih =>
    cases known : m.present (unitPath (unitOf m e.1 e.2)) <;>
      simp [Systemd.rewriteUnits, ih, known, Systemd.RewriteOk, and_assoc]

@[simp] theorem Systemd.quiet_rewriteUnits :
    Quiet (Systemd.rewriteUnits m services) ↔ Systemd.RewriteQuiet m services := by
  induction services with
  | nil => simp [Systemd.rewriteUnits, Systemd.RewriteQuiet]
  | cons e services ih =>
    cases known : m.present (unitPath (unitOf m e.1 e.2)) <;>
      simp [Systemd.rewriteUnits, ih, known, Systemd.RewriteQuiet, Systemd.RewriteOk]

/-- An upgrade that stops before its last line. -/
theorem Systemd.quiet_upgradeBinary : Quiet (Systemd.upgradeBinary m) ↔ m.services ≠ [] ∧
    (m.elevated = true → Systemd.EachQuiet m "stop" m.services ∧ DeployQuiet m ∧
      (DeployOk m → Systemd.RewriteQuiet m m.services ∧
        (Systemd.RewriteOk m m.services →
          m.fault (.run "systemctl" ["daemon-reload"]) ≠ none))) := by
  by_cases none : m.services = []
  · simp [Systemd.upgradeBinary, none]
  · simp [Systemd.upgradeBinary, none, runSystemctl]

end Systemd

section OpenRc

open Rathole.Console.OpenRc

variable (m : Machine)

def OpenRc.EachQuiet (verb : String) (services : List (String × ServiceRole)) : Prop :=
  ∀ e ∈ services, tryRc m "rc-service" [serviceOf m e.1 e.2, verb] = true ∨
    m.shows .warn = false

def OpenRc.RewriteOk (services : List (String × ServiceRole)) : Prop :=
  ∀ e ∈ services, m.present (initdPath (serviceOf m e.1 e.2)) = true →
    m.fault (.renderService e.1) = none ∧
      m.fault (.writeFile (initdPath (serviceOf m e.1 e.2))) = none ∧
      m.fault (.setMode (initdPath (serviceOf m e.1 e.2))) = none

def OpenRc.RewriteQuiet : List (String × ServiceRole) → Prop
  | [] => True
  | e :: services =>
    (m.present (initdPath (serviceOf m e.1 e.2)) = false → m.shows .warn = false) ∧
      (OpenRc.RewriteOk m [e] → OpenRc.RewriteQuiet services)

def OpenRc.RuntimeQuiet : Prop :=
  m.present "/run/openrc/softlevel" = true ∨ ToolQuiet m ⟨"openrc", ["default"], 0⟩

variable {m} {role : ServiceRole} {services : List (String × ServiceRole)} {verb : String}

theorem OpenRc.quiet_installService {args : InstallArgs} :
    Quiet (OpenRc.installService m args role) ↔ args.allowUserConfig = true := by
  cases unsafe_ : args.allowUserConfig <;>
    simp [OpenRc.installService, Linux.announcement, unsafe_]

theorem OpenRc.quiet_uninstallService {args : UninstallArgs} :
    Quiet (OpenRc.uninstallService m args) ↔ False := by
  simp [OpenRc.uninstallService]

@[simp] theorem OpenRc.quiet_controlOne {action : ServiceAction} {name : String} :
    Quiet (OpenRc.controlOne m action name role) ↔ True := by
  simp [OpenRc.controlOne, runRc]

@[simp] theorem OpenRc.eachBestEffort_ok :
    (OpenRc.eachBestEffort m verb services).result = .ok () := by
  induction services with
  | nil => rfl
  | cons e services ih => simp [OpenRc.eachBestEffort, ih]

@[simp] theorem OpenRc.quiet_eachBestEffort :
    Quiet (OpenRc.eachBestEffort m verb services) ↔ OpenRc.EachQuiet m verb services := by
  induction services with
  | nil => simp [OpenRc.eachBestEffort, OpenRc.EachQuiet]
  | cons e services ih =>
    cases known : tryRc m "rc-service" [serviceOf m e.1 e.2, verb] <;>
      simp [OpenRc.eachBestEffort, ih, known, OpenRc.EachQuiet]

@[simp] theorem OpenRc.rewriteScripts_ok {u : Unit} :
    (OpenRc.rewriteScripts m services).result = .ok u ↔ OpenRc.RewriteOk m services := by
  induction services with
  | nil => simp [OpenRc.rewriteScripts, OpenRc.RewriteOk]
  | cons e services ih =>
    cases known : m.present (initdPath (serviceOf m e.1 e.2)) <;>
      simp [OpenRc.rewriteScripts, ih, known, OpenRc.RewriteOk, and_assoc]

@[simp] theorem OpenRc.quiet_rewriteScripts :
    Quiet (OpenRc.rewriteScripts m services) ↔ OpenRc.RewriteQuiet m services := by
  induction services with
  | nil => simp [OpenRc.rewriteScripts, OpenRc.RewriteQuiet]
  | cons e services ih =>
    cases known : m.present (initdPath (serviceOf m e.1 e.2)) <;>
      simp [OpenRc.rewriteScripts, ih, known, OpenRc.RewriteQuiet, OpenRc.RewriteOk]

@[simp] theorem OpenRc.quiet_ensureOpenrcRuntime :
    Quiet (ensureOpenrcRuntime m) ↔ OpenRc.RuntimeQuiet m := by
  cases known : m.present "/run/openrc/softlevel" <;>
    simp [ensureOpenrcRuntime, OpenRc.RuntimeQuiet, known]

@[simp] theorem OpenRc.ensureOpenrcRuntime_ok : (ensureOpenrcRuntime m).result = .ok () := by
  unfold ensureOpenrcRuntime status
  cases m.tool ⟨"openrc", ["default"], 0⟩ <;> simp

/-- An upgrade that stops before its last line. -/
theorem OpenRc.quiet_upgradeBinary : Quiet (OpenRc.upgradeBinary m) ↔ m.services ≠ [] ∧
    (m.elevated = true → OpenRc.RuntimeQuiet m ∧ OpenRc.EachQuiet m "stop" m.services ∧
      DeployQuiet m ∧
      (DeployOk m → OpenRc.RewriteQuiet m m.services ∧ ¬ OpenRc.RewriteOk m m.services)) := by
  by_cases none : m.services = []
  · simp [OpenRc.upgradeBinary, none]
  · simp [OpenRc.upgradeBinary, none]

end OpenRc

section Facade

variable (m : Machine)

/-- The install fails before the init system is asked. -/
def Linux.InstallQuiet (args : InstallArgs) : Prop :=
  args.allowUserConfig = false → m.elevated = true → AccountQuiet m 0 ∧
    (AccountOk m 0 → SecureQuiet m 0 args.config.display ∧
      (SecureOk m 0 args.config.display → m.init = none))

def Linux.UpgradeQuiet : Prop :=
  match m.init with
  | none => True
  | some .systemd => m.services ≠ [] ∧
      (m.elevated = true → Systemd.EachQuiet m "stop" m.services ∧ DeployQuiet m ∧
        (DeployOk m → Systemd.RewriteQuiet m m.services ∧
          (Systemd.RewriteOk m m.services →
            m.fault (.run "systemctl" ["daemon-reload"]) ≠ none)))
  | some .openRc => m.services ≠ [] ∧
      (m.elevated = true → OpenRc.RuntimeQuiet m ∧ OpenRc.EachQuiet m "stop" m.services ∧
        DeployQuiet m ∧
        (DeployOk m → OpenRc.RewriteQuiet m m.services ∧ ¬ OpenRc.RewriteOk m m.services))

variable {m} {role : ServiceRole}

theorem Linux.quiet_installService {args : InstallArgs} :
    Quiet (Linux.installService m args role) ↔ Linux.InstallQuiet m args := by
  unfold Linux.InstallQuiet
  cases unsafe_ : args.allowUserConfig with
  | true => simp [Linux.installService, unsafe_]
  | false =>
    cases root : m.elevated with
    | false => simp [Linux.installService, unsafe_, root]
    | true =>
      cases started : m.init with
      | none => simp [Linux.installService, unsafe_, root, Linux.init, started]
      | some init =>
        cases init <;>
          simp [Linux.installService, unsafe_, root, Linux.init, started,
            Systemd.quiet_installService, OpenRc.quiet_installService]

/-- An install that prints nothing stops at an error. -/
theorem Linux.installService_fails {args : InstallArgs} {u : Unit}
    (quiet : Linux.InstallQuiet m args) : (Linux.installService m args role).result ≠ .ok u := by
  intro ran
  have safe : args.allowUserConfig = false := by
    cases unsafe_ : args.allowUserConfig with
    | true => simp [Linux.installService, unsafe_] at ran
    | false => rfl
  simp only [Linux.installService, safe, Bool.false_eq_true, if_false, Flow.result_bind_ok,
    ensureRoot_ok, ensureServiceAccount_ok, secureManagedConfig_ok] at ran
  obtain ⟨_, root, _, ⟨-, account⟩, _, secured, init, started, -⟩ := ran
  have without : m.init = none := ((quiet safe root).2 account).2 secured
  simp [Linux.init, without] at started

theorem Linux.quiet_uninstallService {args : UninstallArgs} :
    Quiet (Linux.uninstallService m args) ↔ m.init = none := by
  cases started : m.init with
  | none => simp [Linux.uninstallService, Linux.init, started]
  | some init =>
    cases init <;>
      simp [Linux.uninstallService, Linux.init, started, Systemd.quiet_uninstallService,
        OpenRc.quiet_uninstallService]

theorem Linux.quiet_uninstallAll {args : UninstallArgs} :
    Quiet (Linux.uninstallAll m args) ↔ m.services = [] ∨ m.init = none := by
  unfold Linux.uninstallAll
  cases m.services with
  | nil => simp [Linux.uninstallEach]
  | cons e services =>
    cases started : m.init with
    | none =>
      simp [Linux.uninstallEach, Linux.uninstallService, Linux.init, started]
    | some init => simp [Linux.uninstallEach, Linux.quiet_uninstallService, started]

theorem Linux.quiet_controlService {action : ServiceAction} {args : ServiceArgs} :
    Quiet (Linux.controlService m action args) ↔ True := by
  unfold Linux.controlService
  generalize (if args.all then m.services.map Prod.fst else [args.name.getD "default"]) = names
  induction names with
  | nil => simp [Linux.controlEach]
  | cons name names ih =>
    cases started : m.init with
    | none => simp [Linux.controlEach, Linux.init, started]
    | some init => cases init <;> simp [Linux.controlEach, Linux.init, started, ih]

theorem Linux.quiet_upgradeBinary : Quiet (Linux.upgradeBinary m) ↔ Linux.UpgradeQuiet m := by
  unfold Linux.UpgradeQuiet
  cases started : m.init with
  | none => simp [Linux.upgradeBinary, Linux.init, started]
  | some init =>
    cases init <;>
      simp [Linux.upgradeBinary, Linux.init, started, Systemd.quiet_upgradeBinary,
        OpenRc.quiet_upgradeBinary]

end Facade

section OnWindows

open OnWindows

variable (m : Machine)

/-- The removal of a file is in the log. -/
def RemovalQuiet (path : String) : Prop :=
  match m.removal path with
  | .removed => m.shows .info = false
  | .missing => True
  | .failed _ => m.shows .warn = false

def OnWindows.FilesQuiet (name config : String) (purge : Bool) : Prop :=
  RemovalQuiet m (batPath name) ∧ (purge = true → RemovalQuiet m config) ∧
    (m.othersRemain config = false → RemovalQuiet m versionPath)

def grantTool (path : String) : Tool := ⟨"icacls", [path, "/grant", "*S-1-5-32-545:M"], 0⟩

def GrantQuiet (path : String) : Prop :=
  m.present path = true → ToolQuiet m (grantTool path) ∧
    (if toolOk m (grantTool path) then m.shows .info = false else m.shows .warn = false)

/-- No step of the install fails. -/
def OnWindows.InstallOk (args : InstallArgs) (role : ServiceRole) : Prop :=
  m.fault (.createDir dir) = none ∧ m.fault (.writeFile versionPath) = none ∧
    m.fault .currentExe = none ∧ m.fault .copyBinary = none ∧
    m.fault (.createDir logsPath) = none ∧ m.fault .openManager = none ∧
    m.fault (.createService (scmName role args.name)) = none ∧
    m.fault (.run "sc.exe" ["sidtype", scmName role args.name, "restricted"]) = none ∧
    m.fault (.run "sc.exe" ["privs", scmName role args.name, "SeChangeNotifyPrivilege"]) = none ∧
    (∀ cmd ∈ lockdownIcaclsArgs dir installedExe args.config.display logsPath
      (OnWindows.managedServiceNames m (scmName role args.name)) args.allowUserConfig,
      m.fault (.icacls cmd) = none) ∧
    m.fault (.startService (scmName role args.name)) = none

/-- An install that succeeds makes a log record, and another when the helper script fails. -/
def OnWindows.InstallQuiet (args : InstallArgs) (role : ServiceRole) : Prop :=
  OnWindows.InstallOk m args role →
    (m.fault (.writeFile (batPath args.name)) ≠ none → m.shows .warn = false) ∧
      m.shows .info = false

variable {m} {role : ServiceRole} {name path config service : String} {purge : Bool}
  {cmds : List Icacls}

@[simp] theorem quiet_recordRemoval (what : String) :
    Quiet (recordRemoval m what path) ↔ RemovalQuiet m path := by
  unfold recordRemoval RemovalQuiet
  cases m.removal path <;> simp

@[simp] theorem recordRemoval_ok (what : String) : (recordRemoval m what path).result = .ok () := by
  unfold recordRemoval
  cases m.removal path <;> simp

@[simp] theorem OnWindows.quiet_removeServiceFiles :
    Quiet (OnWindows.removeServiceFiles m name config purge) ↔
      OnWindows.FilesQuiet m name config purge := by
  cases purge <;> cases known : m.othersRemain config <;>
    simp [OnWindows.removeServiceFiles, OnWindows.FilesQuiet, known]

@[simp] theorem OnWindows.removeServiceFiles_ok :
    (OnWindows.removeServiceFiles m name config purge).result = .ok () := by
  simp [OnWindows.removeServiceFiles]

@[simp] theorem quiet_grantUsersModify :
    Quiet (grantUsersModify m path) ↔ GrantQuiet m path := by
  unfold grantUsersModify status GrantQuiet toolOk ToolQuiet
  simp only [← grantTool.eq_1]
  cases m.tool (grantTool path) with
  | absent error => simp
  | exited success lines => cases success <;> simp

@[simp] theorem grantUsersModify_ok : (grantUsersModify m path).result = .ok () := by
  unfold grantUsersModify status
  cases m.tool ⟨"icacls", [path, "/grant", "*S-1-5-32-545:M"], 0⟩ with
  | absent error => simp
  | exited success lines => cases success <;> simp

@[simp] theorem quiet_runAllIcacls : Quiet (runAllIcacls m true cmds) ↔ True := by
  induction cmds with
  | nil => simp [runAllIcacls]
  | cons cmd cmds ih => simp [runAllIcacls, ih]

@[simp] theorem runAllIcacls_ok (json : Bool) {u : Unit} :
    (runAllIcacls m json cmds).result = .ok u ↔ ∀ cmd ∈ cmds, m.fault (.icacls cmd) = none := by
  induction cmds with
  | nil => simp [runAllIcacls]
  | cons cmd cmds ih => simp [runAllIcacls, ih]

@[simp] theorem quiet_orRollBack {x : Output Unit} (report : String → String) :
    Quiet (orRollBack x report) ↔ Quiet x := by
  unfold orRollBack
  cases ran : x.result <;> simp [ran]

@[simp] theorem orRollBack_ok {x : Output Unit} (report : String → String) {u : Unit} :
    (orRollBack x report).result = .ok u ↔ x.result = .ok u := by
  unfold orRollBack
  cases ran : x.result <;> simp [ran]

@[simp] theorem quiet_runSc {args : List String} : Quiet (runSc m true args) ↔ True :=
  quiet_runEchoed

@[simp] theorem runSc_ok (json : Bool) {args : List String} {u : Unit} :
    (runSc m json args).result = .ok u ↔ m.fault (.run "sc.exe" args) = none :=
  runEchoed_ok json

@[simp] theorem quiet_configureServiceHardening :
    Quiet (configureServiceHardening m true service) ↔ True := by
  simp [configureServiceHardening]

@[simp] theorem quiet_writeUninstallBat : Quiet (writeUninstallBat m name) ↔
    (m.fault (.writeFile (batPath name)) ≠ none → m.shows .warn = false) := by
  unfold writeUninstallBat
  cases m.fault (.writeFile (batPath name)) <;> simp

@[simp] theorem writeUninstallBat_ok : (writeUninstallBat m name).result = .ok () := by
  unfold writeUninstallBat
  cases m.fault (.writeFile (batPath name)) <;> simp

theorem OnWindows.quiet_install {args : InstallArgs} :
    Quiet (OnWindows.install m true args role) ↔ OnWindows.InstallQuiet m args role := by
  simp [OnWindows.install, OnWindows.InstallQuiet, OnWindows.InstallOk, configureServiceHardening]

variable (m)

def StopQuiet (service : String) : Prop :=
  match m.stopping service with
  | .notRunning | .stopped | .pollFailed _ => True
  | .late | .refused _ => m.shows .warn = false

def stopOk (service : String) : Bool :=
  match m.stopping service with
  | .notRunning | .stopped | .late | .refused _ => true
  | .pollFailed _ => false

/-- No step of the uninstall fails. -/
def OnWindows.UninstallOk (config : String) : Prop :=
  m.fault .openManager = none ∧ ∃ service, m.owner config = .ok service ∧
    m.fault (.queryStatus service) = none ∧ stopOk m service = true ∧
    m.fault (.deleteService service) = none

/-- A service that is slow to stop makes a log record, and so does the end. -/
def OnWindows.UninstallQuiet (name config : String) (purge : Bool) : Prop :=
  m.fault .openManager = none → ∀ service, m.owner config = .ok service →
    m.fault (.queryStatus service) = none → StopQuiet m service ∧
      (stopOk m service = true → m.fault (.deleteService service) = none →
        OnWindows.FilesQuiet m name config purge ∧ m.shows .info = false)

/-- The service of a configuration is there, and cannot be removed. -/
def OnWindows.TurnOk (name : String) : Prop :=
  m.registeredEither (configPath name) = true → OnWindows.UninstallOk m (configPath name)

def OnWindows.TurnQuiet (purge : Bool) (name : String) : Prop :=
  (m.registeredEither (configPath name) = true →
    OnWindows.UninstallQuiet m name (configPath name) purge) ∧
  (m.registeredEither (configPath name) = false →
    OnWindows.FilesQuiet m name (configPath name) purge) ∧
  (OnWindows.TurnOk m name → purge = false → GrantQuiet m (configPath name))

/-- Up to the first service that cannot be removed. -/
def OnWindows.TurnsQuiet (purge : Bool) : List (String × ServiceRole) → Prop
  | [] => True
  | e :: services => OnWindows.TurnQuiet m purge e.1 ∧
      (OnWindows.TurnOk m e.1 → OnWindows.TurnsQuiet purge services)

/-- What holds up the upgrade of a service, and what it records. -/
def OnWindows.StopsQuiet (services : List (String × ServiceRole)) : Prop :=
  ∀ e ∈ services, opens m (scmName e.2 e.1) = true →
    (m.fault (.queryStatus (scmName e.2 e.1)) = none ∧
      m.fault (.stopService (scmName e.2 e.1)) = none) ∨ m.shows .warn = false

def OnWindows.MigrateQuiet (services : List (String × ServiceRole)) : Prop :=
  ∀ e ∈ services, ∀ args ∈ migrateSteps (scmName e.2 e.1),
    m.fault (.run "sc.exe" args) = none ∨ m.shows .warn = false

def OnWindows.StartsQuiet (services : List (String × ServiceRole)) : Prop :=
  ∀ e ∈ services, opens m (scmName e.2 e.1) = true →
    m.fault (.startService (scmName e.2 e.1)) = none ∨ m.shows .warn = false

/-- The access of every service is granted, and the binary copied and locked. -/
def OnWindows.UpdateOk : Prop :=
  (∀ e ∈ m.services, m.fault (.createDir logsPath) = none ∧
    ∀ cmd ∈ serviceAccessGrantArgs (scmName e.2 e.1) dir (configPath e.1),
      m.fault (.icacls cmd) = none) ∧
  m.fault .copyBinary = none ∧
  ∀ cmd ∈ exeLockdownArgs installedExe (m.services.map fun e => scmName e.2 e.1),
    m.fault (.icacls cmd) = none

variable {m} {services : List (String × ServiceRole)} {action : ServiceAction} {u : Unit}

@[simp] theorem quiet_stopForUninstall :
    Quiet (stopForUninstall m service) ↔ StopQuiet m service := by
  unfold stopForUninstall StopQuiet
  cases m.stopping service <;> simp

@[simp] theorem stopForUninstall_ok :
    (stopForUninstall m service).result = .ok u ↔ stopOk m service = true := by
  unfold stopForUninstall stopOk
  cases m.stopping service <;> simp

@[simp] theorem OnWindows.quiet_uninstall :
    Quiet (OnWindows.uninstall m name config purge) ↔
      OnWindows.UninstallQuiet m name config purge := by
  cases known : m.owner config <;> simp [OnWindows.uninstall, OnWindows.UninstallQuiet, known]

@[simp] theorem OnWindows.uninstall_ok :
    (OnWindows.uninstall m name config purge).result = .ok u ↔
      OnWindows.UninstallOk m config := by
  cases known : m.owner config <;> simp [OnWindows.uninstall, OnWindows.UninstallOk, known]

@[simp] theorem OnWindows.quiet_uninstallEach :
    Quiet (OnWindows.uninstallEach m purge services) ↔ OnWindows.TurnsQuiet m purge services := by
  induction services with
  | nil => simp [OnWindows.uninstallEach, OnWindows.TurnsQuiet]
  | cons e services ih =>
    cases known : m.registeredEither (configPath e.1) <;> cases purge <;>
      simp [OnWindows.uninstallEach, OnWindows.TurnsQuiet, OnWindows.TurnQuiet, OnWindows.TurnOk,
        known, ih, and_assoc, imp_and]

@[simp] theorem quiet_stopAndWait : Quiet (stopAndWait m service) ↔ True := by
  simp [stopAndWait]

@[simp] theorem stopAndWait_ok : (stopAndWait m service).result = .ok u ↔
    m.fault (.queryStatus service) = none ∧ m.fault (.stopService service) = none := by
  simp [stopAndWait]

@[simp] theorem OnWindows.quiet_controlOne :
    Quiet (OnWindows.controlOne m true action service) ↔ True := by
  cases action <;> simp [OnWindows.controlOne]

@[simp] theorem OnWindows.quiet_controlEach :
    Quiet (OnWindows.controlEach m true action services) ↔ True := by
  induction services with
  | nil => simp [OnWindows.controlEach]
  | cons e services ih => simp [OnWindows.controlEach, ih]

@[simp] theorem quiet_controlTargets {args : ServiceArgs} :
    Quiet (controlTargets m args) ↔ True := by
  cases known : m.roleOf (args.name.getD "default") <;> simp [controlTargets, known]

@[simp] theorem quiet_stopEach :
    Quiet (stopEach m services) ↔ OnWindows.StopsQuiet m services := by
  induction services with
  | nil => simp [stopEach, OnWindows.StopsQuiet]
  | cons e services ih =>
    have answers : (stopAndWait m (scmName e.2 e.1)).result = .ok () ↔ _ := stopAndWait_ok
    cases ran : (stopAndWait m (scmName e.2 e.1)).result with
    | ok u => simp [stopEach, OnWindows.StopsQuiet, ran, ih, answers.mp ran]
    | error error =>
      have stuck := mt answers.mpr (by simp [ran])
      by_cases found : opens m (scmName e.2 e.1) = true
      · simp [stopEach, OnWindows.StopsQuiet, ran, ih, stuck, found]
      · simp [stopEach, OnWindows.StopsQuiet, ih, found]

@[simp] theorem stopEach_ok : (stopEach m services).result = .ok () := by
  induction services with
  | nil => rfl
  | cons e services ih =>
    cases ran : (stopAndWait m (scmName e.2 e.1)).result <;> simp [stopEach, ran, ih]

@[simp] theorem quiet_migrateServiceHardening {steps : List (List String)} :
    Quiet (migrateServiceHardening m true service steps) ↔
      ∀ args ∈ steps, m.fault (.run "sc.exe" args) = none ∨ m.shows .warn = false := by
  induction steps with
  | nil => simp [migrateServiceHardening]
  | cons args steps ih =>
    have answers : (runSc m true args).result = .ok () ↔ _ := runSc_ok true
    cases ran : (runSc m true args).result with
    | ok u => simp [migrateServiceHardening, ran, ih, answers.mp ran]
    | error error =>
      have stuck := mt answers.mpr (by simp [ran])
      simp [migrateServiceHardening, ran, ih, stuck]

@[simp] theorem migrateServiceHardening_ok {steps : List (List String)} :
    (migrateServiceHardening m true service steps).result = .ok () := by
  induction steps with
  | nil => rfl
  | cons args steps ih =>
    cases ran : (runSc m true args).result <;> simp [migrateServiceHardening, ran, ih]

@[simp] theorem quiet_migrateEach :
    Quiet (migrateEach m true services) ↔ OnWindows.MigrateQuiet m services := by
  induction services with
  | nil => simp [migrateEach, OnWindows.MigrateQuiet]
  | cons e services ih => simp [migrateEach, OnWindows.MigrateQuiet, ih]

@[simp] theorem migrateEach_ok : (migrateEach m true services).result = .ok () := by
  induction services with
  | nil => rfl
  | cons e services ih => simp [migrateEach, ih]

@[simp] theorem quiet_grantEach : Quiet (grantEach m true services) ↔ True := by
  induction services with
  | nil => simp [grantEach]
  | cons e services ih => simp [grantEach, ih]

@[simp] theorem grantEach_ok : (grantEach m true services).result = .ok u ↔
    ∀ e ∈ services, m.fault (.createDir logsPath) = none ∧
      ∀ cmd ∈ serviceAccessGrantArgs (scmName e.2 e.1) dir (configPath e.1),
        m.fault (.icacls cmd) = none := by
  induction services with
  | nil => simp [grantEach]
  | cons e services ih => simp [grantEach, ih, and_assoc]

@[simp] theorem quiet_startEach :
    Quiet (startEach m services) ↔ OnWindows.StartsQuiet m services := by
  induction services with
  | nil => simp [startEach, OnWindows.StartsQuiet]
  | cons e services ih =>
    cases found : opens m (scmName e.2 e.1) <;>
      cases ran : m.fault (.startService (scmName e.2 e.1)) <;>
      simp [startEach, OnWindows.StartsQuiet, found, ran, ih]

@[simp] theorem startEach_ok : (startEach m services).result = .ok () := by
  induction services with
  | nil => rfl
  | cons e services ih =>
    cases ran : m.fault (.startService (scmName e.2 e.1)) <;> simp [startEach, ran, ih]

@[simp] theorem OnWindows.quiet_updateBinary : Quiet (updateBinary m true) ↔ True := by
  simp [updateBinary]

@[simp] theorem OnWindows.updateBinary_ok :
    (updateBinary m true).result = .ok u ↔ OnWindows.UpdateOk m := by
  simp [updateBinary, OnWindows.UpdateOk]

end OnWindows

end Rathole.Console
