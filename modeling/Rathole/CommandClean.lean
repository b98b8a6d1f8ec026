import Rathole.CommandEnvelope

set_option autoImplicit false

/- The one line of a command with `--json`, and when there is another. -/
namespace Rathole.Console

open ConfigEdit (ServiceRole)
open Traced (Flow)
open Traced.Flow (Silent)
open Json (Value linesOf linesOf_text)
open Windows (scmName)

section Shown

variable {A B : Type}

/-- What this process itself prints to standard output. -/
def Loud : Shown → Prop
  | .printed p => IsOut p
  | .relayed _ => False

abbrev Hushed (x : Command A) : Prop := Silent Loud x

@[simp] theorem hushed_lift (x : Output A) :
    Hushed (liftM x : Command A) ↔ Quiet x :=
  Flow.silent_mapTrace _

@[simp] theorem lift_ok (x : Output A) {a : A} :
    (liftM x : Command A).result = .ok a ↔ x.result = .ok a := by
  change ((x.mapTrace Shown.printed).mapError Failure.error).result = .ok a ↔ _
  simp

/-- The command takes its process down. -/
def Panics (x : Command A) : Prop := x.result = .error .panic

@[simp] theorem panics_pure (a : A) : Panics (pure a : Command A) ↔ False := by
  simp [Panics]

@[simp] theorem panics_fail (message : String) :
    Panics (.fail (.error message) : Command A) ↔ False := by
  simp [Panics]

@[simp] theorem panics_emit (w : Shown) : Panics (.emit w : Command Unit) ↔ False := by
  simp [Panics]

/-- What the machine and the tools do comes back, if need be as an error. -/
@[simp] theorem panics_lift (x : Output A) : Panics (liftM x : Command A) ↔ False := by
  change (x.result.mapError Failure.error = .error .panic) ↔ False
  cases x.result <;> simp [Except.mapError]

@[simp] theorem panics_bind {x : Command A} {f : A → Command B} :
    Panics (x >>= f) ↔ Panics x ∨ ∃ a, x.result = .ok a ∧ Panics (f a) := by
  unfold Panics
  cases ran : x.result with
  | ok a => simp [Flow.bind_ok ran]
  | error e => simp [Flow.bind_error ran]

@[simp] theorem panics_ite {c : Prop} [Decidable c] {x y : Command A} :
    Panics (if c then x else y) ↔ (c ∧ Panics x) ∨ (¬ c ∧ Panics y) := by
  split <;> simp [*]

end Shown

section Relay

open OnWindows

variable {m : Machine} {relaunch : Relaunch} {hasOk : String → Bool} {lines texts : List String}

@[simp] theorem errAll_ok : (errAll texts).result = .ok () := by
  induction texts with
  | nil => rfl
  | cons text texts ih => simp [errAll, ih]

@[simp] theorem quiet_errAll : Quiet (errAll texts) ↔ True := by
  induction texts with
  | nil => simp [errAll]
  | cons text texts ih => simp [errAll, IsOut, ih]

@[simp] theorem hushed_replayElevatedOutput :
    Hushed (replayElevatedOutput true hasOk lines) ↔ True := by
  cases found : (sortOut hasOk lines).1 <;> simp [replayElevatedOutput, found, Loud]

@[simp] theorem hushed_elevateAndReplay :
    Hushed (elevateAndReplay true relaunch hasOk) ↔ True := by
  cases relaunch <;> simp [elevateAndReplay]

@[simp] theorem panics_elevateAndReplay :
    Panics (elevateAndReplay true relaunch hasOk) ↔ False := by
  cases relaunch with
  | error error => simp [elevateAndReplay]
  | ok lines =>
    cases found : (sortOut hasOk lines).1 <;>
      simp [elevateAndReplay, replayElevatedOutput, found]

@[simp] theorem OnWindows.panics_elevateForConfigIfNeeded :
    Panics (OnWindows.elevateForConfigIfNeeded m true relaunch hasOk) ↔ False := by
  simp [OnWindows.elevateForConfigIfNeeded]

@[simp] theorem OnWindows.hushed_elevateForConfigIfNeeded :
    Hushed (OnWindows.elevateForConfigIfNeeded m true relaunch hasOk) ↔ True := by
  simp [OnWindows.elevateForConfigIfNeeded]

variable (m)

/-- An uninstall of one service, elevated or without anything to ask for it. -/
def OnWindows.RemoveQuiet (args : UninstallArgs) : Prop :=
  if m.registered args.config then
    m.elevated = true → OnWindows.UninstallQuiet m args.name args.config args.purge ∧
      (OnWindows.UninstallOk m args.config → args.purge = false → GrantQuiet m args.config)
  else
    OnWindows.FilesQuiet m args.name args.config args.purge ∧
      (args.purge = false → GrantQuiet m args.config)

def OnWindows.UpgradeQuiet : Prop :=
  m.elevated = true → m.fault .openManager = none → OnWindows.StopsQuiet m m.services ∧
    OnWindows.MigrateQuiet m m.services ∧
    (m.fault .currentExe = none → (OnWindows.UpdateOk m → OnWindows.StartsQuiet m m.services) ∧
      (¬ OnWindows.UpdateOk m → m.shows .warn = false))

variable {m}

theorem OnWindows.hushed_installService {args : InstallArgs} {role : ServiceRole} :
    Hushed (OnWindows.installService m true relaunch hasOk args role) ↔
      (m.elevated = true → OnWindows.InstallQuiet m args role) := by
  cases root : m.elevated <;> simp [OnWindows.installService, root, OnWindows.quiet_install]

theorem OnWindows.hushed_uninstallService {args : UninstallArgs} :
    Hushed (OnWindows.uninstallService m true relaunch hasOk args) ↔
      OnWindows.RemoveQuiet m args := by
  unfold OnWindows.RemoveQuiet
  cases known : m.registered args.config <;> cases root : m.elevated <;>
    cases purge : args.purge <;> simp [OnWindows.uninstallService, known, root, purge]

theorem OnWindows.hushed_uninstallAll {args : UninstallArgs} :
    Hushed (OnWindows.uninstallAll m true relaunch hasOk args) ↔
      (m.elevated = true → OnWindows.TurnsQuiet m args.purge m.services) := by
  by_cases none : m.services = []
  · simp [OnWindows.uninstallAll, none, OnWindows.TurnsQuiet]
  · cases root : m.elevated <;> simp [OnWindows.uninstallAll, none, root]

theorem OnWindows.hushed_controlService {action : ServiceAction} {args : ServiceArgs} :
    Hushed (OnWindows.controlService m true relaunch hasOk action args) ↔ True := by
  cases root : m.elevated <;> simp [OnWindows.controlService, root]

theorem OnWindows.hushed_upgradeBinary :
    Hushed (OnWindows.upgradeBinary m true relaunch hasOk) ↔ OnWindows.UpgradeQuiet m := by
  unfold OnWindows.UpgradeQuiet
  cases root : m.elevated with
  | false => simp [OnWindows.upgradeBinary, root]
  | true =>
    have answers := OnWindows.updateBinary_ok (m := m) (u := ())
    cases ran : (updateBinary m true).result with
    | ok u => simp [OnWindows.upgradeBinary, root, ran, answers.mp ran]
    | error error =>
      have stuck := mt answers.mpr (by simp [ran])
      by_cases unseen : m.shows .warn = false
      · have starts : OnWindows.StartsQuiet m m.services := fun e _ _ => Or.inr unseen
        simp [OnWindows.upgradeBinary, root, ran, stuck, unseen, starts]
      · simp [OnWindows.upgradeBinary, root, ran, stuck, unseen]

theorem OnWindows.panics_installService {args : InstallArgs} {role : ServiceRole} :
    Panics (OnWindows.installService m true relaunch hasOk args role) ↔ False := by
  simp [OnWindows.installService]

theorem OnWindows.panics_uninstallService {args : UninstallArgs} :
    Panics (OnWindows.uninstallService m true relaunch hasOk args) ↔ False := by
  cases purge : args.purge <;> simp [OnWindows.uninstallService, purge]

theorem OnWindows.panics_uninstallAll {args : UninstallArgs} :
    Panics (OnWindows.uninstallAll m true relaunch hasOk args) ↔ False := by
  simp [OnWindows.uninstallAll]

theorem OnWindows.panics_controlService {action : ServiceAction} {args : ServiceArgs} :
    Panics (OnWindows.controlService m true relaunch hasOk action args) ↔ False := by
  simp [OnWindows.controlService]

theorem OnWindows.panics_upgradeBinary :
    Panics (OnWindows.upgradeBinary m true relaunch hasOk) ↔ False := by
  cases ran : (updateBinary m true).result <;> simp [OnWindows.upgradeBinary, ran]

/-- An elevated install gets through when no step fails. -/
theorem OnWindows.installService_ok {args : InstallArgs} {role : ServiceRole} {u : Unit}
    (root : m.elevated = true) :
    (OnWindows.installService m true relaunch hasOk args role).result = .ok u ↔
      OnWindows.InstallOk m args role := by
  simp [OnWindows.installService, root, OnWindows.install, OnWindows.InstallOk,
    configureServiceHardening, and_assoc]

/-- The elevated process comes back with an envelope. -/
def OnWindows.HandsOver (relaunch : Relaunch) (hasOk : String → Bool) : Prop :=
  ∃ lines text, relaunch = .ok lines ∧ (sortOut hasOk lines).1 = some text

/-- An install that is not elevated hands its work over. -/
theorem OnWindows.installService_ok_of_relaunch {args : InstallArgs} {role : ServiceRole} {u : Unit}
    (root : m.elevated = false) :
    (OnWindows.installService m true relaunch hasOk args role).result = .ok u ↔
      OnWindows.HandsOver relaunch hasOk := by
  cases relaunch with
  | error error => simp [OnWindows.installService, root, elevateAndReplay, OnWindows.HandsOver]
  | ok lines =>
    cases found : (sortOut hasOk lines).1 <;>
      simp [OnWindows.installService, root, elevateAndReplay, replayElevatedOutput, found,
        OnWindows.HandsOver]

end Relay

namespace Process

variable (p : Process)

/-- The command goes to an elevated process, to be run there. -/
def Elevates : Prop :=
  p.platform = .windows ∧ p.machine.writable = false ∧ p.machine.elevated = false

def InstallClean (args : InstallArgs) (role : ServiceRole) : Prop :=
  match p.platform with
  | .windows => p.machine.elevated = true → OnWindows.InstallQuiet p.machine args role
  | .linux => Linux.InstallQuiet p.machine args
  | .other => True

def UninstallClean (args : UninstallArgs) : Prop :=
  match p.platform with
  | .windows => OnWindows.RemoveQuiet p.machine args
  | .linux => p.machine.init = none
  | .other => True

def UninstallAllClean (args : UninstallArgs) : Prop :=
  match p.platform with
  | .windows => p.machine.elevated = true →
      OnWindows.TurnsQuiet p.machine args.purge p.machine.services
  | .linux => p.machine.services = [] ∨ p.machine.init = none
  | .other => True

def UpgradeClean : Prop :=
  match p.platform with
  | .windows => OnWindows.UpgradeQuiet p.machine
  | .linux => Linux.UpgradeQuiet p.machine
  | .other => True

/-- The process may go on without a question. -/
def Confirmed (yes : Bool) : Prop := yes = true ∨ p.confirmed = true

/-- An install that prints nothing itself goes on to its answer. -/
def Installs (args : InstallArgs) (role : ServiceRole) : Prop :=
  match p.platform with
  | .windows => if p.machine.elevated then OnWindows.InstallOk p.machine args role
      else OnWindows.HandsOver p.relaunch p.hasOk
  | .linux => False
  | .other => True

/-- No step that the command reaches prints to standard output. -/
def Hushes : Cmd → Prop
  | .add _ | .remove _ _ _ | .list _ | .set _ | .importFrom _ _ | .status _ _ | .control _ _ => True
  | .install args => ∀ role, args.role = some role → p.machine.fault .serviceConfigPath = none →
      p.Confirmed args.yes → ¬ p.Elevates → p.machine.fault .ensureRoleConfig = none →
      p.InstallClean args role
  | .uninstall args => if args.all then p.Confirmed args.yes → p.UninstallAllClean args
      else p.machine.fault .resolveConfig = none → p.Confirmed args.yes → p.UninstallClean args
  | .upgrade yes _ => p.Confirmed yes → p.UpgradeClean

/-- A path that the command gets as far as to put into its answer is UTF-8. -/
def Serialises : Cmd → Prop
  | .status _ config => ∀ answer, p.machine.answer = .ok answer →
      ∀ path, config = some path → path.IsUtf8
  | .importFrom _ source => p.machine.fault .resolveConfig = none →
      p.machine.fault .versionCompat = none → ¬ p.Elevates →
      ∀ answer, p.machine.answer = .ok answer → source.IsUtf8
  | .install args => ∀ role, args.role = some role → p.machine.fault .serviceConfigPath = none →
      p.Confirmed args.yes → ¬ p.Elevates → p.machine.fault .ensureRoleConfig = none →
      p.Installs args role → args.config.IsUtf8
  | _ => True

/-- The command prints nothing to standard output and returns. -/
def Clean (cmd : Cmd) : Prop := p.Hushes cmd ∧ p.Serialises cmd

variable {p}

@[simp] theorem hushed_elevateForConfigIfNeeded :
    Hushed (p.elevateForConfigIfNeeded true) ↔ True := by
  unfold elevateForConfigIfNeeded
  cases p.platform <;> simp

/-- Only then is the work left to this process. -/
theorem stays_iff {json : Bool} :
    (p.elevateForConfigIfNeeded json).result = .ok false ↔ ¬ p.Elevates := by
  unfold elevateForConfigIfNeeded Elevates
  cases p.platform with
  | windows =>
    by_cases writable : p.machine.writable = true
    · simp [OnWindows.elevateForConfigIfNeeded, writable]
    · by_cases root : p.machine.elevated = true
      · simp [OnWindows.elevateForConfigIfNeeded, root]
      · simp [OnWindows.elevateForConfigIfNeeded, writable, root]
  | linux => simp
  | other => simp

@[simp] theorem quiet_confirmAction {yes : Bool} {subcommand : String} :
    Quiet (p.confirmAction yes true subcommand) ↔ True := by
  simp [confirmAction]

@[simp] theorem confirmAction_ok {yes : Bool} {subcommand : String} {u : Unit} :
    (p.confirmAction yes true subcommand).result = .ok u ↔ p.Confirmed yes := by
  cases yes <;> simp [confirmAction, Confirmed]

@[simp] theorem hushed_serialised {path : OsPath} : Hushed (serialised path) ↔ True := by
  cases path <;> simp [serialised, OsPath.toStr, IsOut]

@[simp] theorem serialised_ok {path : OsPath} {u : Unit} :
    (serialised path).result = .ok u ↔ path.IsUtf8 := by
  cases path <;> simp [serialised, OsPath.toStr, OsPath.IsUtf8]

@[simp] theorem panics_serialised {path : OsPath} :
    Panics (serialised path) ↔ ¬ path.IsUtf8 := by
  cases path with
  | utf8 text => simp [serialised, OsPath.toStr, OsPath.IsUtf8]
  | other lossy =>
    simp [serialised, OsPath.toStr, OsPath.IsUtf8]
    simp [Panics]

@[simp] theorem hushed_reported {named : Option OsPath} :
    Hushed (p.reported true named) ↔ True := by
  unfold reported
  cases p.machine.answer <;> cases named <;> simp

@[simp] theorem panics_reported {named : Option OsPath} : Panics (p.reported true named) ↔
    ∃ answer, p.machine.answer = .ok answer ∧ ∃ path, named = some path ∧ ¬ path.IsUtf8 := by
  unfold reported
  cases p.machine.answer <;> cases named <;> simp

@[simp] theorem hushed_runAdd {args : AddArgs} (json : args.json = true) :
    Hushed (p.runAdd args) ↔ True := by
  unfold runAdd
  cases args.entry <;> cases args.specs <;> simp [json]

@[simp] theorem panics_runAdd {args : AddArgs} (json : args.json = true) :
    Panics (p.runAdd args) ↔ False := by
  unfold runAdd
  cases args.entry <;> cases args.specs <;> simp [json]

@[simp] theorem hushed_editing {x : Command Value} (hushed : Hushed x) :
    Hushed (p.editing true x) ↔ True := by
  simp [editing, hushed]

@[simp] theorem panics_elevateForConfigIfNeeded :
    Panics (p.elevateForConfigIfNeeded true) ↔ False := by
  unfold elevateForConfigIfNeeded
  cases p.platform <;> simp

@[simp] theorem panics_editing {x : Command Value} :
    Panics (p.editing true x) ↔ ¬ p.Elevates ∧ Panics x := by
  simp [editing, stays_iff]

@[simp] theorem hushed_unsupported {lines : List String} :
    Hushed (unsupported true lines) ↔ True := by
  simp [unsupported]

@[simp] theorem hushed_installService {args : InstallArgs} {role : ServiceRole}
    (json : args.json = true) : Hushed (p.installService args role) ↔ p.InstallClean args role := by
  unfold installService InstallClean
  cases p.platform <;>
    simp [json, OnWindows.hushed_installService, Linux.quiet_installService]

@[simp] theorem hushed_uninstallService {args : UninstallArgs} (json : args.json = true) :
    Hushed (p.uninstallService args) ↔ p.UninstallClean args := by
  unfold uninstallService UninstallClean
  cases p.platform <;>
    simp [json, OnWindows.hushed_uninstallService, Linux.quiet_uninstallService]

@[simp] theorem hushed_uninstallAll {args : UninstallArgs} (json : args.json = true) :
    Hushed (p.uninstallAll args) ↔ p.UninstallAllClean args := by
  unfold uninstallAll UninstallAllClean
  cases p.platform <;> simp [json, OnWindows.hushed_uninstallAll, Linux.quiet_uninstallAll]

@[simp] theorem hushed_controlService {action : ServiceAction} {args : ServiceArgs}
    (json : args.json = true) : Hushed (p.controlService action args) ↔ True := by
  unfold controlService
  cases p.platform <;> simp [json, OnWindows.hushed_controlService, Linux.quiet_controlService]

@[simp] theorem hushed_upgradeBinary : Hushed (p.upgradeBinary true) ↔ p.UpgradeClean := by
  unfold upgradeBinary UpgradeClean
  cases p.platform <;> simp [OnWindows.hushed_upgradeBinary, Linux.quiet_upgradeBinary]

theorem hushed_dispatchInstall {args : InstallArgs} (json : args.json = true) :
    Hushed (p.dispatchInstall args) ↔ p.Hushes (.install args) := by
  cases known : args.role with
  | none => simp [dispatchInstall, Hushes, known]
  | some role => simp [dispatchInstall, Hushes, known, json, stays_iff]

theorem hushed_dispatchUninstall {args : UninstallArgs} (json : args.json = true) :
    Hushed (p.dispatchUninstall args) ↔ p.Hushes (.uninstall args) := by
  by_cases all : args.all = true
  · simp [dispatchUninstall, Hushes, all, json]
  · simp [dispatchUninstall, Hushes, all, json]

@[simp] theorem panics_unsupported {lines : List String} :
    Panics (unsupported true lines) ↔ False := by
  simp [unsupported]

@[simp] theorem panics_installService {args : InstallArgs} {role : ServiceRole}
    (json : args.json = true) : Panics (p.installService args role) ↔ False := by
  unfold installService
  cases p.platform <;> simp [json, OnWindows.panics_installService]

@[simp] theorem panics_uninstallService {args : UninstallArgs} (json : args.json = true) :
    Panics (p.uninstallService args) ↔ False := by
  unfold uninstallService
  cases p.platform <;> simp [json, OnWindows.panics_uninstallService]

@[simp] theorem panics_uninstallAll {args : UninstallArgs} (json : args.json = true) :
    Panics (p.uninstallAll args) ↔ False := by
  unfold uninstallAll
  cases p.platform <;> simp [json, OnWindows.panics_uninstallAll]

@[simp] theorem panics_controlService {action : ServiceAction} {args : ServiceArgs}
    (json : args.json = true) : Panics (p.controlService action args) ↔ False := by
  unfold controlService
  cases p.platform <;> simp [json, OnWindows.panics_controlService]

@[simp] theorem panics_upgradeBinary : Panics (p.upgradeBinary true) ↔ False := by
  unfold upgradeBinary
  cases p.platform <;> simp [OnWindows.panics_upgradeBinary]

theorem hushed_dispatchCommand {cmd : Cmd} (json : commandRequestsJson cmd = true) :
    Hushed (p.dispatchCommand cmd) ↔ p.Hushes cmd := by
  cases cmd with
  | add args => simp [dispatchCommand, Hushes, show args.json = true from json]
  | remove entry yes j => simp [dispatchCommand, Hushes, show j = true from json]
  | list j => simp [dispatchCommand, Hushes, show j = true from json]
  | set j => simp [dispatchCommand, Hushes, show j = true from json]
  | importFrom j source => simp [dispatchCommand, Hushes, show j = true from json]
  | status j config => simp [dispatchCommand, Hushes, show j = true from json]
  | install args => exact hushed_dispatchInstall json
  | uninstall args => exact hushed_dispatchUninstall json
  | control action args =>
    simp [dispatchCommand, dispatchControl, Hushes, show args.json = true from json]
  | upgrade yes j => simp [dispatchCommand, dispatchUpgrade, Hushes, show j = true from json]

/-- Only the way that prints nothing leads to the answer. -/
theorem installService_ok_iff {args : InstallArgs} {role : ServiceRole} (json : args.json = true)
    (clean : p.InstallClean args role) :
    (∃ u, (p.installService args role).result = .ok u) ↔ p.Installs args role := by
  unfold installService Installs
  unfold InstallClean at clean
  cases platform : p.platform with
  | windows =>
    rw [json]
    cases root : p.machine.elevated with
    | true => simp [OnWindows.installService_ok root]
    | false => simp [OnWindows.installService_ok_of_relaunch root]
  | linux =>
    rw [platform] at clean
    refine iff_of_false ?_ id
    rintro ⟨u, ran⟩
    exact Linux.installService_fails clean ((lift_ok _).mp ran)
  | other => simp [unsupported, json]

/-- An install that gets to its answer panics there, for a path that is not UTF-8. -/
theorem panics_dispatchInstall {args : InstallArgs} {role : ServiceRole} (json : args.json = true)
    (known : args.role = some role) : Panics (p.dispatchInstall args) ↔
      p.machine.fault .serviceConfigPath = none ∧ p.Confirmed args.yes ∧ ¬ p.Elevates ∧
        p.machine.fault .ensureRoleConfig = none ∧
        (∃ u, (p.installService args role).result = .ok u) ∧ ¬ args.config.IsUtf8 := by
  simp [dispatchInstall, known, json, stays_iff]

theorem returns_dispatchInstall {args : InstallArgs} (json : args.json = true)
    (hushes : p.Hushes (.install args)) :
    ¬ Panics (p.dispatchInstall args) ↔ p.Serialises (.install args) := by
  cases known : args.role with
  | none => simp [dispatchInstall, Serialises, known]
  | some role =>
    rw [panics_dispatchInstall json known]
    constructor
    · intro returns _ own found agreed stays ensured installs
      obtain rfl := Option.some.inj (known.symm.trans own)
      have clean := hushes role known found agreed stays ensured
      by_contra invalid
      exact returns ⟨found, agreed, stays, ensured, (installService_ok_iff json clean).mpr installs,
        invalid⟩
    · rintro valid ⟨found, agreed, stays, ensured, ran, invalid⟩
      have clean := hushes role known found agreed stays ensured
      exact invalid (valid role known found agreed stays ensured
        ((installService_ok_iff json clean).mp ran))

/-- A command comes back to `run` when the path in its answer is UTF-8. -/
theorem returns_dispatchCommand {cmd : Cmd} (json : commandRequestsJson cmd = true)
    (hushes : p.Hushes cmd) : ¬ Panics (p.dispatchCommand cmd) ↔ p.Serialises cmd := by
  cases cmd with
  | add args => simp [dispatchCommand, Serialises, show args.json = true from json]
  | remove entry yes j => simp [dispatchCommand, Serialises, show j = true from json]
  | list j => simp [dispatchCommand, Serialises, show j = true from json]
  | set j => simp [dispatchCommand, Serialises, show j = true from json]
  | importFrom j source => simp [dispatchCommand, Serialises, show j = true from json]
  | status j config => simp [dispatchCommand, Serialises, show j = true from json]
  | install args => exact returns_dispatchInstall json hushes
  | uninstall args =>
    have own : args.json = true := json
    by_cases all : args.all = true
    · simp [dispatchCommand, dispatchUninstall, Serialises, all, own]
    · simp [dispatchCommand, dispatchUninstall, Serialises, all, own]
  | control action args =>
    simp [dispatchCommand, dispatchControl, Serialises, show args.json = true from json]
  | upgrade yes j => simp [dispatchCommand, dispatchUpgrade, Serialises, show j = true from json]

theorem clean_iff {cmd : Cmd} (json : commandRequestsJson cmd = true) :
    p.Clean cmd ↔ Hushed (p.dispatchCommand cmd) ∧ ¬ Panics (p.dispatchCommand cmd) := by
  rw [hushed_dispatchCommand json]
  exact and_congr_right fun hushes => (returns_dispatchCommand json hushes).symm

end Process

/- What is passed on: one envelope, and nothing comes after it. -/
section Passing

variable {A B : Type} {relaunch : OnWindows.Relaunch} {hasOk : String → Bool}

def Relayed : Shown → Prop
  | .printed _ => False
  | .relayed _ => True

abbrev Still (x : Command A) : Prop := Silent Relayed x

@[simp] theorem still_lift (x : Output A) : Still (liftM x : Command A) ↔ True := by
  change Still ((x.mapTrace Shown.printed).mapError Failure.error) ↔ True
  simp [Relayed, Silent, Flow.mapError, Flow.mapTrace]

def Passes (relaunch : OnWindows.Relaunch) (hasOk : String → Bool) (x : Command A) : Prop :=
  Still x ∨ ∃ lines envelope before a, relaunch = .ok lines ∧
    (OnWindows.sortOut hasOk lines).1 = some envelope ∧
    (∀ w ∈ before, ¬ Relayed w) ∧ x = ⟨.ok a, before ++ [.relayed envelope]⟩

variable {x y : Command A} {f : A → Command B}

theorem passes_of_still (still : Still x) : Passes relaunch hasOk x := Or.inl still

@[simp] theorem passes_pure (a : A) : Passes relaunch hasOk (pure a : Command A) :=
  passes_of_still (by simp)

@[simp] theorem passes_fail (error : String) : Passes relaunch hasOk (.fail error : Command A) :=
  passes_of_still (by simp)

@[simp] theorem passes_lift (x : Output A) : Passes relaunch hasOk (liftM x : Command A) :=
  passes_of_still (by simp)

/-- Nothing is passed on before, or nothing is done after. -/
theorem passes_bind (first : Passes relaunch hasOk x)
    (rest : ∀ a, x.result = .ok a → Passes relaunch hasOk (f a))
    (done : ∀ a lines, x.result = .ok a → ¬ Still x → relaunch = .ok lines →
      ∃ b, f a = pure b) :
    Passes relaunch hasOk (x >>= f) := by
  rcases first with still | ⟨lines, envelope, before, a, ran, found, quiet, rfl⟩
  · cases result : x.result with
    | error e =>
      refine passes_of_still ?_
      simp [still, result]
    | ok a =>
      rw [Flow.bind_ok result]
      rcases rest a result with after | ⟨lines, envelope, before, b, ran, found, quiet, last⟩
      · exact Or.inl fun w member => (List.mem_append.mp member).elim (still w) (after w)
      · refine Or.inr ⟨lines, envelope, x.trace ++ before, b, ran, found, ?_, ?_⟩
        · exact fun w member => (List.mem_append.mp member).elim (still w) (quiet w)
        · rw [last, List.append_assoc]
  · have relayed : ¬ Still (⟨.ok a, before ++ [.relayed envelope]⟩ : Command A) :=
      fun still => still _ (List.mem_append_right _ (List.mem_singleton_self _)) trivial
    obtain ⟨b, last⟩ := done a lines rfl relayed ran
    refine Or.inr ⟨lines, envelope, before, b, ran, found, quiet, ?_⟩
    rw [Flow.bind_ok rfl, last]
    exact congrArg (Traced.Flow.mk (Except.ok b)) (List.append_nil _)

theorem passes_before (first : Still x)
    (rest : ∀ a, x.result = .ok a → Passes relaunch hasOk (f a)) :
    Passes relaunch hasOk (x >>= f) :=
  passes_bind (passes_of_still first) rest fun _ _ _ relayed _ => absurd first relayed

theorem passes_last {g : A → B} (first : Passes relaunch hasOk x) :
    Passes relaunch hasOk (x >>= fun a => pure (g a)) :=
  passes_bind first (fun _ _ => passes_pure _) fun a _ _ _ _ => ⟨g a, rfl⟩

theorem passes_ite {c : Prop} [Decidable c] (yes : c → Passes relaunch hasOk x)
    (no : ¬ c → Passes relaunch hasOk y) : Passes relaunch hasOk (if c then x else y) := by
  split
  · exact yes ‹c›
  · exact no ‹¬ c›

/-- Without an elevated process there is nothing to pass on. -/
theorem Passes.still {error : String} (passes : Passes (.error error) hasOk x) : Still x := by
  rcases passes with still | ⟨lines, envelope, before, a, ran, -⟩
  · exact still
  · cases ran

end Passing

section Passing

open OnWindows

variable (m : Machine) (relaunch : Relaunch) (hasOk : String → Bool)

theorem passes_elevateAndReplay :
    Passes relaunch hasOk (elevateAndReplay true relaunch hasOk) := by
  cases ran : relaunch with
  | error error => simp [elevateAndReplay]
  | ok lines =>
    cases found : (sortOut hasOk lines).1 with
    | none =>
      refine passes_of_still ?_
      simp [elevateAndReplay, replayElevatedOutput, found]
    | some envelope =>
      refine passes_before (x := (liftM (errAll (sortOut hasOk lines).2) : Command Unit))
        (by simp) fun _ _ => ?_
      rw [found]
      exact Or.inr ⟨lines, envelope, [], (), rfl, found, by simp, rfl⟩

theorem OnWindows.passes_elevateForConfigIfNeeded : Passes relaunch hasOk
    (OnWindows.elevateForConfigIfNeeded m true relaunch hasOk) := by
  refine passes_ite (fun _ => ?_) fun _ => passes_pure _
  refine passes_before (by simp) fun _ _ => ?_
  exact passes_last (passes_elevateAndReplay relaunch hasOk)

theorem OnWindows.passes_installService (args : InstallArgs) (role : ServiceRole) :
    Passes relaunch hasOk (OnWindows.installService m true relaunch hasOk args role) := by
  refine passes_before (by simp) fun _ _ => passes_ite (fun _ => ?_) fun _ => ?_
  · exact passes_before (by simp) fun _ _ => passes_elevateAndReplay relaunch hasOk
  · exact passes_of_still (by simp)

theorem OnWindows.passes_uninstallService (args : UninstallArgs) :
    Passes relaunch hasOk (OnWindows.uninstallService m true relaunch hasOk args) := by
  refine passes_before (by simp) fun _ _ => passes_ite (fun _ => ?_) fun _ => ?_
  · exact passes_of_still (by simp)
  refine passes_ite (fun _ => ?_) fun _ => ?_
  · exact passes_before (by simp) fun _ _ => passes_elevateAndReplay relaunch hasOk
  · exact passes_of_still (by simp)

theorem OnWindows.passes_uninstallAll (args : UninstallArgs) :
    Passes relaunch hasOk (OnWindows.uninstallAll m true relaunch hasOk args) := by
  refine passes_ite (fun _ => passes_lift _) fun _ => passes_ite (fun _ => ?_) fun _ => ?_
  · exact passes_before (by simp) fun _ _ => passes_elevateAndReplay relaunch hasOk
  · exact passes_of_still (by simp)

theorem OnWindows.passes_controlService (action : ServiceAction) (args : ServiceArgs) :
    Passes relaunch hasOk (OnWindows.controlService m true relaunch hasOk action args) := by
  refine passes_before (by simp) fun targets _ => passes_ite (fun _ => ?_) fun _ => ?_
  · exact passes_of_still (by simp)
  refine passes_before (by simp) fun _ _ => passes_ite (fun _ => ?_) fun _ => ?_
  · exact passes_before (by simp) fun _ _ => passes_elevateAndReplay relaunch hasOk
  · exact passes_of_still (by simp)

theorem OnWindows.passes_upgradeBinary :
    Passes relaunch hasOk (OnWindows.upgradeBinary m true relaunch hasOk) := by
  refine passes_ite (fun _ => ?_) fun _ => ?_
  · exact passes_before (by simp) fun _ _ => passes_elevateAndReplay relaunch hasOk
  · refine passes_of_still ?_
    cases ran : (updateBinary m true).result <;> simp [ran]

end Passing

namespace Process

variable {p : Process}

theorem passes_elevateForConfigIfNeeded :
    Passes p.relaunch p.hasOk (p.elevateForConfigIfNeeded true) := by
  unfold elevateForConfigIfNeeded
  cases p.platform with
  | windows => exact OnWindows.passes_elevateForConfigIfNeeded p.machine p.relaunch p.hasOk
  | linux => simp
  | other => simp

/-- Work left to this process means that none was done by another. -/
theorem still_of_stays (stays : (p.elevateForConfigIfNeeded true).result = .ok false) :
    Still (p.elevateForConfigIfNeeded true) := by
  have here := stays_iff.mp stays
  unfold elevateForConfigIfNeeded
  cases platform : p.platform with
  | windows =>
    have needless : ¬ (!p.machine.writable && !p.machine.elevated) = true := by
      simpa [Elevates, platform] using here
    simp only [OnWindows.elevateForConfigIfNeeded, needless]
    simp
  | linux => simp
  | other => simp

theorem passes_elevating {x : Command Value} {done : Value}
    (passes : ¬ p.Elevates → Passes p.relaunch p.hasOk x) :
    Passes p.relaunch p.hasOk (p.elevateForConfigIfNeeded true >>= fun elsewhere =>
      if elsewhere then pure done else x) := by
  refine passes_bind passes_elevateForConfigIfNeeded (fun elsewhere stays => ?_)
    fun elsewhere _ stays relayed _ => ?_
  · cases elsewhere with
    | true => exact passes_pure done
    | false => exact passes (stays_iff.mp stays)
  · cases elsewhere with
    | true => exact ⟨done, rfl⟩
    | false => exact absurd (still_of_stays stays) relayed

@[simp] theorem still_serialised {path : OsPath} : Still (serialised path) ↔ True := by
  cases path <;> simp [serialised, OsPath.toStr]

theorem serialised_of_utf8 {path : OsPath} (valid : path.IsUtf8) : serialised path = pure () := by
  cases path with
  | utf8 text => rfl
  | other lossy => cases valid

@[simp] theorem still_reported {named : Option OsPath} :
    Still (p.reported true named) ↔ True := by
  unfold reported
  cases p.machine.answer <;> cases named <;> simp

@[simp] theorem still_runAdd {args : AddArgs} (json : args.json = true) :
    Still (p.runAdd args) ↔ True := by
  unfold runAdd
  cases args.entry <;> cases args.specs <;> simp [json]

theorem passes_editing {x : Command Value} (still : Still x) :
    Passes p.relaunch p.hasOk (p.editing true x) :=
  passes_elevating fun _ => passes_of_still still

theorem passes_installService {args : InstallArgs} {role : ServiceRole} (json : args.json = true) :
    Passes p.relaunch p.hasOk (p.installService args role) := by
  unfold installService
  cases p.platform with
  | windows =>
    rw [json]
    exact OnWindows.passes_installService p.machine p.relaunch p.hasOk args role
  | linux => exact passes_lift _
  | other => simp [unsupported, json]

theorem passes_uninstallService {args : UninstallArgs} (json : args.json = true) :
    Passes p.relaunch p.hasOk (p.uninstallService args) := by
  unfold uninstallService
  cases p.platform with
  | windows =>
    rw [json]
    exact OnWindows.passes_uninstallService p.machine p.relaunch p.hasOk args
  | linux => exact passes_lift _
  | other => simp [unsupported, json]

theorem passes_uninstallAll {args : UninstallArgs} (json : args.json = true) :
    Passes p.relaunch p.hasOk (p.uninstallAll args) := by
  unfold uninstallAll
  cases p.platform with
  | windows =>
    rw [json]
    exact OnWindows.passes_uninstallAll p.machine p.relaunch p.hasOk args
  | linux => exact passes_lift _
  | other => simp [unsupported, json]

theorem passes_controlService {action : ServiceAction} {args : ServiceArgs}
    (json : args.json = true) : Passes p.relaunch p.hasOk (p.controlService action args) := by
  unfold controlService
  cases p.platform with
  | windows =>
    rw [json]
    exact OnWindows.passes_controlService p.machine p.relaunch p.hasOk action args
  | linux => exact passes_lift _
  | other => simp [unsupported, json]

theorem passes_upgradeBinary : Passes p.relaunch p.hasOk (p.upgradeBinary true) := by
  unfold upgradeBinary
  cases p.platform with
  | windows => exact OnWindows.passes_upgradeBinary p.machine p.relaunch p.hasOk
  | linux => exact passes_lift _
  | other => simp [unsupported]

/-- The answer of an install that was handed over is made up, and not printed. -/
theorem passes_dispatchInstall {args : InstallArgs} (json : args.json = true)
    (returns : ¬ Panics (p.dispatchInstall args)) :
    Passes p.relaunch p.hasOk (p.dispatchInstall args) := by
  cases known : args.role with
  | none => simp [dispatchInstall, known]
  | some role =>
    rw [panics_dispatchInstall json known] at returns
    simp only [dispatchInstall, known, json]
    refine passes_before (by simp) fun _ found => passes_before (by simp) fun _ agreed => ?_
    refine passes_elevating fun stays => passes_before (by simp) fun _ ensured => ?_
    refine passes_ite (fun made => by simp at made) fun _ => ?_
    refine passes_bind (passes_installService json) (fun _ _ => passes_of_still (by simp)) ?_
    intro u _ ran _ _
    have valid : args.config.IsUtf8 := by
      by_contra invalid
      exact returns ⟨ask_ok.mp ((lift_ok _).mp found), confirmAction_ok.mp ((lift_ok _).mp agreed),
        stays, ask_ok.mp ((lift_ok _).mp ensured), ⟨u, ran⟩, invalid⟩
    rw [serialised_of_utf8 valid]
    exact ⟨_, rfl⟩

theorem passes_dispatchUninstall {args : UninstallArgs} (json : args.json = true) :
    Passes p.relaunch p.hasOk (p.dispatchUninstall args) := by
  refine passes_ite (fun _ => ?_) fun _ => ?_
  · exact passes_before (by simp) fun _ _ => passes_last (passes_uninstallAll json)
  · refine passes_before (by simp) fun _ _ => passes_before (by simp) fun _ _ => ?_
    exact passes_last (passes_uninstallService json)

theorem passes_dispatchCommand {cmd : Cmd} (json : commandRequestsJson cmd = true)
    (returns : ¬ Panics (p.dispatchCommand cmd)) :
    Passes p.relaunch p.hasOk (p.dispatchCommand cmd) := by
  cases cmd with
  | add args =>
    rw [dispatchCommand, show args.json = true from json]
    refine passes_before (by simp) fun _ _ => passes_before (by simp) fun _ _ => ?_
    exact passes_editing (by simp [show args.json = true from json])
  | remove entry yes j =>
    rw [dispatchCommand, show j = true from json]
    refine passes_before (by simp) fun _ _ => passes_before (by simp) fun _ _ => ?_
    exact passes_before (by simp) fun _ _ => passes_editing (by simp)
  | list j =>
    rw [dispatchCommand, show j = true from json]
    exact passes_before (by simp) fun _ _ => passes_of_still (by simp)
  | set j =>
    rw [dispatchCommand, show j = true from json]
    refine passes_before (by simp) fun _ _ => passes_before (by simp) fun _ _ => ?_
    exact passes_editing (by simp)
  | importFrom j source =>
    rw [dispatchCommand, show j = true from json]
    refine passes_before (by simp) fun _ _ => passes_before (by simp) fun _ _ => ?_
    exact passes_editing (by simp)
  | status j config =>
    rw [dispatchCommand, show j = true from json]
    exact passes_of_still (by simp)
  | install args => exact passes_dispatchInstall json returns
  | uninstall args => exact passes_dispatchUninstall json
  | control action args => exact passes_last (passes_controlService json)
  | upgrade yes j =>
    rw [dispatchCommand, dispatchUpgrade, show j = true from json]
    exact passes_before (by simp) fun _ _ => passes_last passes_upgradeBinary

end Process

/- What the envelope is alone with. -/
section Envelope

/-- One line, which is an envelope, and says what the command comes back with. -/
def OneEnvelope (x : Command Unit) : Prop :=
  ∃ r own, stdoutOf x.trace = [(envelope r).text] ∧ returned x.result = some own ∧
    own.isOk = r.isOk

theorem linesOf_ne_nil (text : String) : linesOf text ≠ [] := by
  simp [linesOf]

theorem stdoutOf_append (s t : List Shown) : stdoutOf (s ++ t) = stdoutOf s ++ stdoutOf t :=
  List.flatMap_append

theorem stdoutOf_eq_nil {t : List Shown} (still : ∀ w ∈ t, ¬ Relayed w) :
    stdoutOf t = [] ↔ ∀ w ∈ t, ¬ Loud w := by
  unfold stdoutOf
  rw [List.flatMap_eq_nil_iff]
  refine forall₂_congr fun w member => ?_
  cases w with
  | relayed envelope => exact absurd trivial (still _ member)
  | printed text =>
    cases text with
    | out text => simp [Loud, IsOut, linesOf_ne_nil]
    | err text => simp [Loud, IsOut]

/-- With its envelope last, a command prints nothing else when nothing is loud before it. -/
theorem oneEnvelope_iff {x : Command Unit} {before : List Shown} {r : Except String Value}
    {own : Except String Unit} (still : ∀ w ∈ before, ¬ Relayed w)
    (last : stdoutOf x.trace = stdoutOf before ++ [(envelope r).text])
    (back : returned x.result = some own) (agrees : own.isOk = r.isOk) :
    OneEnvelope x ↔ ∀ w ∈ before, ¬ Loud w := by
  rw [← stdoutOf_eq_nil still]
  constructor
  · rintro ⟨other, -, same, -⟩
    rw [last] at same
    have lengths := congrArg List.length same
    rw [List.length_append, List.length_singleton, List.length_singleton] at lengths
    exact List.eq_nil_of_length_eq_zero (by omega)
  · intro nothing
    exact ⟨r, own, by rw [last, nothing, List.nil_append], back, agrees⟩

theorem any_isRelayed {t : List Shown} : t.any Shown.isRelayed = true ↔ ∃ w ∈ t, Relayed w := by
  rw [List.any_eq_true]
  refine exists_congr fun w => and_congr_right fun _ => ?_
  cases w <;> simp [Shown.isRelayed, Relayed]

variable {p : Process} {cmd : Cmd}

/-- Without another process, the envelope is printed last. -/
theorem Process.trace_run_of_still (json : commandRequestsJson cmd = true)
    (still : Still (p.dispatchCommand cmd)) {r : Except String Value}
    (back : returned (p.dispatchCommand cmd).result = some r) :
    (p.run cmd).trace = (p.dispatchCommand cmd).trace ++ [.printed (.out (envelope r).text)] := by
  have none : (p.dispatchCommand cmd).trace.any Shown.isRelayed = false := by
    rw [← Bool.not_eq_true, any_isRelayed]
    rintro ⟨w, member, relayed⟩
    exact still w member relayed
  simp [Process.run, json, none, back]

theorem isOk_map {E A B : Type} (g : A → B) (r : Except E A) : (r.map g).isOk = r.isOk := by
  cases r <;> rfl

theorem returned_map {A B : Type} (g : A → B) (r : Except Failure A) :
    returned (r.map g) = (returned r).map fun own => own.map g := by
  rcases r with (message | -) | a <;> rfl

/-- Everything but a panic comes back. -/
theorem returned_isSome {A : Type} {x : Command A} :
    (∃ r, returned x.result = some r) ↔ ¬ Panics x := by
  unfold Panics
  rcases x.result with (message | -) | a <;> simp [returned]

/-- What another process hands over is its success envelope. -/
def Process.RelaunchSound (p : Process) : Prop :=
  ∀ lines text, p.relaunch = .ok lines → (OnWindows.sortOut p.hasOk lines).1 = some text →
    ∃ v, text = (jsonSuccessEnvelope v).text

theorem stdoutOf_envelope (r : Except String Value) :
    stdoutOf [.printed (.out (envelope r).text)] = [(envelope r).text] := by
  simp [stdoutOf, linesOf_text]

theorem stdoutOf_relayed (v : Value) :
    stdoutOf [.relayed (jsonSuccessEnvelope v).text] = [(jsonSuccessEnvelope v).text] := by
  simp [stdoutOf, linesOf_text]

theorem Process.oneEnvelope_run_iff (json : commandRequestsJson cmd = true)
    (sound : p.RelaunchSound) : OneEnvelope (p.run cmd) ↔ p.Clean cmd := by
  rw [Process.clean_iff json]
  have back : ∀ {r}, returned (p.dispatchCommand cmd).result = some r →
      returned (p.run cmd).result = some (r.map fun _ => ()) := by
    intro r found
    rw [Process.run, returned_map, found, Option.map_some]
  by_cases panics : Panics (p.dispatchCommand cmd)
  · refine iff_of_false ?_ fun both => both.2 panics
    rintro ⟨r, own, -, here, -⟩
    rw [Process.run, returned_map, show _ = _ from panics] at here
    cases here
  rw [and_iff_left panics]
  rcases Process.passes_dispatchCommand json panics with
    still | ⟨lines, text, before, a, ran, found, still, passed⟩
  · obtain ⟨r, here⟩ := returned_isSome.mpr panics
    refine oneEnvelope_iff still ?_ (back here) (isOk_map _ r)
    rw [Process.trace_run_of_still json still here, stdoutOf_append, stdoutOf_envelope]
  · obtain ⟨v, rfl⟩ := sound lines text ran found
    have hushed : Hushed (p.dispatchCommand cmd) ↔ ∀ w ∈ before, ¬ Loud w := by
      rw [passed]
      simp [Silent, Loud, or_imp, forall_and]
    have handed : (p.run cmd).trace = (p.dispatchCommand cmd).trace := by
      have relayed : (p.dispatchCommand cmd).trace.any Shown.isRelayed = true := by
        rw [passed, any_isRelayed]
        exact ⟨_, List.mem_append_right _ (List.mem_singleton_self _), trivial⟩
      simp [Process.run, relayed]
    have ended : returned (p.dispatchCommand cmd).result = some (.ok a) := by
      rw [passed]
      rfl
    rw [hushed]
    refine oneEnvelope_iff (r := .ok v) still ?_ (back ended) rfl
    rw [handed, passed, stdoutOf_append]
    exact congrArg _ (stdoutOf_relayed v)

end Envelope

/- The elevated process: what it hands back is its own envelope, the last line of its log. -/
section Elevated

theorem sortOut_last {hasOk : String → Bool} {line : String} (ok : hasOk line = true)
    (lines : List String) : (OnWindows.sortOut hasOk (lines ++ [line])).1 = some line := by
  induction lines with
  | nil => simp [OnWindows.sortOut, ok]
  | cons other lines ih =>
    cases taken : hasOk other <;> simp [OnWindows.sortOut, ih, taken]

theorem logOf_append (s t : List Shown) : logOf (s ++ t) = logOf s ++ logOf t :=
  List.flatMap_append

variable {l : Launch} {cmd : Cmd}

theorem requestsJson_reread (again : OsPath → OsPath) :
    commandRequestsJson (cmd.reread again) = commandRequestsJson cmd := by
  cases cmd <;> rfl

theorem Launch.relaunchSound (json : commandRequestsJson cmd = true)
    (reads : ∀ v, l.hasOk (jsonSuccessEnvelope v).text = true) :
    (l.process cmd).RelaunchSound := by
  intro lines text ran found
  have again : commandRequestsJson (cmd.reread l.again) = true := by
    rw [requestsJson_reread, json]
  cases result : (l.child.dispatchCommand (cmd.reread l.again)).result with
  | error failure =>
    cases declined : l.declined <;>
      simp [Launch.process, relaunchElevatedWait, declined, Process.run, result, Except.map] at ran
  | ok v =>
    have returns : ¬ Panics (l.child.dispatchCommand (cmd.reread l.again)) := by
      simp [Panics, result]
    have still := (Process.passes_dispatchCommand (p := l.child) again returns).still
    have back : returned (l.child.dispatchCommand (cmd.reread l.again)).result = some (.ok v) := by
      rw [result]
      rfl
    have log : logOf (l.child.run (cmd.reread l.again)).trace =
        logOf (l.child.dispatchCommand (cmd.reread l.again)).trace ++
          [(jsonSuccessEnvelope v).text] := by
      rw [Process.trace_run_of_still again still back, logOf_append]
      simp [logOf, envelope, linesOf_text]
    have handed : lines = logOf (l.child.run (cmd.reread l.again)).trace := by
      cases declined : l.declined with
      | some error => simp [Launch.process, relaunchElevatedWait, declined] at ran
      | none =>
        have ended : (l.child.run (cmd.reread l.again)).result = .ok () := by
          simp [Process.run, result, Except.map]
        simp only [Launch.process, relaunchElevatedWait, declined, ended] at ran
        exact (Except.ok.inj ran).symm
    rw [handed, log] at found
    have last := sortOut_last (reads v)
      (logOf (l.child.dispatchCommand (cmd.reread l.again)).trace)
    exact ⟨v, Option.some.inj (found.symm.trans last)⟩

/-- A command with `--json` prints exactly one envelope when its process is clean. -/
theorem Launch.run_oneEnvelope (l : Launch) (cmd : Cmd) (json : commandRequestsJson cmd = true)
    (reads : ∀ v, l.hasOk (jsonSuccessEnvelope v).text = true) :
    OneEnvelope (l.run cmd) ↔ (l.process cmd).Clean cmd :=
  Process.oneEnvelope_run_iff json (Launch.relaunchSound json reads)

/-- A machine that runs one service, and where nothing fails. -/
def Machine.sound (elevated : Bool) : Machine where
  fault _ := none
  tool _ := .exited true []
  caught _ := []
  shows _ := true
  elevated := elevated
  terminal := false
  agrees := false
  services := [("office", .server)]
  present _ := true
  writable := true
  removal _ := .missing
  othersRemain _ := true
  owner _ := .ok "rathole-x-server-office"
  registered _ := true
  registeredEither _ := true
  stopping _ := .stopped
  roleOf _ := some .server
  answer := .ok .null
  human := []
  created := false
  init := some .systemd

/-- The key that an envelope begins with. -/
def beginsWithOk (line : String) : Bool := "\x7b\"ok\":".toList.isPrefixOf line.toList

theorem beginsWithOk_success (v : Value) : beginsWithOk (jsonSuccessEnvelope v).text = true := by
  unfold beginsWithOk Value.text
  simp only [String.toList_ofList]
  rfl

/-- A restart through the administrator prompt. -/
theorem Launch.restart_oneEnvelope : OneEnvelope (Launch.run
    ⟨.windows, .sound false, .sound true, none, id, false, beginsWithOk⟩
    (.control .restart ⟨none, true, true⟩)) :=
  (Launch.run_oneEnvelope _ _ rfl beginsWithOk_success).mpr ⟨trivial, trivial⟩

/-- An upgrade on Linux that finds no service says so, in a line before the envelope. -/
theorem Launch.upgrade_twoLines : ¬ OneEnvelope (Launch.run
    ⟨.linux, { Machine.sound true with services := [] }, .sound true, none, id, false, beginsWithOk⟩
    (.upgrade true true)) := by
  rw [Launch.run, Process.oneEnvelope_run_iff rfl (Launch.relaunchSound rfl beginsWithOk_success)]
  intro clean
  exact (clean.1 (Or.inl rfl)).1 rfl

end Elevated

end Rathole.Console
