import Rathole.Transition
import Rathole.WindowsService

set_option autoImplicit false

/- When the accounts that icacls is told about belong to registered services: as long as no
configuration is left without its service. -/
namespace Rathole.Windows

open ConfigEdit (ServiceRole)
open Fallible (Program)
open Toml (Entries)

theorem scmName_inj {role role' : ServiceRole} {name name' : String}
    (same : scmName role name = scmName role' name') : role = role' ∧ name = name' := by
  have chars : "rathole-x-".toList ++ (role.key.toList ++ ("-".toList ++ name.toList)) =
      "rathole-x-".toList ++ (role'.key.toList ++ ("-".toList ++ name'.toList)) := by
    have lists := congrArg String.toList same
    simpa [scmName, toString] using lists
  -- Both keys have six letters.
  have length : role.key.toList.length = role'.key.toList.length := by
    cases role <;> cases role' <;> decide
  obtain ⟨key, rest⟩ := List.append_inj (List.append_cancel_left chars) length
  refine ⟨?_, String.toList_inj.mp (List.append_cancel_left rest)⟩
  cases role <;> cases role' <;> first | rfl | (revert key; decide)

/-- Taking out repetitions that stand together loses no value. -/
theorem mem_destutter {α : Type} [DecidableEq α] {a : α} (l : List α) :
    a ∈ l.destutter (· ≠ ·) ↔ a ∈ l := by
  have kept : ∀ (l : List α) (b : α), a ∈ b :: l → a ∈ l.destutter' (· ≠ ·) b := by
    intro l
    induction l with
    | nil =>
      intro b member
      exact member
    | cons c l ih =>
      intro b member
      by_cases same : b = c
      · rw [List.destutter'_cons_neg _ (not_not.mpr same)]
        apply ih
        rw [same] at member ⊢
        simpa using member
      · rw [List.destutter'_cons_pos _ same]
        rcases List.mem_cons.mp member with here | rest
        · exact List.mem_cons.mpr (Or.inl here)
        · exact List.mem_cons_of_mem _ (ih c rest)
  refine ⟨fun member => (List.destutter_sublist _ l).subset member, ?_⟩
  cases l with
  | nil => exact id
  | cons b l => exact kept l b

/-- The commands on the services, and an edit of a configuration by hand. -/
inductive Event (Text : Type)
  | install (role : ServiceRole) (name stem : String) (allowUserConfig : Bool)
  | uninstall (stem : String) (purge : Bool)
  | uninstallListed (stem : String) (purge : Bool)
  | upgrade
  | edit (stem : String) (content : Option Text)

structure Directory (Text : Type) where
  now : State Text
  /-- The configurations that an uninstall has kept or a failed install has left, and that are
  still there. -/
  leftOver : Finset String

namespace Setup

variable {Text : Type} (setup : Setup Text) {m : Machine} {s t u : State Text}
  {role r : ServiceRole} {name stem other service : String} {services : List String}

section Lists

theorem mem_listInstalledServices : (stem, role) ∈ setup.listInstalledServices m s ↔
    m.works .readDir = true ∧ m.works (.read stem) = true ∧
      setup.installed s stem = some role := by
  unfold listInstalledServices
  by_cases listed : m.works .readDir = true
  · simp only [listed, if_true, List.mem_mergeSort, List.mem_filterMap, true_and]
    constructor
    · rintro ⟨key, -, found⟩
      split at found
      · next readable =>
        obtain ⟨r, here, same⟩ := Option.map_eq_some_iff.mp found
        cases same
        exact ⟨readable, here⟩
      · cases found
    · rintro ⟨readable, found⟩
      refine ⟨stem, ?_, by simp [readable, found]⟩
      rw [HashOrder.mem_keys, ← Finmap.lookup_isSome]
      unfold installed at found
      split at found
      · cases found
      · obtain ⟨content, here, -⟩ := Option.bind_eq_some_iff.mp found
        rw [here]
        rfl
  · simp [listed]

theorem mem_managedServiceNames {extra : String} :
    service ∈ setup.managedServiceNames m s extra ↔ service = extra ∨
      ∃ stem role, (stem, role) ∈ setup.listInstalledServices m s ∧
        service = scmName role stem := by
  have listed : service ∈ (setup.listInstalledServices m s).map (fun e => scmName e.2 e.1) ↔
      ∃ stem role, (stem, role) ∈ setup.listInstalledServices m s ∧
        service = scmName role stem := by
    rw [List.mem_map, Prod.exists]
    simp only [eq_comm]
  unfold managedServiceNames managedNames
  simp only [mem_destutter, List.mem_mergeSort]
  split
  · next member =>
    rw [listed]
    refine ⟨Or.inr, ?_⟩
    rintro (rfl | found)
    · exact listed.mp member
    · exact found
  · rw [List.mem_append, List.mem_singleton, listed, or_comm]

end Lists

section Operations

@[simp] theorem installed_stamp (content : Text) :
    setup.installed (writeFile "version" content s) stem = setup.installed s stem := by
  unfold installed writeFile
  split
  · rfl
  · next other => rw [Finmap.lookup_insert_of_ne _ other]

theorem installed_write_other (content : Text) (apart : other ≠ stem) :
    setup.installed (writeFile stem content s) other = setup.installed s other := by
  unfold installed writeFile
  rw [Finmap.lookup_insert_of_ne _ apart]

theorem declares_of_installed {content : Text} (held : s.files.lookup stem = some content)
    (found : setup.installed s stem = some role) : setup.declares content = some role := by
  unfold installed at found
  split at found
  · cases found
  · rw [held] at found
    exact found

@[simp] theorem installed_registered (names : Finset String) :
    setup.installed { s with registered := names } stem = setup.installed s stem := rfl

theorem declares_skeleton : setup.declares (setup.skeleton role) = some role := by
  unfold declares
  rw [setup.parsed]
  cases role <;> rfl

theorem looks_ask (op : Operation) : (ask m op : Command Text Unit).Looks := by
  unfold ask
  split
  · exact Program.looks_pure ()
  · exact Program.looks_lift _

theorem looks_attempt (op : Operation) (context : Fault → String) :
    (attempt m op context : Command Text Unit).Looks := by
  unfold attempt
  split
  · exact Program.looks_pure ()
  · exact Program.looks_lift _

theorem looks_runIcacls (cmd : Icacls) : (runIcacls m cmd : Command Text Unit).Looks :=
  fun _ => rfl

theorem looks_runAllIcacls (cmds : List Icacls) :
    (runAllIcacls m cmds : Command Text Unit).Looks := by
  induction cmds with
  | nil => exact Program.looks_pure ()
  | cons cmd cmds ih => exact (looks_runIcacls cmd).bind fun _ => ih

theorem looks_lockdown (allowUserConfig : Bool) :
    (lockdown setup m role name stem allowUserConfig).Looks :=
  Program.looks_state.bind fun _ => looks_runAllIcacls _

theorem looks_grantAccess (services : List (String × ServiceRole)) :
    (grantAccess setup m services).Looks := by
  induction services with
  | nil => exact Program.looks_pure ()
  | cons e services ih =>
    exact (looks_attempt _ _).bind fun _ => (looks_runAllIcacls _).bind fun _ => ih

theorem looks_upgradeBinary : (upgradeBinary setup m).Looks :=
  Program.looks_state.bind fun _ => (looks_attempt _ _).bind fun _ =>
    (looks_attempt _ _).bind fun _ => (looks_grantAccess setup _).bind fun _ =>
      (looks_attempt _ _).bind fun _ => looks_runAllIcacls _

/-- icacls does what it can for the accounts of registered services. -/
theorem runAllIcacls_ok {cmds : List Icacls} (succeeds : ∀ cmd, m.exitCode cmd = 0)
    (known : ∀ cmd ∈ cmds, ∀ service ∈ cmd.services, service ∈ s.registered) :
    (runAllIcacls m cmds : Command Text Unit) s = (.ok (), s) := by
  induction cmds with
  | nil => rfl
  | cons cmd cmds ih =>
    have mapped : ∀ service ∈ cmd.services, service ∈ s.registered :=
      known cmd List.mem_cons_self
    have ran : (runIcacls m cmd : Command Text Unit) s = (.ok (), s) := by
      simp only [runIcacls, if_pos mapped, succeeds, if_true]
    have first : (runAllIcacls m (cmd :: cmds) : Command Text Unit) s = runAllIcacls m cmds s :=
      Program.bind_ok ran
    rw [first]
    exact ih fun c member => known c (List.mem_cons_of_mem _ member)

theorem ask_ok {op : Operation} (works : m.fault op = none) :
    (ask m op : Command Text Unit) s = (.ok (), s) := by
  unfold ask
  rw [works]
  rfl

theorem attempt_ok {op : Operation} {context : Fault → String} (works : m.fault op = none) :
    (attempt m op context : Command Text Unit) s = (.ok (), s) := by
  unfold attempt
  rw [works]
  rfl

end Operations

section Install

/-- The directory once the configuration of an install is ready: the one at `stem` declares the
role, if any, and no other one is touched. -/
structure Fits (role : ServiceRole) (stem : String) (s t : State Text) : Prop where
  others : ∀ other, other ≠ stem → setup.installed t other = setup.installed s other
  own : ∀ r, setup.installed t stem = some r → r = role

/-- The states between `create_service` and the end of an install. -/
structure Registering (role : ServiceRole) (name stem : String) (s t : State Text) : Prop where
  fits : Fits setup role stem s t
  fresh : scmName role name ∉ s.registered
  registered : t.registered = insert (scmName role name) s.registered

/-- An install that went as far as its configuration. -/
structure Installed (role : ServiceRole) (name stem : String) (s t : State Text) : Prop where
  fits : Fits setup role stem s t
  registered : t.registered = s.registered ∨
    t.registered = insert (scmName role name) s.registered

variable {setup}

theorem Fits.restamp (fits : Fits setup role stem s t) (content : Text) :
    Fits setup role stem s (writeFile "version" content t) :=
  ⟨fun other apart => (installed_stamp setup content).trans (fits.others other apart),
    fun r found => fits.own r ((installed_stamp setup content).symm.trans found)⟩

theorem Fits.reregister (fits : Fits setup role stem s t) (names : Finset String) :
    Fits setup role stem s { t with registered := names } := ⟨fits.others, fits.own⟩

theorem ensureRoleConfig_ensures :
    (ensureRoleConfig setup m stem role).Ensures s
      (fun _ t => Fits setup role stem s t ∧ t.registered = s.registered) (· = s) := by
  apply Program.ensures_bind (fun a t => a = s ∧ t = s)
    (Program.ensures_state ⟨rfl, rfl⟩)
  rintro a t ⟨rfl, rfl⟩
  have skip : ∀ {A : Type} {x : Command Text A} {done : A → State Text → Prop},
      x.Looks → (∀ a, x t = (.ok a, t) → done a t) → x.Ensures t done (· = t) :=
    fun looks ok => looks.ensures ok rfl
  cases held : t.files.lookup stem with
  | some content =>
    apply Program.ensures_bind (fun _ u => u = t) (skip (looks_attempt _ _) fun _ _ => rfl)
    rintro - u rfl
    apply Program.ensures_bind (fun _ v => v = u) (skip (Program.looks_lift _) fun _ _ => rfl)
    rintro - v rfl
    have declared : ∀ r, setup.installed v stem = some r → setup.declares content = some r :=
      fun r found => declares_of_installed setup held found
    cases role' : setup.declares content with
    | none =>
      refine Program.ensures_pure ⟨⟨fun _ _ => rfl, fun r found => ?_⟩, rfl⟩
      cases role'.symm.trans (declared r found)
    | some existing =>
      by_cases same : existing = role
      · simp only [if_pos same]
        refine Program.ensures_pure ⟨⟨fun _ _ => rfl, fun r found => ?_⟩, rfl⟩
        cases role'.symm.trans (declared r found)
        exact same
      · simp only [if_neg same]
        exact rfl
  | none =>
    apply Program.ensures_bind (fun _ u => u = t) (skip (looks_attempt _ _) fun _ _ => rfl)
    rintro - u rfl
    apply Program.ensures_bind (fun _ v => v = u) (skip (looks_attempt _ _) fun _ _ => rfl)
    rintro - v rfl
    refine Program.ensures_bind (fun _ w => Fits setup role stem v w ∧
      w.registered = v.registered) (Program.ensures_modify ⟨⟨?_, ?_⟩, rfl⟩) fun _ _ => id
    · intro other apart
      exact installed_write_other setup _ apart
    · intro r found
      have held' : (writeFile stem (setup.skeleton role) v).files.lookup stem =
          some (setup.skeleton role) := Finmap.lookup_insert _
      have declared := declares_of_installed setup held' found
      rw [declares_skeleton] at declared
      exact (Option.some.inj declared).symm

theorem Registering.installed (registering : Registering setup role name stem s t) :
    Installed setup role name stem s t :=
  ⟨registering.fits, Or.inr registering.registered⟩

theorem Registering.deleted (registering : Registering setup role name stem s t) :
    Installed setup role name stem s (deleteService m (scmName role name) t) := by
  unfold deleteService
  split
  · refine ⟨registering.fits.reregister _, Or.inl ?_⟩
    show t.registered.erase (scmName role name) = s.registered
    rw [registering.registered, Finset.erase_insert registering.fresh]
  · exact registering.installed

theorem createService_ensures (fits : Fits setup role stem s t)
    (same : t.registered = s.registered) :
    (createService m (scmName role name) name : Command Text Unit).Ensures t
      (fun _ u => Registering setup role name stem s u)
      (fun u => Installed setup role name stem s u) := by
  have before : Installed setup role name stem s t := ⟨fits, Or.inl same⟩
  apply Program.ensures_bind (fun a u => a = t ∧ u = t) (Program.ensures_state ⟨rfl, rfl⟩)
  rintro a u ⟨rfl, rfl⟩
  by_cases taken : scmName role name ∈ u.registered
  · simp only [if_pos taken]
    exact before
  · simp only [if_neg taken]
    apply Program.ensures_bind (fun _ v => v = u)
      ((looks_attempt _ _).ensures (fun _ _ => rfl) before)
    rintro - v rfl
    refine Program.ensures_modify ⟨fits.reregister _, same ▸ taken, ?_⟩
    show insert (scmName role name) v.registered = _
    rw [same]

theorem prepare_ensures (fits : Fits setup role stem s t) (same : t.registered = s.registered) :
    (prepare setup m role name).Ensures t
      (fun _ u => Registering setup role name stem s u)
      (fun u => Installed setup role name stem s u) := by
  have step : ∀ {v : State Text} (op : Operation) (context : Fault → String),
      Fits setup role stem s v ∧ v.registered = s.registered →
      (attempt m op context : Command Text Unit).Ensures v
        (fun _ w => Fits setup role stem s w ∧ w.registered = s.registered)
        (fun w => Installed setup role name stem s w) := by
    intro v op context holds
    exact (looks_attempt op context).ensures (fun _ _ => holds) ⟨holds.1, Or.inl holds.2⟩
  refine Program.ensures_bind _ (step _ _ ⟨fits, same⟩) fun _ u holds => ?_
  refine Program.ensures_bind _ (step _ _ holds) fun _ u holds => ?_
  refine Program.ensures_bind (fun _ w => Fits setup role stem s w ∧ w.registered = s.registered)
    (Program.ensures_modify ⟨holds.1.restamp _, holds.2⟩) fun _ u holds => ?_
  refine Program.ensures_bind _ (step _ _ holds) fun _ u holds => ?_
  refine Program.ensures_bind _ (step _ _ holds) fun _ u holds => ?_
  refine Program.ensures_bind _ (step _ _ holds) fun _ u holds => ?_
  refine Program.ensures_bind _ (step _ _ holds) fun _ u holds => ?_
  refine Program.ensures_bind _ (createService_ensures holds.1 holds.2) fun _ u registering => ?_
  apply Program.ensures_orElse (fun v => v = u)
  · exact (looks_ask _).ensures (fun _ _ => registering) rfl
  · rintro v rfl
    exact registering.deleted

/-- What `register` has done when it succeeds. -/
theorem registering_of_register (ran : register setup m role name stem s = (.ok (), u)) :
    Registering setup role name stem s u := by
  cases opened : ensureRoleConfig setup m stem role s with
  | mk result t =>
    cases result with
    | error e =>
      have failed : register setup m role name stem s = (.error e, t) := Program.bind_error opened
      cases failed.symm.trans ran
    | ok created =>
      obtain ⟨fits, same⟩ := ensureRoleConfig_ensures.ok opened
      have rest : register setup m role name stem s = prepare setup m role name t :=
        Program.bind_ok opened
      exact (prepare_ensures fits same).ok (rest.symm.trans ran)

theorem install_refused {allowUserConfig : Bool} {e : String}
    (refused : (ensureRoleConfig setup m stem role s).1 = .error e) :
    (install setup m role name stem allowUserConfig s).2 = s := by
  have opened : ensureRoleConfig setup m stem role s =
      (.error e, (ensureRoleConfig setup m stem role s).2) := Prod.ext refused rfl
  have failed : register setup m role name stem s =
      (.error e, (ensureRoleConfig setup m stem role s).2) := Program.bind_error opened
  have ran : install setup m role name stem allowUserConfig s =
      (.error e, (ensureRoleConfig setup m stem role s).2) := Program.bind_error failed
  rw [ran]
  exact ensureRoleConfig_ensures.error opened

theorem install_admitted {allowUserConfig created : Bool}
    (admitted : (ensureRoleConfig setup m stem role s).1 = .ok created) :
    Installed setup role name stem s
      (install setup m role name stem allowUserConfig s).2 := by
  have opened : ensureRoleConfig setup m stem role s =
      (.ok created, (ensureRoleConfig setup m stem role s).2) := Prod.ext admitted rfl
  obtain ⟨fits, same⟩ := ensureRoleConfig_ensures.ok opened
  have first : (register setup m role name stem).Ensures s
      (fun _ u => Registering setup role name stem s u)
      (fun u => Installed setup role name stem s u) := by
    have rest : register setup m role name stem s = prepare setup m role name _ :=
      Program.bind_ok opened
    unfold Program.Ensures
    rw [rest]
    exact prepare_ensures fits same
  refine Program.Ensures.either (Program.ensures_bind _ first fun _ t registering => ?_)
  apply Program.ensures_bind (fun _ u => Registering setup role name stem s u)
  · apply Program.ensures_orElse (fun u => u = t)
    · exact (looks_lockdown setup allowUserConfig).ensures (fun _ _ => registering) rfl
    · rintro u rfl
      exact registering.deleted
  · intro _ u registering
    apply Program.ensures_orElse (fun v => v = u)
    · exact (looks_ask _).ensures (fun _ _ => registering.installed) rfl
    · rintro v rfl
      exact registering.deleted

end Install

section Uninstall

/-- No configuration is new, and no service but the one of the stem is gone. -/
structure Uninstalled (stem : String) (s t : State Text) : Prop where
  files : ∀ other r, setup.installed t other = some r → setup.installed s other = some r
  registered : t.registered = s.registered ∨
    ∃ r, t.registered = s.registered.erase (scmName r stem)

variable {setup} {purge : Bool}

theorem installed_erase {files : HashMap String Text} (key : String)
    (found : setup.installed ⟨s.registered, files.erase key⟩ other = some r) :
    setup.installed ⟨s.registered, files⟩ other = some r := by
  unfold installed at found ⊢
  split at found
  · cases found
  · rw [if_neg ‹_›]
    rw [lookup_erase_eq] at found
    split at found
    · cases found
    · exact found

theorem installed_removeServiceFiles
    (found : setup.installed (removeServiceFiles m stem purge s) other = some r) :
    setup.installed s other = some r := by
  unfold removeServiceFiles at found
  dsimp only at found
  generalize kept : (if purge && m.works (.remove stem) then s.files.erase stem else s.files) =
    files at found
  have purged : setup.installed ⟨s.registered, files⟩ other = some r →
      setup.installed s other = some r := by
    intro held
    rw [← kept] at held
    split at held
    · exact installed_erase stem held
    · exact held
  split at found
  · exact purged (installed_erase "version" found)
  · exact purged found

theorem Uninstalled.cleaned (uninstalled : Uninstalled setup stem s t) :
    Uninstalled setup stem s (removeServiceFiles m stem purge t) :=
  ⟨fun other r found => uninstalled.files other r (installed_removeServiceFiles found),
    uninstalled.registered⟩

theorem scmName_of_owner (found : setup.owner m s stem = .ok service) :
    ∃ r, service = scmName r stem := by
  unfold owner at found
  split at found
  · split at found
    · exact ⟨_, (Except.ok.inj found).symm⟩
    · split at found
      · exact ⟨_, (Except.ok.inj found).symm⟩
      · split at found <;> cases found
  · split at found
    · exact ⟨_, (Except.ok.inj found).symm⟩
    · split at found
      · exact ⟨_, (Except.ok.inj found).symm⟩
      · cases found

theorem uninstall_ensures : (uninstall setup m stem purge).Ensures s
    (fun _ t => Uninstalled setup stem s t) (· = s) := by
  have step : ∀ (op : Operation) (context : Fault → String),
      (attempt m op context : Command Text Unit).Ensures s (fun _ t => t = s) (· = s) :=
    fun op context => (looks_attempt op context).ensures (fun _ _ => rfl) rfl
  apply Program.ensures_bind _ (step _ _)
  rintro - t rfl
  apply Program.ensures_bind (fun a u => a = t ∧ u = t) (Program.ensures_state ⟨rfl, rfl⟩)
  rintro a u ⟨rfl, rfl⟩
  have owned : (.lift (setup.owner m u stem) : Command Text String).Ensures u
      (fun service v => v = u ∧ ∃ r, service = scmName r stem) (· = u) :=
    Program.ensures_lift (fun service found => ⟨rfl, scmName_of_owner found⟩) rfl
  apply Program.ensures_bind _ owned
  rintro service v ⟨rfl, role, rfl⟩
  apply Program.ensures_bind _ (step _ _)
  rintro - w rfl
  apply Program.ensures_bind _ (step _ _)
  rintro - x rfl
  apply Program.ensures_bind (fun _ t => Uninstalled setup stem x t)
  · apply Program.ensures_modify
    unfold deleteService
    split
    · exact ⟨fun _ _ => id, Or.inr ⟨role, rfl⟩⟩
    · exact ⟨fun _ _ => id, Or.inl rfl⟩
  · intro _ t uninstalled
    exact Program.ensures_modify uninstalled.cleaned

theorem cleaned : Uninstalled setup stem s (removeServiceFiles m stem purge s) :=
  Uninstalled.cleaned ⟨fun _ _ => id, Or.inl rfl⟩

theorem found_ensures (found : Bool) :
    (if found then uninstall setup m stem purge
      else .modify (removeServiceFiles m stem purge)).Ensures s
    (fun _ t => Uninstalled setup stem s t) (· = s) := by
  split
  · exact uninstall_ensures
  · exact Program.ensures_modify cleaned

theorem uninstallService_ensures : (uninstallService setup m stem purge).Ensures s
    (fun _ t => Uninstalled setup stem s t) (· = s) := by
  apply Program.ensures_bind (fun a t => a = s ∧ t = s) (Program.ensures_state ⟨rfl, rfl⟩)
  rintro a t ⟨rfl, rfl⟩
  exact found_ensures _

theorem uninstallListed_ensures : (uninstallListed setup m stem purge).Ensures s
    (fun _ t => Uninstalled setup stem s t) (· = s) := by
  apply Program.ensures_bind (fun a t => a = s ∧ t = s) (Program.ensures_state ⟨rfl, rfl⟩)
  rintro a t ⟨rfl, rfl⟩
  exact found_ensures _

end Uninstall

section Runs

def leave (stem : String) (leftOver : Finset String) (s : State Text) : Finset String :=
  if (setup.installed s stem).isSome then insert stem leftOver else leftOver.erase stem

def afterInstall (d : Directory Text) (admitted : Bool) (role : ServiceRole) (name stem : String)
    (s : State Text) : Directory Text :=
  ⟨s, if admitted ∧ stem = name then
      if scmName role name ∈ s.registered then d.leftOver.erase name
      else setup.leave name d.leftOver s
    else d.leftOver⟩

def afterUninstall (d : Directory Text) (stem : String) :
    Except String Unit × State Text → Directory Text
  | (.ok _, s) => ⟨s, setup.leave stem d.leftOver s⟩
  | (.error _, s) => ⟨s, d.leftOver⟩

def edited (stem : String) (content : Option Text) (s : State Text) : State Text :=
  match content with
  | some text => writeFile stem text s
  | none => { s with files := s.files.erase stem }

/-- A configuration that is gone is left over no more. -/
def afterEdit (d : Directory Text) (stem : String) (s : State Text) : Directory Text :=
  ⟨s, if (setup.installed s stem).isSome then d.leftOver else d.leftOver.erase stem⟩

def step (d : Directory Text) (action : Event Text × Machine) : Directory Text :=
  match action.1 with
  | .install role name stem allowUserConfig =>
    setup.afterInstall d (ensureRoleConfig setup action.2 stem role d.now).1.isOk role name stem
      (install setup action.2 role name stem allowUserConfig d.now).2
  | .uninstall stem purge =>
    setup.afterUninstall d stem (uninstallService setup action.2 stem purge d.now)
  | .uninstallListed stem purge =>
    setup.afterUninstall d stem (uninstallListed setup action.2 stem purge d.now)
  | .upgrade => { d with now := (upgradeBinary setup action.2 d.now).2 }
  | .edit stem content => setup.afterEdit d stem (edited stem content d.now)

/-- It starts without a configuration. -/
def directory : Transition.System (Directory Text) (Event Text × Machine) where
  init d := d.leftOver = ∅ ∧ ∀ stem, setup.installed d.now stem = none
  step d action := some (setup.step d action)

/-- Nothing is installed or upgraded next to a configuration that was left behind, a service is
installed for the configuration of its name (or for one with a service), and no configuration
gets another role by hand. -/
def Orderly (d : Directory Text) (action : Event Text × Machine) : Prop :=
  match action.1 with
  | .install role name stem _ => (stem = name ∧ d.leftOver ⊆ {name}) ∨
      (scmName role stem ∈ d.now.registered ∧ d.leftOver = ∅)
  | .upgrade => d.leftOver = ∅
  | .edit stem content => ∀ role, setup.installed (edited stem content d.now) stem = some role →
      setup.installed d.now stem = some role
  | _ => True

/-- The invariant: a configuration without its service is a left-over one. -/
def Backed (d : Directory Text) : Prop :=
  ∀ stem role, setup.installed d.now stem = some role →
    scmName role stem ∈ d.now.registered ∨ stem ∈ d.leftOver

variable {setup} {d : Directory Text}

theorem mem_leave (found : setup.installed s stem = some role) {leftOver : Finset String} :
    stem ∈ setup.leave stem leftOver s := by
  unfold leave
  rw [found]
  exact Finset.mem_insert_self _ _

theorem mem_leave_other {leftOver : Finset String} (apart : other ≠ stem)
    (member : other ∈ leftOver) : other ∈ setup.leave stem leftOver s := by
  unfold leave
  split
  · exact Finset.mem_insert_of_mem member
  · exact Finset.mem_erase.mpr ⟨apart, member⟩

theorem Installed.keeps (installed : Installed setup role name stem s t)
    (known : service ∈ s.registered) : service ∈ t.registered := by
  rcases installed.registered with same | more
  · rwa [same]
  · rw [more]
    exact Finset.mem_insert_of_mem known

theorem backed_afterInstall (backed : Backed setup d)
    (orderly : stem = name ∨ scmName role stem ∈ d.now.registered)
    (installed : Installed setup role name stem d.now t) :
    Backed setup (setup.afterInstall d true role name stem t) := by
  intro other r found
  by_cases own : other = stem
  · subst own
    have same : r = role := installed.fits.own r found
    subst same
    by_cases named : other = name
    · subst named
      by_cases known : scmName r other ∈ t.registered
      · exact Or.inl known
      · right
        simp only [afterInstall, if_neg known, and_self, if_true]
        exact mem_leave found
    · rcases orderly with same | known
      · exact absurd same named
      · exact Or.inl (installed.keeps known)
  · have before : setup.installed d.now other = some r :=
      (installed.fits.others other own).symm.trans found
    rcases backed other r before with known | left
    · exact Or.inl (installed.keeps known)
    · right
      simp only [afterInstall, true_and]
      split
      · next named =>
        rw [named] at own
        split
        · exact Finset.mem_erase.mpr ⟨own, left⟩
        · exact mem_leave_other own left
      · exact left

theorem backed_afterUninstall (backed : Backed setup d) {x : Command Text Unit}
    (ensures : x.Ensures d.now (fun _ t => Uninstalled setup stem d.now t) (· = d.now)) :
    Backed setup (setup.afterUninstall d stem (x d.now)) := by
  cases ran : x d.now with
  | mk result t =>
    cases result with
    | error e =>
      have same : t = d.now := ensures.error ran
      rw [same]
      exact backed
    | ok a =>
      have uninstalled := ensures.ok ran
      intro other r found
      by_cases own : other = stem
      · subst own
        exact Or.inr (mem_leave found)
      · rcases backed other r (uninstalled.files other r found) with known | left
        · left
          show scmName r other ∈ t.registered
          rcases uninstalled.registered with same | ⟨role, fewer⟩
          · rwa [same]
          · rw [fewer]
            exact Finset.mem_erase.mpr ⟨fun same => own (scmName_inj same).2, known⟩
        · exact Or.inr (mem_leave_other own left)

theorem installed_edited_other (content : Option Text) (apart : other ≠ stem) :
    setup.installed (edited stem content s) other = setup.installed s other := by
  cases content with
  | some text => exact installed_write_other setup text apart
  | none =>
    unfold installed edited
    dsimp only
    rw [Finmap.lookup_erase_ne apart]

theorem registered_edited (content : Option Text) :
    (edited stem content s).registered = s.registered := by
  cases content <;> rfl

theorem backed_afterEdit {content : Option Text} (backed : Backed setup d)
    (orderly : ∀ role, setup.installed (edited stem content d.now) stem = some role →
      setup.installed d.now stem = some role) :
    Backed setup (setup.afterEdit d stem (edited stem content d.now)) := by
  intro other r found
  change setup.installed (edited stem content d.now) other = some r at found
  change scmName r other ∈ (edited stem content d.now).registered ∨
    other ∈ (setup.afterEdit d stem (edited stem content d.now)).leftOver
  rw [registered_edited]
  by_cases own : other = stem
  · subst own
    refine (backed other r (orderly r found)).imp_right fun left => ?_
    rw [afterEdit, if_pos (by rw [found]; rfl)]
    exact left
  · have before := (installed_edited_other content own).symm.trans found
    refine (backed other r before).imp_right fun left => ?_
    unfold afterEdit
    dsimp only
    split
    · exact left
    · exact Finset.mem_erase.mpr ⟨own, left⟩

theorem backed_step (backed : Backed setup d) {action : Event Text × Machine}
    (orderly : Orderly setup d action) : Backed setup (setup.step d action) := by
  obtain ⟨event, m⟩ := action
  cases event with
  | install role name stem allowUserConfig =>
    have place : stem = name ∨ scmName role stem ∈ d.now.registered := by
      rcases orderly with ⟨same, -⟩ | ⟨known, -⟩
      · exact Or.inl same
      · exact Or.inr known
    unfold step
    dsimp only
    cases opened : (ensureRoleConfig setup m stem role d.now).1 with
    | error e =>
      rw [install_refused opened]
      intro other r found
      simpa [afterInstall, Except.isOk, Except.toBool] using backed other r found
    | ok created => exact backed_afterInstall backed place (install_admitted opened)
  | uninstall stem purge => exact backed_afterUninstall backed uninstallService_ensures
  | uninstallListed stem purge => exact backed_afterUninstall backed uninstallListed_ensures
  | upgrade =>
    unfold step
    dsimp only
    rw [looks_upgradeBinary setup d.now]
    exact backed
  | edit stem content =>
    exact backed_afterEdit backed orderly

theorem backed_of_run {start : Directory Text} {actions : List (Event Text × Machine)}
    (initial : (directory setup).init start)
    (run : (directory setup).Run (Orderly setup) start actions d) : Backed setup d := by
  refine run.invariant ?_ ?_
  · intro before action after orderly moved backed
    cases moved
    exact backed_step backed orderly
  · intro stem role found
    rw [initial.2 stem] at found
    cases found

theorem mem_service_grants {perm : String}
    (found : service ∈ (services.map fun s => serviceAccountGrant s perm).filterMap
      fun g => g.account.service?) : service ∈ services := by
  simpa [List.filterMap_map, serviceAccountGrant, Account.service?] using found

/-- The accounts that a lockdown names are those of its services. -/
theorem mem_services_exe {exe : String} {cmd : Icacls}
    (member : cmd ∈ exeLockdownArgs exe services) (named : service ∈ cmd.services) :
    service ∈ services := by
  simp only [exeLockdownArgs, pathLockdownArgs, List.mem_cons, List.not_mem_nil,
    or_false] at member
  rcases member with rfl | rfl
  · cases named
  · simp only [Icacls.services, List.filterMap_append, List.mem_append] at named
    rcases named with wellKnown | here
    · simp [admins, system, Account.service?] at wellKnown
    · exact mem_service_grants here

theorem mem_services_lockdown {dir exe config logs : String} {allowUserConfig : Bool}
    {cmd : Icacls} (member : cmd ∈ lockdownIcaclsArgs dir exe config logs services allowUserConfig)
    (named : service ∈ cmd.services) : service ∈ services := by
  have quiet : ∀ {g : Grant}, g.account.service? = none →
      service ∉ (if allowUserConfig then [g] else []).filterMap (fun g => g.account.service?) := by
    intro g wellKnown
    cases allowUserConfig <;> simp [wellKnown]
  simp only [lockdownIcaclsArgs, List.mem_append] at member
  rcases member with ((dirs | exes) | configs) | logged
  · simp only [pathLockdownArgs, List.mem_cons, List.not_mem_nil, or_false] at dirs
    rcases dirs with rfl | rfl
    · cases named
    · simp only [Icacls.services, List.filterMap_append, List.mem_append] at named
      rcases named with (wellKnown | here) | wellKnown
      · simp [admins, system, users, Account.service?] at wellKnown
      · exact mem_service_grants here
      · exact absurd wellKnown (quiet rfl)
  · exact mem_services_exe exes named
  · simp only [pathLockdownArgs, List.mem_cons, List.not_mem_nil, or_false] at configs
    rcases configs with rfl | rfl
    · cases named
    · simp only [Icacls.services, List.filterMap_append, List.mem_append] at named
      rcases named with (wellKnown | here) | wellKnown
      · simp [admins, system, users, Account.service?] at wellKnown
      · exact mem_service_grants here
      · exact absurd wellKnown (quiet rfl)
  · simp only [pathLockdownArgs, List.mem_cons, List.not_mem_nil, or_false] at logged
    rcases logged with rfl | rfl
    · cases named
    · simp only [Icacls.services, List.filterMap_append, List.mem_append] at named
      rcases named with wellKnown | here
      · simp [admins, system, Account.service?] at wellKnown
      · exact mem_service_grants here

theorem lockdown_ok {allowUserConfig : Bool} (succeeds : ∀ cmd, m.exitCode cmd = 0)
    (known : ∀ service ∈ setup.managedServiceNames m s (scmName role name),
      service ∈ s.registered) :
    lockdown setup m role name stem allowUserConfig s = (.ok (), s) :=
  runAllIcacls_ok succeeds fun _ member service named =>
    known service (mem_services_lockdown member named)

theorem install_ok {allowUserConfig : Bool}
    (ran : register setup m role name stem s = (.ok (), u))
    (locked : lockdown setup m role name stem allowUserConfig u = (.ok (), u))
    (starts : m.fault .startService = none) :
    install setup m role name stem allowUserConfig s = (.ok (), u) := by
  refine (Program.bind_ok ran).trans ?_
  refine (Program.bind_ok (Program.orElse_ok locked)).trans ?_
  exact Program.orElse_ok (ask_ok starts)

theorem grantAccess_ok {services : List (String × ServiceRole)}
    (works : ∀ op, m.fault op = none) (succeeds : ∀ cmd, m.exitCode cmd = 0)
    (known : ∀ e ∈ services, scmName e.2 e.1 ∈ s.registered) :
    grantAccess setup m services s = (.ok (), s) := by
  induction services with
  | nil => rfl
  | cons e services ih =>
    have own : ∀ cmd ∈ serviceAccessGrantArgs (scmName e.2 e.1) setup.dir (setup.configPath e.1),
        ∀ service ∈ cmd.services, service ∈ s.registered := by
      intro cmd member service named
      have same : service = scmName e.2 e.1 := by
        simp only [serviceAccessGrantArgs, List.mem_cons, List.not_mem_nil, or_false] at member
        rcases member with rfl | rfl | rfl <;>
          simpa [Icacls.services, serviceAccountGrant, Account.service?] using named
      rw [same]
      exact known e List.mem_cons_self
    exact (Program.bind_ok (attempt_ok (works _))).trans
      ((Program.bind_ok (runAllIcacls_ok succeeds own)).trans
        (ih fun e member => known e (List.mem_cons_of_mem _ member)))

theorem upgradeBinary_ok (works : ∀ op, m.fault op = none) (succeeds : ∀ cmd, m.exitCode cmd = 0)
    (known : ∀ e ∈ setup.listInstalledServices m s, scmName e.2 e.1 ∈ s.registered) :
    upgradeBinary setup m s = (.ok (), s) := by
  have last : ∀ cmd ∈ exeLockdownArgs setup.installedExe
      ((setup.listInstalledServices m s).map fun e => scmName e.2 e.1),
      ∀ service ∈ cmd.services, service ∈ s.registered := by
    intro cmd member service named
    obtain ⟨e, listed, rfl⟩ := List.mem_map.mp (mem_services_exe member named)
    exact known e listed
  have looked : (Program.state : Command Text (State Text)) s = (.ok s, s) := rfl
  refine (Program.bind_ok looked).trans ?_
  refine (Program.bind_ok (attempt_ok (works _))).trans ?_
  refine (Program.bind_ok (attempt_ok (works _))).trans ?_
  refine (Program.bind_ok (grantAccess_ok works succeeds known)).trans ?_
  refine (Program.bind_ok (attempt_ok (works _))).trans ?_
  exact runAllIcacls_ok succeeds last

/-- The grants of an install and of an upgrade in such a directory. -/
theorem registered_of_listed (backed : Backed setup d) (none : d.leftOver = ∅)
    (listed : (stem, role) ∈ setup.listInstalledServices m d.now) :
    scmName role stem ∈ d.now.registered := by
  obtain ⟨-, -, found⟩ := (mem_listInstalledServices setup).mp listed
  rcases backed stem role found with known | left
  · exact known
  · rw [none] at left
    cases left

theorem managed_registered {allowUserConfig : Bool} (backed : Backed setup d)
    (orderly : Orderly setup d (.install role name stem allowUserConfig, m))
    (ran : register setup m role name stem d.now = (.ok (), u))
    (named : service ∈ setup.managedServiceNames m u (scmName role name)) :
    service ∈ u.registered := by
  have registering := registering_of_register ran
  rw [registering.registered]
  rcases (mem_managedServiceNames setup).mp named with rfl | ⟨other, r, listed, rfl⟩
  · exact Finset.mem_insert_self _ _
  · obtain ⟨-, -, found⟩ := (mem_listInstalledServices setup).mp listed
    by_cases own : other = stem
    · subst own
      rw [registering.fits.own r found]
      rcases orderly with ⟨same, -⟩ | ⟨known, -⟩
      · rw [same]
        exact Finset.mem_insert_self _ _
      · exact Finset.mem_insert_of_mem known
    · have before := (registering.fits.others other own).symm.trans found
      rcases backed other r before with known | left
      · exact Finset.mem_insert_of_mem known
      · rcases orderly with ⟨same, small⟩ | ⟨-, none⟩
        · rw [same] at own
          exact absurd (Finset.mem_singleton.mp (small left)) own
        · rw [none] at left
          cases left

/-- A name that is new to the directory and to the SCM can be registered. -/
theorem register_new (works : ∀ op, m.fault op = none) (missing : s.files.lookup stem = none)
    (free : scmName role name ∉ s.registered) :
    register setup m role name stem s = (.ok (), ⟨insert (scmName role name) s.registered,
      (s.files.insert stem (setup.skeleton role)).insert "version" setup.stamp⟩) := by
  have looked : ∀ t : State Text, (Program.state : Command Text (State Text)) t = (.ok t, t) :=
    fun _ => rfl
  have changed : ∀ (f : State Text → State Text) (t : State Text),
      (Program.modify f : Command Text Unit) t = (.ok (), f t) := fun _ _ => rfl
  have opened : ensureRoleConfig setup m stem role s =
      (.ok true, writeFile stem (setup.skeleton role) s) := by
    refine (Program.bind_ok (looked s)).trans ?_
    simp only [missing]
    refine (Program.bind_ok (attempt_ok (works _))).trans ?_
    refine (Program.bind_ok (attempt_ok (works _))).trans ?_
    exact Program.bind_ok (changed _ s)
  refine (Program.bind_ok opened).trans ?_
  refine (Program.bind_ok (attempt_ok (works _))).trans ?_
  refine (Program.bind_ok (attempt_ok (works _))).trans ?_
  refine (Program.bind_ok (changed _ _)).trans ?_
  refine (Program.bind_ok (attempt_ok (works _))).trans ?_
  refine (Program.bind_ok (attempt_ok (works _))).trans ?_
  refine (Program.bind_ok (attempt_ok (works _))).trans ?_
  refine (Program.bind_ok (attempt_ok (works _))).trans ?_
  have created : (createService m (scmName role name) name : Command Text Unit)
      (writeFile "version" setup.stamp (writeFile stem (setup.skeleton role) s)) =
      (.ok (), ⟨insert (scmName role name) s.registered,
        (s.files.insert stem (setup.skeleton role)).insert "version" setup.stamp⟩) := by
    refine (Program.bind_ok (looked _)).trans ?_
    refine (congrFun (if_neg free) _).trans ?_
    refine (Program.bind_ok (attempt_ok (works _))).trans ?_
    exact changed _ _
  refine (Program.bind_ok created).trans ?_
  exact Program.orElse_ok (ask_ok (works _))

/-- An uninstall that keeps the configuration. -/
theorem uninstallService_kept (works : ∀ op, m.fault op = none)
    (owned : setup.roleAt m s stem = some role) (known : scmName role stem ∈ s.registered) :
    uninstallService setup m stem false s = (.ok (), removeServiceFiles m stem false
      { s with registered := s.registered.erase (scmName role stem) }) := by
  have looked : (Program.state : Command Text (State Text)) s = (.ok s, s) := rfl
  have changed : ∀ (f : State Text → State Text) (t : State Text),
      (Program.modify f : Command Text Unit) t = (.ok (), f t) := fun _ _ => rfl
  have working : ∀ op, m.works op = true := by
    intro op
    unfold Machine.works
    rw [works]
    rfl
  have open_ : opens m s (scmName role stem) = true := by
    simp [opens, known, working]
  have owner : setup.owner m s stem = .ok (scmName role stem) := by
    simp only [Setup.owner, owned, open_, if_true]
  refine (Program.bind_ok looked).trans ?_
  have exists_ : serviceExists m s (scmName role stem) = true := by
    simp [serviceExists, open_, working]
  simp only [owned, exists_, if_true]
  refine (Program.bind_ok (attempt_ok (works _))).trans ?_
  refine (Program.bind_ok looked).trans ?_
  have owners : (.lift (setup.owner m s stem) : Command Text String) s =
      (.ok (scmName role stem), s) := by
    rw [owner]
    rfl
  refine (Program.bind_ok owners).trans ?_
  refine (Program.bind_ok (attempt_ok (works _))).trans ?_
  refine (Program.bind_ok (attempt_ok (works _))).trans ?_
  refine (Program.bind_ok (changed _ _)).trans ?_
  refine (changed _ _).trans ?_
  rw [deleteService, if_pos (working _)]

/-- Without a purge only the version stamp may go. -/
theorem lookup_removeServiceFiles (apart : other ≠ "version") :
    (removeServiceFiles m stem false s).files.lookup other = s.files.lookup other := by
  unfold removeServiceFiles
  simp only [Bool.false_and, Bool.false_eq_true, if_false]
  split
  · exact Finmap.lookup_erase_ne apart
  · rfl

/-- As long as no configuration is left without its service, icacls is told about the accounts
of registered services only, and no install or upgrade fails for another service. -/
theorem grants_registered {start : Directory Text} {actions : List (Event Text × Machine)}
    (initial : (directory setup).init start)
    (run : (directory setup).Run (Orderly setup) start actions d) (m : Machine) :
    (∀ role name stem allowUserConfig u,
      Orderly setup d (.install role name stem allowUserConfig, m) →
      register setup m role name stem d.now = (.ok (), u) →
      (∀ service ∈ setup.managedServiceNames m u (scmName role name), service ∈ u.registered) ∧
      ((∀ cmd, m.exitCode cmd = 0) →
        lockdown setup m role name stem allowUserConfig u = (.ok (), u) ∧
        (m.fault .startService = none →
          install setup m role name stem allowUserConfig d.now = (.ok (), u)))) ∧
    (Orderly setup d (.upgrade, m) →
      (∀ e ∈ setup.listInstalledServices m d.now, scmName e.2 e.1 ∈ d.now.registered) ∧
      ((∀ cmd, m.exitCode cmd = 0) → (∀ op, m.fault op = none) →
        upgradeBinary setup m d.now = (.ok (), d.now))) := by
  have backed := backed_of_run initial run
  constructor
  · intro role name stem allowUserConfig u orderly ran
    have known : ∀ service ∈ setup.managedServiceNames m u (scmName role name),
        service ∈ u.registered := fun _ named => managed_registered backed orderly ran named
    refine ⟨known, fun succeeds => ?_⟩
    have locked : lockdown setup m role name stem allowUserConfig u = (.ok (), u) :=
      lockdown_ok succeeds known
    exact ⟨locked, fun starts => install_ok ran locked starts⟩
  · intro orderly
    have known : ∀ e ∈ setup.listInstalledServices m d.now,
        scmName e.2 e.1 ∈ d.now.registered :=
      fun _ listed => registered_of_listed backed orderly listed
    exact ⟨known, fun succeeds works => upgradeBinary_ok works succeeds known⟩

end Runs

end Setup

/-- A machine whose texts are trees. -/
def treeSetup (order : HashOrder) : Setup Entries where
  env := ConfigEdit.treeEnv order
  dir := "C:\\ProgramData\\rathole-x"
  exe := "C:\\Users\\me\\rathole-x.exe"
  exeName := "rathole-x.exe"
  listing := order
  skeleton := defaultConfig
  stamp := [("version", .integer 1)]
  parsed role := by cases role <;> rfl

def flawless : Machine := ⟨fun _ => none, fun _ => 0⟩

def noServices : Directory Entries := ⟨⟨∅, ∅⟩, ∅⟩

section Beside

variable (order : HashOrder)

/-- The directory with a client. -/
def oneClient : Directory Entries :=
  ⟨⟨insert (scmName .client "a") ∅,
    ((∅ : HashMap String Entries).insert "a" (defaultConfig .client)).insert "version"
      (treeSetup order).stamp⟩, ∅⟩

theorem noServices_init : (Setup.directory (treeSetup order)).init noServices := by
  refine ⟨rfl, fun stem => ?_⟩
  unfold Setup.installed
  split <;> rfl

theorem install_orderly (role : ServiceRole) (name : String) {d : Directory Entries}
    (none : d.leftOver = ∅) :
    Setup.Orderly (treeSetup order) d (.install role name name false, flawless) :=
  Or.inl ⟨rfl, none ▸ Finset.empty_subset _⟩

theorem installs_client : (treeSetup order).step noServices
    (.install .client "a" "a" false, flawless) = oneClient order := by
  have ran : Setup.register (treeSetup order) flawless .client "a" "a" noServices.now =
      (.ok (), (oneClient order).now) :=
    Setup.register_new (fun _ => rfl) rfl (Finset.notMem_empty _)
  have backed := Setup.backed_of_run (noServices_init order) (.nil _)
  have locked : Setup.lockdown (treeSetup order) flawless .client "a" "a" false
      (oneClient order).now = (.ok (), (oneClient order).now) :=
    Setup.lockdown_ok (fun _ => rfl) fun _ named =>
      Setup.managed_registered backed (install_orderly order .client "a" rfl) ran named
  have known : scmName .client "a" ∈ (oneClient order).now.registered :=
    Finset.mem_insert_self _ _
  have installed := Setup.install_ok ran locked rfl
  unfold Setup.step Setup.afterInstall
  simp only [installed, known, if_true]
  split <;> rfl

theorem lookup_client {stem : String} (named : stem ≠ "version") :
    (oneClient order).now.files.lookup stem =
      if stem = "a" then some (defaultConfig .client) else none := by
  simp only [oneClient, lookup_insert_eq, if_neg named, Finmap.lookup_empty]

end Beside

/-- A server next to a client. -/
theorem registers_beside : ∃ d u, (Setup.directory (treeSetup .some)).Run
      (Setup.Orderly (treeSetup .some)) noServices
      [(.install .client "a" "a" false, flawless)] d ∧
    Setup.register (treeSetup .some) flawless .server "b" "b" d.now = (.ok (), u) ∧
    (∀ service ∈ (treeSetup .some).managedServiceNames flawless u (scmName .server "b"),
      service ∈ u.registered) ∧
    Setup.install (treeSetup .some) flawless .server "b" "b" false d.now = (.ok (), u) := by
  have run : (Setup.directory (treeSetup .some)).Run (Setup.Orderly (treeSetup .some)) noServices
      [(.install .client "a" "a" false, flawless)] (oneClient .some) :=
    .cons (Or.inl ⟨rfl, Finset.empty_subset _⟩) (congrArg some (installs_client .some)) (.nil _)
  have missing : (oneClient .some).now.files.lookup "b" = none :=
    (lookup_client .some (by decide)).trans (if_neg (by decide))
  have free : scmName .server "b" ∉ (oneClient .some).now.registered := by decide
  have ran : Setup.register (treeSetup .some) flawless .server "b" "b" (oneClient .some).now =
      (.ok (), _) := Setup.register_new (fun _ => rfl) missing free
  have held := (Setup.grants_registered (noServices_init .some) run flawless).1
    .server "b" "b" false _ (install_orderly .some .server "b" rfl) ran
  exact ⟨_, _, run, ran, held.1, (held.2 fun _ => rfl).2 rfl⟩

/-- The directory with the configuration of a client whose service was uninstalled. -/
def clientLeft (order : HashOrder) : State Entries :=
  Setup.removeServiceFiles flawless "a" false ⟨∅, (oneClient order).now.files⟩

theorem uninstalls_client (order : HashOrder) :
    ((treeSetup order).step (oneClient order) (.uninstall "a" false, flawless)).now =
      clientLeft order := by
  have owned : (treeSetup order).roleAt flawless (oneClient order).now "a" = some .client := by
    have read : (oneClient order).now.files.lookup "a" = some (defaultConfig .client) :=
      (lookup_client order (by decide)).trans (if_pos rfl)
    unfold Setup.roleAt
    rw [read]
    rfl
  have ran := Setup.uninstallService_kept (fun _ => rfl) owned
    (Finset.mem_insert_self (scmName .client "a") ∅)
  unfold Setup.step
  dsimp only
  rw [ran]
  unfold clientLeft
  have none : (oneClient order).now.registered.erase (scmName .client "a") = ∅ :=
    Finset.erase_insert (Finset.notMem_empty _)
  rw [none]
  rfl

/-- After an uninstall that keeps its configuration, a client stands in the way of the next. -/
theorem grants_uninstalled : ¬ ∀ (setup : Setup Entries) (start d : Directory Entries)
    (actions : List (Event Entries × Machine)) (m : Machine) (role : ServiceRole)
    (name : String) (u : State Entries), (Setup.directory setup).init start →
    (Setup.directory setup).Run Transition.System.Free start actions d →
    Setup.register setup m role name name d.now = (.ok (), u) →
    ∀ service ∈ setup.managedServiceNames m u (scmName role name), service ∈ u.registered := by
  intro granted
  have run : (Setup.directory (treeSetup .some)).Run Transition.System.Free noServices
      [(.install .client "a" "a" false, flawless), (.uninstall "a" false, flawless)]
      ((treeSetup .some).step (oneClient .some) (.uninstall "a" false, flawless)) :=
    .cons trivial (congrArg some (installs_client .some)) (.cons trivial rfl (.nil _))
  have held : ∀ {stem : String}, stem ≠ "version" → (clientLeft .some).files.lookup stem =
      if stem = "a" then some (defaultConfig .client) else none := fun named =>
    (Setup.lookup_removeServiceFiles named).trans (lookup_client .some named)
  have missing : (clientLeft .some).files.lookup "b" = none :=
    (held (by decide)).trans (if_neg (by decide))
  have ran : Setup.register (treeSetup .some) flawless .client "b" "b" (clientLeft .some) =
      (.ok (), _) := Setup.register_new (fun _ => rfl) missing (Finset.notMem_empty _)
  have still : ∀ u, Setup.register (treeSetup .some) flawless .client "b" "b"
      (clientLeft .some) = (.ok (), u) → (treeSetup .some).installed u "a" = some .client ∧
      u.registered = {scmName .client "b"} := by
    intro u ran'
    have registering := Setup.registering_of_register ran'
    refine ⟨?_, registering.registered⟩
    rw [registering.fits.others "a" (by decide)]
    unfold Setup.installed
    rw [held (by decide)]
    rfl
  obtain ⟨installed, registered⟩ := still _ ran
  have listed := (Setup.mem_listInstalledServices (treeSetup .some) (m := flawless)).mpr
    ⟨rfl, rfl, installed⟩
  have known := granted (treeSetup .some) noServices _ _ flawless .client "b" _
    (noServices_init .some) run ((uninstalls_client .some).symm ▸ ran) _
    ((Setup.mem_managedServiceNames (treeSetup .some)).mpr (Or.inr ⟨"a", .client, listed, rfl⟩))
  rw [registered, Finset.mem_singleton] at known
  exact absurd (scmName_inj known).2 (by decide)

end Rathole.Windows
