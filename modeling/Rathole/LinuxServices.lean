import Rathole.CommandOutput
import Rathole.InitCommand
import Rathole.Transition

set_option autoImplicit false

/- The services of a Linux machine: what `service install`, `service uninstall` and `upgrade` leave
of units or scripts, whatever fails on the way, and what the init system starts from them. -/
namespace Rathole.LinuxServices

open ConfigEdit (ServiceRole bailIf validateServiceName)
open Console (Init)
open Console.Linux (installedBinary configPath)
open Fallible

/-- The texts of the units or scripts by their names, and whether the binary is deployed. -/
structure State where
  files : String → Option String
  binary : Bool

/-- What a command asks of the machine. A turn tells the calls of one function in one command
apart. -/
inductive Operation
  | ensureRoleConfig
  | ensureRoot (turn : Nat) (name : String)
  | ensureServiceAccount (turn : Nat)
  | secureManagedConfig (turn : Nat)
  | writeVersionStamp
  | copyBinary
  | ownBinary
  | write (file : String)
  | setExecutable (file : String)
  | ensureLogFile
  | run (name program : String) (args : List String)
  | remove (file : String)
  | removeServiceFiles (name : String)
  | removeBinary

/-- What goes wrong while a command runs: the operations that fail, what a failed write leaves in
the file where it has touched that, and whether a failed copy has spoilt the binary. -/
structure Machine where
  fails : Operation → Option String
  cut : String → Option String
  spoils : Bool

abbrev Command (A : Type) := Program State String A

/-- The name of the unit or script. -/
def serviceFile : Init → ServiceRole → String → String
  | .systemd, role, name => Console.Systemd.unitName role name
  | .openRc, role, name => OpenRc.serviceName role name

def render : Init → OsPath → String → Except String String
  | .systemd, config, _ => Systemd.renderUnit (.utf8 installedBinary) config
  | .openRc, config, svc => OpenRc.renderInitd (.utf8 installedBinary) config svc

def existing (init : Init) (s : State) (name : String) : Option String :=
  ([ServiceRole.client, .server].map fun role => serviceFile init role name).find? fun file =>
    (s.files file).isSome

def serviceOf (init : Init) (s : State) (name : String) (role : ServiceRole) : String :=
  (existing init s name).getD (serviceFile init role name)

section Commands

variable (init : Init) (m : Machine)

/-- The operations one after the other. -/
def askAll : List Operation → Command Unit
  | [] => pure ()
  | op :: ops =>
    match m.fails op with
    | some e => .lift (.error e)
    | none => askAll ops

def State.put (s : State) (file : String) (text : Option String) : State :=
  { s with files := Function.update s.files file text }

theorem put_self (s : State) (file : String) (text : Option String) :
    (s.put file text).files file = text := Function.update_self ..

theorem put_other (s : State) {file other : String} (text : Option String) (apart : other ≠ file) :
    (s.put file text).files other = s.files other := Function.update_of_ne apart ..

def writeFile (file text : String) : Command Unit :=
  match m.fails (.write file) with
  | none => Program.modify fun s => s.put file (some text)
  | some e => do
    Program.modify fun s => if (m.cut file).isSome then s.put file (m.cut file) else s
    Program.lift (.error e)

def copyBinary : Command Unit :=
  match m.fails .copyBinary with
  | none => Program.modify fun s => { s with binary := true }
  | some e => do
    Program.modify fun s => { s with binary := s.binary && !m.spoils }
    Program.lift (.error e)

def deployBinary : Command Unit := do
  askAll m [.ensureRoot 2 ""]
  copyBinary m
  askAll m [.ownBinary]

/-- What makes the init system start a service that was written. -/
def register (name file : String) : List Operation :=
  match init with
  | .systemd => [.run name "systemctl" ["daemon-reload"],
      .run name "systemctl" ["enable", "--now", file]]
  | .openRc => [.setExecutable file, .ensureLogFile,
      .run name "rc-update" ["add", file, "default"], .run name "rc-service" [file, "start"]]

/-- After units have changed; scripts are read when they are run. -/
def reload (name : String) : List Operation :=
  match init with
  | .systemd => [.run name "systemctl" ["daemon-reload"]]
  | .openRc => []

def installService (role : ServiceRole) (name : String) (config : OsPath)
    (allowUserConfig : Bool) : Command Unit := do
  Program.lift (validateServiceName name)
  askAll m [.ensureRoleConfig]
  Program.lift (bailIf allowUserConfig Console.unsafeUserConfig)
  askAll m [.ensureRoot 0 "", .ensureServiceAccount 0, .secureManagedConfig 0, .ensureRoot 1 ""]
  let file := serviceFile init role name
  let s ← Program.state
  Program.lift (bailIf (s.files file).isSome
    (s!"service '{file}' already exists; run `rathole-x service uninstall --yes --name {name}` " ++
      "first"))
  askAll m [.ensureServiceAccount 1, .writeVersionStamp, .secureManagedConfig 1,
    .secureManagedConfig 2]
  deployBinary m
  let text ← Program.lift (render init config file)
  writeFile m file text
  askAll m (register init name file)

/-- The unit or script of the name goes, if there is one. -/
def removeService (name : String) : Command Unit := do
  let s ← Program.state
  match existing init s name with
  | some file =>
    askAll m [.ensureRoot 3 name, .remove file]
    Program.modify fun s => s.put file none
    askAll m (reload init name)
  | none => pure ()

def uninstallService (name : String) : Command Unit := do
  removeService init m name
  askAll m [.removeServiceFiles name]

def uninstallEach : List (String × ServiceRole) → Command Unit
  | [] => pure ()
  | (name, _) :: services => do
    uninstallService init m name
    uninstallEach services

/-- The binary is removed last, and an error of that is passed over. -/
def uninstallAll (services : List (String × ServiceRole)) : Command Unit := do
  uninstallEach init m services
  if (m.fails .removeBinary).isNone then Program.modify fun s => { s with binary := false }

/-- A service whose file is there gets it anew, with the configuration under its name. -/
def rewriteOne (name : String) (role : ServiceRole) : Command Unit := do
  let s ← Program.state
  let file := serviceOf init s name role
  if (s.files file).isSome then
    let text ← Program.lift (render init (.utf8 (configPath name)) file)
    writeFile m file text
    askAll m (match init with
      | .systemd => []
      | .openRc => [.setExecutable file])

def rewrite : List (String × ServiceRole) → Command Unit
  | [] => pure ()
  | (name, role) :: services => do
    rewriteOne init m name role
    rewrite services

def upgradeBinary (services : List (String × ServiceRole)) : Command Unit := do
  if services = [] then pure () else
    askAll m [.ensureRoot 0 ""]
    deployBinary m
    rewrite init m services
    askAll m (reload init "")

end Commands

/-- `services` is what `list_installed_services` finds when the command starts. -/
inductive Request
  | install (role : ServiceRole) (name : String) (config : OsPath) (allowUserConfig : Bool)
  | uninstall (name : String)
  | uninstallAll (services : List (String × ServiceRole))
  | upgrade (services : List (String × ServiceRole))

structure Action where
  request : Request
  machine : Machine

def Action.run (init : Init) (a : Action) : Command Unit :=
  match a.request with
  | .install role name config allowUserConfig =>
    installService init a.machine role name config allowUserConfig
  | .uninstall name => uninstallService init a.machine name
  | .uninstallAll services => uninstallAll init a.machine services
  | .upgrade services => upgradeBinary init a.machine services

/-- There are no services at first. A command leaves what it has done, also where it fails. -/
def system (init : Init) : Transition.System State Action where
  init s := s = ⟨fun _ => none, false⟩
  step s a := some (a.run init s).2

section Paths

/-- The characters of the paths that are made here. -/
def isPathChar (c : Char) : Bool := c.isAlphanum || c = '-' || c = '_' || c = '/' || c = '.'

theorem isPathChar_apart {c : Char} (odd : List Char) (path : isPathChar c = true)
    (clean : odd.all (fun c => !isPathChar c) = true) : c ∉ odd := by
  intro member
  have refused := List.all_eq_true.mp clean c member
  rw [path] at refused
  cases refused

theorem isWhitespace_of_isAlphanum {c : Char} (letter : c.isAlphanum = true) :
    isWhitespace c = false := by
  have letter : (decide ('A'.val ≤ c.val ∧ c.val ≤ 'Z'.val) ||
      (decide ('a'.val ≤ c.val) && decide (c.val ≤ 'z'.val)) ||
      (decide ('0'.val ≤ c.val) && decide (c.val ≤ '9'.val))) = true := letter
  simp only [Bool.or_eq_true, Bool.and_eq_true, decide_eq_true_eq, UInt32.le_iff_toNat_le] at letter
  have upper : 'A'.val.toNat = 65 ∧ 'Z'.val.toNat = 90 := by decide
  have lower : 'a'.val.toNat = 97 ∧ 'z'.val.toNat = 122 := by decide
  have digit : '0'.val.toNat = 48 ∧ '9'.val.toNat = 57 := by decide
  have code : c.toNat = c.val.toNat := rfl
  rw [isWhitespace, decide_eq_false_iff_not]
  omega

theorem isWhitespace_of_isPathChar {c : Char} (path : isPathChar c = true) :
    isWhitespace c = false := by
  simp only [isPathChar, Bool.or_eq_true, decide_eq_true_eq] at path
  rcases path with (((letter | rfl) | rfl) | rfl) | rfl
  · exact isWhitespace_of_isAlphanum letter
  all_goals decide

theorem noSpecifier_of_free {cs : List Char} (free : '%' ∉ cs) : UnitFile.NoSpecifier cs := by
  induction cs with
  | nil => exact .nil
  | cons c cs ih =>
    rw [List.mem_cons, not_or] at free
    exact .char (Ne.symm free.1) (ih free.2)

theorem noVariable_of_free {cs : List Char} (free : '$' ∉ cs) : UnitFile.NoVariable cs := by
  induction cs with
  | nil => exact .nil
  | cons c cs ih =>
    rw [List.mem_cons, not_or] at free
    exact .char (Ne.symm free.1) (ih free.2)

theorem no_home_of_free {cs : List Char} (free : '~' ∉ cs) :
    cs.IsChain fun a b => a = ':' → b ≠ '~' := by
  induction cs with
  | nil => exact .nil
  | cons c cs ih =>
    rw [List.mem_cons, not_or] at free
    refine List.isChain_cons.mpr ⟨fun d head _ same => ?_, ih free.2⟩
    rw [same] at head
    exact free.2 (List.mem_of_head? head)

theorem isPattern_of_free {cs : List Char} (free : ∀ c ∈ cs, c ∉ ['*', '?', '[']) :
    Shell.isPattern (cs.map some) = false := by
  induction cs with
  | nil => rfl
  | cons c cs ih =>
    have here := free c List.mem_cons_self
    simp only [List.mem_cons, List.not_mem_nil, or_false, not_or] at here
    simp [Shell.isPattern, here.1, here.2.1, here.2.2,
      ih fun c member => free c (List.mem_cons_of_mem _ member)]

/-- A path that needs no quotes anywhere. -/
structure PlainPath (path : String) : Prop where
  chars : ∀ c ∈ path.toList, isPathChar c = true
  root : path.toList.head? = some '/'

theorem plainPath_binary : PlainPath installedBinary := by
  have text : installedBinary.toList = "/usr/local/lib/rathole-x/rathole-x".toList := rfl
  rw [String.toList_ofList] at text
  refine ⟨?_, by rw [text]; rfl⟩
  rw [text]
  exact List.all_eq_true.mp (by decide +kernel)

theorem isPathChar_of_valid {name : String} (valid : validateServiceName name = .ok ()) :
    ∀ c ∈ name.toList, isPathChar c = true := by
  unfold validateServiceName at valid
  split at valid
  · cases valid
  · next named =>
    rw [not_or, not_not, List.all_eq_true] at named
    intro c member
    have allowed := named.2 c member
    simp only [Bool.or_eq_true] at allowed
    simp only [isPathChar, Bool.or_eq_true]
    exact .inl (.inl allowed)

theorem plainPath_config {name : String} (valid : validateServiceName name = .ok ()) :
    PlainPath (configPath name) := by
  have text : (configPath name).toList =
      "/etc/rathole-x/".toList ++ (name.toList ++ ".toml".toList) := by
    simp [configPath, Console.Linux.configDir, toString]
  refine ⟨fun c member => ?_, by rw [text]; rfl⟩
  rw [text, List.mem_append, List.mem_append] at member
  rcases member with front | inside | last
  · exact List.all_eq_true.mp (by decide) c front
  · exact isPathChar_of_valid valid c inside
  · exact List.all_eq_true.mp (by decide) c last

namespace PlainPath

variable {path : String} (plain : PlainPath path)
include plain

theorem free (odd : List Char) (clean : odd.all (fun c => !isPathChar c) = true) :
    ∀ c ∈ odd, c ∉ path.toList :=
  fun c listed member => isPathChar_apart odd (plain.chars c member) clean listed

theorem tight : path.toList.any isWhitespace = false := by
  rw [List.any_eq_false]
  intro c member blank
  rw [isWhitespace_of_isPathChar (plain.chars c member)] at blank
  cases blank

theorem nonempty : path.toList ≠ [] := by
  intro empty
  have root := plain.root
  rw [empty] at root
  cases root

theorem literal : UnitFile.Literal path.toList := by
  refine ⟨noSpecifier_of_free (plain.free ['%'] (by decide) '%' (by decide)),
    noVariable_of_free (plain.free ['$'] (by decide) '$' (by decide)), fun leading => ?_⟩
  rw [plain.root] at leading
  cases leading

theorem oneWord : Systemd.OneWord path := by
  refine ⟨⟨?_, ?_⟩, fun c member => ?_, fun quoted => ?_⟩
  · rintro rfl
    exact plain.nonempty rfl
  · rintro rfl
    cases plain.root
  · have apart := isPathChar_apart ['\n', '\r', '\x00'] (plain.chars c member) (by decide)
    simp only [List.mem_cons, List.not_mem_nil, or_false] at apart
    rw [UnitFile.isLineEnd, decide_eq_false_iff_not]
    exact apart
  · exact absurd quoted (plain.free ['\''] (by decide) '\'' (by decide))

theorem isPlain : ∀ c ∈ path.toList, Shell.isPlain c = true := by
  intro c member
  have apart := isPathChar_apart ['\x00', '\'', '"', '\\', ' ', '\t', '\n']
    (plain.chars c member) (by decide)
  have operator := isPathChar_apart ['|', '&', ';', '<', '>', '(', ')']
    (plain.chars c member) (by decide)
  rw [Shell.isPlain, Shell.isOperator, Bool.and_eq_true, Bool.not_eq_true', decide_eq_true_eq,
    decide_eq_false_iff_not]
  exact ⟨apart, operator⟩

theorem literalText : OpenRc.Literal path.toList :=
  List.all_eq_true.mpr fun c member => decide_eq_true
    (isPathChar_apart _ (plain.chars c member) (by decide))

theorem homeless (assignment begins : Bool) :
    Shell.Homeless assignment begins path.toList := by
  refine ⟨fun _ head => ?_, fun _ =>
    no_home_of_free (plain.free ['~'] (by decide) '~' (by decide))⟩
  rw [plain.root] at head
  cases head

theorem pattern : Shell.isPattern (path.toList.map some) = false :=
  isPattern_of_free fun c member => isPathChar_apart _ (plain.chars c member) (by decide)

theorem passed : OpenRc.Passed path := by
  refine ⟨plain.free ['\x00'] (by decide) '\x00' (by decide), plain.literalText.inert,
    fun _ => ⟨plain.nonempty, plain.isPlain, fun head => ?_, plain.literalText.inert,
      plain.homeless _ _, plain.pattern⟩, fun blank => ?_⟩
  · rw [plain.root] at head
    cases head
  · rw [plain.tight] at blank
    cases blank

end PlainPath

theorem assigned_binary : OpenRc.Assigned installedBinary :=
  ⟨by decide, plainPath_binary.free ['\x00'] (by decide) '\x00' (by decide), fun _ =>
    ⟨plainPath_binary.isPlain, plainPath_binary.literalText.inert, plainPath_binary.homeless _ _⟩⟩

theorem readable_of_plain {path : String} (plain : PlainPath path) :
    Systemd.Readable installedBinary path := by
  refine ⟨?_, by decide, fun c head => ?_, plainPath_binary.literal, plain.literal, plain.oneWord⟩
  · have text : installedBinary.toList = "/usr/local/lib/rathole-x/rathole-x".toList := rfl
    rw [text, String.toList_ofList]
    decide +kernel
  · rw [plainPath_binary.root] at head
    cases head
    decide

end Paths

/-- The init system starts the deployed binary on the configuration, and nothing else. -/
def Starts (init : Init) (config text : String) : Prop :=
  match init with
  | .systemd => Systemd.Runs installedBinary config text
  | .openRc => OpenRc.Runs installedBinary config text

/-- A configuration that the init system reads as it is written. -/
def Takes (init : Init) (config : String) : Prop :=
  match init with
  | .systemd => Systemd.Readable installedBinary config
  | .openRc => OpenRc.Passed config

theorem takes_of_plain {path : String} (init : Init) (plain : PlainPath path) :
    Takes init path := by
  cases init with
  | systemd => exact readable_of_plain plain
  | openRc => exact plain.passed

/-- A written unit or script has a configuration in UTF-8, and starts it exactly where the init
system reads that as it is written. -/
theorem render_starts {init : Init} {role : ServiceRole} {name text : String} {config : OsPath}
    (valid : validateServiceName name = .ok ())
    (rendered : render init config (serviceFile init role name) = .ok text) :
    ∃ path, config = .utf8 path ∧ (Starts init path text ↔ Takes init path) := by
  cases init with
  | systemd =>
    obtain ⟨e, c, exeArg, configArg, rfl⟩ := Systemd.renderUnit_ok.mp rendered
    obtain ⟨exe, exeText, -, plainExe, es⟩ := Systemd.execPathArg_ok exeArg
    obtain ⟨path, configText, quote, backslash, cs⟩ := Systemd.execPathArg_ok configArg
    cases exeText
    cases config with
    | other lossy => cases configText
    | utf8 text =>
      cases configText
      exact ⟨_, rfl, Systemd.runs_iff es cs plainExe ⟨quote, backslash⟩⟩
  | openRc =>
    obtain ⟨e, c, exeArg, configArg, rfl⟩ := OpenRc.renderInitd_ok.mp rendered
    obtain ⟨exe, exeText, exeQuotes, es⟩ := OpenRc.shellQuote_ok exeArg
    obtain ⟨path, configText, configQuotes, cs⟩ := OpenRc.shellQuote_ok configArg
    cases exeText
    cases config with
    | other lossy => cases configText
    | utf8 text =>
      cases configText
      refine ⟨_, rfl, (OpenRc.runs_iff es cs exeQuotes configQuotes
        (OpenRc.literal_serviceName valid)).trans
        ⟨And.right, fun taken => ⟨assigned_binary, taken⟩⟩⟩

theorem serviceFile_inj {init : Init} {role role' : ServiceRole} {name name' : String}
    (same : serviceFile init role name = serviceFile init role' name') : name = name' := by
  have lists := congrArg String.toList same
  -- Both keys have six letters.
  have length : role.key.toList.length = role'.key.toList.length := by
    cases role <;> cases role' <;> decide
  cases init with
  | systemd =>
    have chars : "rathole-x-".toList ++ (role.key.toList ++ ("-".toList ++
        (name.toList ++ ".service".toList))) = "rathole-x-".toList ++ (role'.key.toList ++
          ("-".toList ++ (name'.toList ++ ".service".toList))) := by
      simpa [serviceFile, Console.Systemd.unitName, toString] using lists
    have rest := (List.append_inj (List.append_cancel_left chars) length).2
    exact String.toList_inj.mp (List.append_cancel_right (List.append_cancel_left rest))
  | openRc =>
    have chars : "rathole-x-".toList ++ (role.key.toList ++ ("-".toList ++ name.toList)) =
        "rathole-x-".toList ++ (role'.key.toList ++ ("-".toList ++ name'.toList)) := by
      simpa [serviceFile, OpenRc.serviceName, toString] using lists
    have rest := (List.append_inj (List.append_cancel_left chars) length).2
    exact String.toList_inj.mp (List.append_cancel_left rest)

/-- The file that a name has is one of its two. -/
theorem serviceOf_file (init : Init) (s : State) (name : String) (role : ServiceRole) :
    ∃ role', serviceOf init s name role = serviceFile init role' name := by
  unfold serviceOf
  cases found : existing init s name with
  | none => exact ⟨role, rfl⟩
  | some file =>
    obtain ⟨role', -, rfl⟩ := List.mem_map.mp (List.mem_of_find?_eq_some found)
    exact ⟨role', rfl⟩

/-- Where a configuration is from: it stands under the name, or an install of the run named it. -/
structure Written (init : Init) (given : ServiceRole → String → OsPath → Prop)
    (file text : String) (role : ServiceRole) (name : String) (config : OsPath) : Prop where
  valid : validateServiceName name = .ok ()
  named : file = serviceFile init role name
  origin : config = .utf8 (configPath name) ∨ given role name config
  rendered : render init config file = .ok text

/-- Every unit or script was written for a service, and has its binary. -/
structure Backed (init : Init) (given : ServiceRole → String → OsPath → Prop) (s : State) :
    Prop where
  written : ∀ file text, s.files file = some text →
    ∃ role name config, Written init given file text role name config
  deployed : ∀ file text, s.files file = some text → s.binary = true

section Steps

variable {init : Init} {given : ServiceRole → String → OsPath → Prop} {s : State}
  {m : Machine}

theorem Backed.put (backed : Backed init given s) {file text name : String} {role : ServiceRole}
    {config : OsPath} (written : Written init given file text role name config)
    (deployed : s.binary = true) : Backed init given (s.put file (some text)) := by
  refine ⟨fun other found lookup => ?_, fun _ _ _ => deployed⟩
  by_cases same : other = file
  · subst same
    rw [put_self, Option.some.injEq] at lookup
    subst lookup
    exact ⟨role, name, config, written⟩
  · rw [put_other _ _ same] at lookup
    exact backed.written other found lookup

theorem put_none {file other text : String}
    (lookup : (s.put file none).files other = some text) :
    other ≠ file ∧ s.files other = some text := by
  by_cases same : other = file
  · subst same
    rw [put_self] at lookup
    cases lookup
  · rw [put_other _ _ same] at lookup
    exact ⟨same, lookup⟩

theorem Backed.remove (backed : Backed init given s) (file : String) :
    Backed init given (s.put file none) :=
  ⟨fun other text lookup => backed.written other text (put_none lookup).2,
    fun other text lookup => backed.deployed other text (put_none lookup).2⟩

theorem Backed.deploy (backed : Backed init given s) :
    Backed init given { s with binary := true } :=
  ⟨backed.written, fun _ _ _ => rfl⟩

theorem looks_askAll (ops : List Operation) : (askAll m ops).Looks := by
  induction ops with
  | nil => exact Program.looks_pure ()
  | cons op ops ih =>
    unfold askAll
    split
    · exact Program.looks_lift _
    · exact ih

/-- The machine may refuse, and stays as it is. -/
theorem askAll_ensures (ops : List Operation) {P : State → Prop} (holds : P s) :
    (askAll m ops).Ensures s (fun _ => P) P :=
  (looks_askAll ops).ensures (fun _ _ => holds) holds

theorem lift_ensures {A : Type} (y : Except String A) {P : State → Prop} (holds : P s) :
    (Program.lift y : Command A).Ensures s (fun a t => y = .ok a ∧ P t) P :=
  Program.ensures_lift (fun _ ok => ⟨ok, holds⟩) holds

/-- Nothing that fails half-way damages a file. -/
def Machine.Sound (m : Machine) : Prop := (∀ file, m.cut file = none) ∧ m.spoils = false

theorem copyBinary_ensures (sound : m.Sound) (backed : Backed init given s) :
    (copyBinary m).Ensures s (fun _ t => Backed init given t ∧ t.binary = true)
      (Backed init given) := by
  unfold copyBinary
  split
  · exact Program.ensures_modify ⟨backed.deploy, rfl⟩
  · apply Program.ensures_bind (fun _ => Backed init given)
      (Program.ensures_modify (by simpa [sound.2] using backed))
    intro _ t backed
    exact Program.ensures_lift (fun _ ok => by cases ok) backed

theorem deployBinary_ensures (sound : m.Sound) (backed : Backed init given s) :
    (deployBinary m).Ensures s (fun _ t => Backed init given t ∧ t.binary = true)
      (Backed init given) := by
  unfold deployBinary
  apply Program.ensures_bind _ (askAll_ensures _ backed)
  intro _ t backed
  apply Program.ensures_bind _ (copyBinary_ensures sound backed)
  intro _ u holds
  exact (looks_askAll _).ensures (fun _ _ => holds) holds.1

theorem writeFile_ensures (sound : m.Sound) (backed : Backed init given s)
    (deployed : s.binary = true) {file text name : String} {role : ServiceRole} {config : OsPath}
    (written : Written init given file text role name config) :
    (writeFile m file text).Ensures s (fun _ t => Backed init given t ∧ t.binary = true)
      (Backed init given) := by
  unfold writeFile
  split
  · exact Program.ensures_modify ⟨backed.put written deployed, deployed⟩
  · apply Program.ensures_bind (fun _ => Backed init given)
      (Program.ensures_modify (by simpa [sound.1] using backed))
    intro _ t backed
    exact Program.ensures_lift (fun _ ok => by cases ok) backed

theorem installService_ensures (sound : m.Sound) (backed : Backed init given s)
    (role : ServiceRole) (name : String) (config : OsPath) (allowUserConfig : Bool)
    (asked : given role name config) :
    (installService init m role name config allowUserConfig).Ensures s
      (fun _ => Backed init given) (Backed init given) := by
  unfold installService
  apply Program.ensures_bind _ (lift_ensures _ backed)
  rintro _ t ⟨valid, backed⟩
  apply Program.ensures_bind _ (askAll_ensures _ backed)
  intro _ t backed
  apply Program.ensures_bind (fun _ => Backed init given)
    (Program.ensures_lift (fun _ _ => backed) backed)
  intro _ t backed
  apply Program.ensures_bind _ (askAll_ensures _ backed)
  intro _ t backed
  apply Program.ensures_bind (fun _ => Backed init given) (Program.ensures_state backed)
  intro _ t backed
  apply Program.ensures_bind (fun _ => Backed init given)
    (Program.ensures_lift (fun _ _ => backed) backed)
  intro _ t backed
  apply Program.ensures_bind _ (askAll_ensures _ backed)
  intro _ t backed
  apply Program.ensures_bind _ (deployBinary_ensures sound backed)
  rintro _ t ⟨backed, deployed⟩
  apply Program.ensures_bind (fun text t => render init config (serviceFile init role name) =
      .ok text ∧ Backed init given t ∧ t.binary = true)
    (Program.ensures_lift (fun _ ok => ⟨ok, backed, deployed⟩) backed)
  rintro text t ⟨rendered, backed, deployed⟩
  have valid : validateServiceName name = .ok () := valid
  apply Program.ensures_bind _
    (writeFile_ensures sound backed deployed ⟨valid, rfl, .inr asked, rendered⟩)
  rintro _ t ⟨backed, -⟩
  exact askAll_ensures _ backed

/-- A removed name leaves the other files, and its own is gone unless the command failed. -/
theorem removeService_ensures (backed : Backed init given s) (name : String) :
    (removeService init m name).Ensures s
      (fun _ t => Backed init given t ∧ ∀ file text, t.files file = some text →
        s.files file = some text ∧ existing init s name ≠ some file)
      (Backed init given) := by
  unfold removeService
  apply Program.ensures_bind (fun u t => s = u ∧ s = t) (Program.ensures_state ⟨rfl, rfl⟩)
  rintro _ _ ⟨rfl, rfl⟩
  cases found : existing init s name with
  | none => exact Program.ensures_pure ⟨backed, fun _ _ lookup => ⟨lookup, by simp⟩⟩
  | some own =>
    dsimp only
    apply Program.ensures_bind (fun _ t => s = t)
      ((looks_askAll _).ensures (fun _ _ => rfl) backed)
    rintro _ _ rfl
    apply Program.ensures_bind (fun _ t => t = s.put own none) (Program.ensures_modify rfl)
    rintro _ _ rfl
    refine (looks_askAll _).ensures (fun _ _ => ⟨backed.remove own, fun file text lookup => ?_⟩)
      (backed.remove own)
    obtain ⟨apart, kept⟩ := put_none lookup
    exact ⟨kept, fun same => apart (Option.some.inj same).symm⟩

theorem uninstallService_ensures (backed : Backed init given s) (name : String) :
    (uninstallService init m name).Ensures s
      (fun _ t => Backed init given t ∧ ∀ file text, t.files file = some text →
        s.files file = some text ∧ existing init s name ≠ some file)
      (Backed init given) := by
  unfold uninstallService
  apply Program.ensures_bind _ (removeService_ensures backed name)
  intro _ t holds
  exact (looks_askAll _).ensures (fun _ _ => holds) holds.1

/-- Every file that is there is the one that an uninstall of one of the names removes. -/
def Covers (init : Init) (names : List String) (s : State) : Prop :=
  ∀ file text, s.files file = some text → ∃ name ∈ names, existing init s name = some file

/-- The file that a name has stays its file while it is there. -/
theorem existing_kept {t : State} {name file text : String} (own : existing init s name = some file)
    (fewer : ∀ file text, t.files file = some text → s.files file = some text)
    (lookup : t.files file = some text) : existing init t name = some file := by
  have gone : ∀ other, s.files other = none → (t.files other).isSome = false := by
    intro other none
    cases there : t.files other with
    | none => rfl
    | some text =>
      rw [fewer other text there] at none
      cases none
  simp only [existing, List.map_cons, List.map_nil, List.find?_cons, List.find?_nil] at own ⊢
  cases client : s.files (serviceFile init .client name) with
  | some text' =>
    rw [client] at own
    cases own
    rw [lookup]
    rfl
  | none =>
    rw [client] at own
    rw [gone _ client]
    cases server : s.files (serviceFile init .server name) with
    | some text' =>
      rw [server] at own
      cases own
      rw [lookup]
      rfl
    | none =>
      rw [server] at own
      cases own

theorem uninstallEach_ensures (services : List (String × ServiceRole))
    (backed : Backed init given s) (covers : Covers init (services.map Prod.fst) s) :
    (uninstallEach init m services).Ensures s
      (fun _ t => Backed init given t ∧ Covers init [] t) (Backed init given) := by
  induction services generalizing s with
  | nil => exact Program.ensures_pure ⟨backed, covers⟩
  | cons service services ih =>
    obtain ⟨name, role⟩ := service
    unfold uninstallEach
    apply Program.ensures_bind _ (uninstallService_ensures backed name)
    rintro _ t ⟨backed, left⟩
    refine ih backed fun file text lookup => ?_
    obtain ⟨kept, other⟩ := left file text lookup
    obtain ⟨owner, listed, own⟩ := covers file text kept
    rcases List.mem_cons.mp listed with rfl | later
    · exact absurd own other
    · exact ⟨owner, later,
        existing_kept own (fun file text there => (left file text there).1) lookup⟩

theorem uninstallAll_ensures (services : List (String × ServiceRole))
    (backed : Backed init given s) (covers : Covers init (services.map Prod.fst) s) :
    (uninstallAll init m services).Ensures s (fun _ => Backed init given)
      (Backed init given) := by
  unfold uninstallAll
  apply Program.ensures_bind _ (uninstallEach_ensures services backed covers)
  rintro _ t ⟨backed, none⟩
  split
  · refine Program.ensures_modify ⟨backed.written, fun file text lookup => ?_⟩
    obtain ⟨name, listed, -⟩ := none file text lookup
    cases listed
  · exact Program.ensures_pure backed

theorem rewriteOne_ensures (sound : m.Sound) (backed : Backed init given s)
    (deployed : s.binary = true) (name : String) (role : ServiceRole) :
    (rewriteOne init m name role).Ensures s
      (fun _ t => Backed init given t ∧ t.binary = true) (Backed init given) := by
  unfold rewriteOne
  apply Program.ensures_bind (fun u t => s = u ∧ s = t) (Program.ensures_state ⟨rfl, rfl⟩)
  rintro _ _ ⟨rfl, rfl⟩
  dsimp only
  split
  · next there =>
    -- The file was written for a service, and that has this name.
    obtain ⟨old, lookup⟩ := Option.isSome_iff_exists.mp there
    obtain ⟨own, name', config, written⟩ := backed.written _ _ lookup
    obtain ⟨role', file⟩ := serviceOf_file init s name role
    have same : name' = name := serviceFile_inj (written.named.symm.trans file)
    subst same
    apply Program.ensures_bind (fun text t =>
        render init (.utf8 (configPath name')) (serviceOf init s name' role) = .ok text ∧ s = t)
      (Program.ensures_lift (fun _ ok => ⟨ok, rfl⟩) backed)
    rintro text _ ⟨rendered, rfl⟩
    apply Program.ensures_bind _ (writeFile_ensures sound backed deployed
      ⟨written.valid, file, .inl rfl, rendered⟩)
    intro _ t holds
    exact (looks_askAll _).ensures (fun _ _ => holds) holds.1
  · exact Program.ensures_pure ⟨backed, deployed⟩

theorem rewrite_ensures (sound : m.Sound) (services : List (String × ServiceRole))
    (backed : Backed init given s) (deployed : s.binary = true) :
    (rewrite init m services).Ensures s
      (fun _ t => Backed init given t ∧ t.binary = true) (Backed init given) := by
  induction services generalizing s with
  | nil => exact Program.ensures_pure ⟨backed, deployed⟩
  | cons service services ih =>
    unfold rewrite
    apply Program.ensures_bind _ (rewriteOne_ensures sound backed deployed service.1 service.2)
    rintro _ t ⟨backed, deployed⟩
    exact ih backed deployed

theorem upgradeBinary_ensures (sound : m.Sound) (services : List (String × ServiceRole))
    (backed : Backed init given s) :
    (upgradeBinary init m services).Ensures s (fun _ => Backed init given)
      (Backed init given) := by
  unfold upgradeBinary
  split
  · exact Program.ensures_pure backed
  · apply Program.ensures_bind _ (askAll_ensures _ backed)
    intro _ t backed
    apply Program.ensures_bind _ (deployBinary_ensures sound backed)
    rintro _ t ⟨backed, deployed⟩
    apply Program.ensures_bind _ (rewrite_ensures sound services backed deployed)
    rintro _ t ⟨backed, -⟩
    exact askAll_ensures _ backed

end Steps

/-- Whatever fails damages nothing, and all services are uninstalled only where every file belongs
to a service that is listed. -/
def Orderly (init : Init) (s : State) (a : Action) : Prop :=
  a.machine.Sound ∧
    ∀ services, a.request = .uninstallAll services → Covers init (services.map Prod.fst) s

/-- The run asked for an install with this configuration. -/
def Installs (as : List Action) (role : ServiceRole) (name : String) (config : OsPath) : Prop :=
  ∃ a ∈ as, ∃ allowUserConfig, a.request = .install role name config allowUserConfig

theorem backed_step {init : Init} {given : ServiceRole → String → OsPath → Prop} {s : State}
    {a : Action} (backed : Backed init given s) (orderly : Orderly init s a)
    (asked : ∀ role name config, Installs [a] role name config → given role name config) :
    Backed init given (a.run init s).2 := by
  obtain ⟨request, m⟩ := a
  obtain ⟨sound, covers⟩ := orderly
  cases request with
  | install role name config allowUserConfig =>
    exact (installService_ensures sound backed role name config allowUserConfig
      (asked role name config ⟨_, List.mem_singleton_self _, _, rfl⟩)).either
  | uninstall name =>
    apply Program.Ensures.either (P := Backed init given)
    exact Program.ensures_of
      (fun _ _ ran => ((uninstallService_ensures backed name).ok ran).1)
      fun _ _ ran => (uninstallService_ensures backed name).error ran
  | uninstallAll services =>
    exact (uninstallAll_ensures services backed (covers services rfl)).either
  | upgrade services => exact (upgradeBinary_ensures sound services backed).either

theorem backed_run {init : Init} {given : ServiceRole → String → OsPath → Prop} {s t : State}
    {as : List Action} (run : (system init).Run (Orderly init) s as t)
    (asked : ∀ role name config, Installs as role name config → given role name config)
    (backed : Backed init given s) : Backed init given t := by
  induction run with
  | nil => exact backed
  | @cons s u t a as orderly moved _ ih =>
    cases moved
    refine ih (fun role name config installs => ?_) (backed_step backed orderly ?_)
    · obtain ⟨b, member, rest⟩ := installs
      exact asked role name config ⟨b, List.mem_cons_of_mem _ member, rest⟩
    · rintro role name config ⟨b, member, rest⟩
      exact asked role name config
        ⟨b, List.mem_cons.mpr (.inl (List.mem_singleton.mp member)), rest⟩

/-- Whatever has failed on the way, every unit or script that is there belongs to one service, and
the init system starts the deployed binary from it: on the configuration under the name of the
service, or on the one that it was installed with, if that is a path which the init system reads as
it is. -/
theorem services_start {init : Init} {s t : State} {as : List Action} (fresh : (system init).init s)
    (run : (system init).Run (Orderly init) s as t) {file text : String}
    (lookup : t.files file = some text) :
    t.binary = true ∧ ∃ role name path, validateServiceName name = .ok () ∧
      file = serviceFile init role name ∧
      (path = configPath name ∨ Installs as role name (.utf8 path)) ∧
      (path = configPath name → Starts init path text) ∧
      (Starts init path text ↔ Takes init path) := by
  have start : Backed init (Installs as) s := by
    cases fresh
    refine ⟨fun _ _ found => ?_, fun _ _ found => ?_⟩ <;> cases found
  have backed := backed_run run (fun _ _ _ installs => installs) start
  obtain ⟨role, name, config, written⟩ := backed.written file text lookup
  have rendered := written.rendered
  rw [written.named] at rendered
  obtain ⟨path, rfl, starts⟩ := render_starts written.valid rendered
  refine ⟨backed.deployed file text lookup, role, name, path, written.valid, written.named, ?_,
    fun standard => ?_, starts⟩
  · rcases written.origin with same | asked
    · cases same
      exact .inl rfl
    · exact .inr asked
  · subst standard
    exact starts.mpr (takes_of_plain init (plainPath_config written.valid))

/-- A machine on which nothing fails. -/
def healthy : Machine := ⟨fun _ => none, fun _ => none, false⟩

/-- A server is installed, and upgraded later. -/
def webRun : List Action :=
  [⟨.install .server "web" (.utf8 (configPath "web")) false, healthy⟩,
    ⟨.upgrade [("web", .server)], healthy⟩]

theorem web_starts : ∃ t text,
    (system .systemd).Run (Orderly .systemd) ⟨fun _ => none, false⟩ webRun t ∧
    t.files "rathole-x-server-web.service" = some text ∧ t.binary = true ∧
    Starts .systemd (configPath "web") text := by
  have sound : healthy.Sound := ⟨fun _ => rfl, rfl⟩
  have run : (system .systemd).Run (Orderly .systemd) ⟨fun _ => none, false⟩ webRun
      (webRun.foldl (fun (s : State) a => (Action.run .systemd a s).2) ⟨fun _ => none, false⟩) :=
    .cons ⟨sound, fun _ request => by cases request⟩ rfl
      (.cons ⟨sound, fun _ request => by cases request⟩ rfl (.nil _))
  have there : ((webRun.foldl (fun (s : State) a => (Action.run .systemd a s).2)
      ⟨fun _ => none, false⟩).files "rathole-x-server-web.service").isSome = true := by
    decide +kernel
  obtain ⟨text, lookup⟩ := Option.isSome_iff_exists.mp there
  obtain ⟨deployed, role, name, path, -, file, origin, standard, -⟩ :=
    services_start rfl run lookup
  have own : serviceFile .systemd .server "web" = "rathole-x-server-web.service" := by
    decide +kernel
  have named : "web" = name := serviceFile_inj (own.trans file)
  subst named
  have same : path = configPath "web" := by
    rcases origin with same | ⟨a, member, _, request⟩
    · exact same
    · simp only [webRun, List.mem_cons, List.not_mem_nil, or_false] at member
      rcases member with rfl | rfl
      · cases request
        rfl
      · cases request
  subst same
  exact ⟨_, text, run, lookup, deployed, standard rfl⟩

end Rathole.LinuxServices
