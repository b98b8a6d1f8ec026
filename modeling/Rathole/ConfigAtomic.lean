import Rathole.ConfigRole
import Rathole.ConfigWrite

set_option autoImplicit false

/- When a command replaces the configuration at once or leaves it alone, whatever operation
fails: unless the configuration is its own temporary file. -/
namespace Rathole.ConfigEdit

open Disk (Leaves Atomic AtomicAt State Untouched leaves_pure leaves_lift swapped)
open Toml (Entries)

theorem rsplitDot_eq_some {name before after : List Char}
    (split : rsplitDot name = some (before, after)) : name = before ++ '.' :: after := by
  induction name generalizing before after with
  | nil => cases split
  | cons c rest ih =>
    unfold rsplitDot at split
    split at split
    · next b a found =>
      cases split
      rw [List.cons_append, ← ih found]
    · split at split
      · next dot =>
        cases split
        rw [dot, List.nil_append]
      · cases split

/-- Without a dot after it, a dot is the last one. -/
theorem rsplitDot_append {after : List Char} (dotless : '.' ∉ after) (before : List Char) :
    rsplitDot (before ++ '.' :: after) = some (before, after) := by
  have none : ∀ {rest : List Char}, '.' ∉ rest → rsplitDot rest = Option.none := by
    intro rest dotless
    cases found : rsplitDot rest with
    | none => rfl
    | some split =>
      rw [rsplitDot_eq_some found] at dotless
      simp at dotless
  induction before with
  | nil =>
    show rsplitDot ('.' :: after) = _
    unfold rsplitDot
    rw [none dotless]
    rfl
  | cons c rest ih =>
    rw [List.cons_append]
    unfold rsplitDot
    rw [ih]

namespace FilePath

variable {p : FilePath} {ext : String}

theorem fileName_eq_some {name : String} (named : p.fileName = some name) :
    p.last = name ∧ name ≠ "" := by
  unfold fileName at named
  split at named
  · cases named
  · next plain =>
    cases named
    exact ⟨rfl, fun empty => plain (Or.inl empty)⟩

theorem last_withExtension {name : String} (found : p.fileName = some name) (filled : ext ≠ "") :
    (p.withExtension ext).last = (stemAndExtension name).1 ++ "." ++ ext := by
  unfold withExtension
  rw [found]
  exact if_neg filled

/-- A path with a name is its own variant with an extension exactly when it has that one. -/
theorem withExtension_eq_self_iff (dotless : '.' ∉ ext.toList) (filled : ext ≠ "")
    (named : p.names = true) : p.withExtension ext = p ↔ p.extension = some ext := by
  obtain ⟨name, found⟩ := Option.isSome_iff_exists.mp named
  obtain ⟨same, filledName⟩ := fileName_eq_some found
  have last : p.withExtension ext = p ↔ (stemAndExtension name).1 ++ "." ++ ext = name := by
    have there := last_withExtension found filled
    constructor
    · intro equal
      rw [← there, equal, same]
    · intro equal
      rw [equal] at there
      unfold withExtension at there ⊢
      rw [found] at there ⊢
      dsimp only at there ⊢
      rw [there, ← same]
  have own : p.extension = (stemAndExtension name).2 := by
    unfold extension
    rw [found, Option.bind_some]
  rw [last, own]
  constructor
  · intro equal
    have split : rsplitDot name.toList = some ((stemAndExtension name).1.toList, ext.toList) := by
      rw [← rsplitDot_append dotless, ← congrArg String.toList equal]
      simp
    cases shape : (stemAndExtension name).1.toList with
    | nil =>
      rw [shape] at split
      have whole : stemAndExtension name = (name, none) := by
        unfold stemAndExtension
        rw [split]
      rw [whole] at shape
      exact absurd (String.toList_inj.mp shape) filledName
    | cons b before =>
      rw [shape] at split
      unfold stemAndExtension
      rw [split]
      simp
  · intro here
    unfold stemAndExtension at here ⊢
    split at here
    · next b before after split =>
      cases here
      apply String.toList_inj.mp
      rw [rsplitDot_eq_some split]
      simp
    · cases here

theorem toList_pid (pid : Nat) : (s!"tmp{pid}").toList = "tmp".toList ++ Nat.toDigits 10 pid :=
  String.toList_append.trans (congrArg ("tmp".toList ++ ·) Nat.toList_repr)

theorem pid_ne_empty (pid : Nat) : (s!"tmp{pid}") ≠ "" := by
  intro empty
  have chars := congrArg String.toList empty
  rw [toList_pid] at chars
  simp at chars

theorem pid_dotless (pid : Nat) : '.' ∉ (s!"tmp{pid}").toList := by
  intro member
  rw [toList_pid] at member
  rcases List.mem_append.mp member with letters | digit
  · revert letters
    decide
  · have isDigit := Nat.isDigit_of_mem_toDigits (b := 10) (by decide) (by decide) digit
    revert isDigit
    decide

end FilePath

namespace Host

variable {Text B : Type} {h : Host Text B} {p : FilePath} {s : State FilePath B} {bytes : List B}

/-- The temporary file is the configuration itself exactly when the configuration has the
extension that is meant for the temporary file. -/
theorem tmp_eq_path_iff (named : h.path.names = true) :
    h.tmp = h.path ↔ h.path.extension = some s!"tmp{h.pid}" :=
  FilePath.withExtension_eq_self_iff (FilePath.pid_dotless h.pid) (FilePath.pid_ne_empty h.pid)
    named

theorem names_tmp (named : h.tmp.names = true) : h.path.names = true := by
  unfold tmp FilePath.withExtension at named
  split at named
  · exact named
  · next found =>
    unfold FilePath.names
    rw [found]
    rfl

theorem tmp_ne_path (other : h.path.extension ≠ some s!"tmp{h.pid}") (named : h.tmp.names = true) :
    h.tmp ≠ h.path :=
  fun same => other ((tmp_eq_path_iff (names_tmp named)).mp same)

theorem leaves_readToString (h : Host Text B) (q : FilePath) : Leaves p (h.readToString q) := by
  apply (Disk.leaves_read p q).bind
  intro result
  cases result with
  | ok bytes =>
    dsimp only
    cases h.decode bytes <;> exact leaves_pure p _
  | error fault => exact leaves_pure p _

theorem leaves_loadDocument (h : Host Text B) : Leaves p h.loadDocument := by
  apply (leaves_readToString h h.path).bind
  intro result
  cases result with
  | ok text => exact leaves_lift p _
  | error fault =>
    dsimp only
    split
    · exact leaves_pure p _
    · exact leaves_lift p _

theorem leaves_existingDocument (h : Host Text B) : Leaves p h.existingDocument :=
  (leaves_loadDocument h).attempt.bind fun _ => leaves_pure p _

theorem leaves_setSide (h : Host Text B) (args : SetArgs) : Leaves p (h.setSide args) := by
  unfold setSide
  split
  · exact leaves_lift p _
  · exact (leaves_existingDocument h).bind fun _ => leaves_lift p _

theorem leaves_ensureConfigSkeleton (h : Host Text B) : Leaves p h.ensureConfigSkeleton := by
  apply (Disk.leaves_fileExists p h.path).bind
  intro there
  split
  · exact leaves_pure p _
  · dsimp only
    split
    · apply ((Disk.leaves_createDirAll p).orFail _).bind
      intro created
      exact leaves_pure p _
    · exact leaves_pure p _

theorem leaves_openDocument (h : Host Text B) : Leaves p h.openDocument := by
  apply (leaves_ensureConfigSkeleton h).bind
  intro created
  split
  · exact leaves_pure p _
  · exact (leaves_loadDocument h).bind fun _ => leaves_pure p _

theorem leaves_secure (h : Host Text B) : Leaves p h.secure := by
  unfold secure
  split
  · exact (Disk.leaves_setPermissions p h.tmp).orFail _
  · exact leaves_pure p _

theorem files_secure (h : Host Text B) (s : State FilePath B) : (h.secure s).2.files = s.files := by
  unfold secure
  split
  · rw [Disk.orFail_state, Disk.files_setPermissions]
  · rfl

theorem cleanUp_atomic {q : FilePath} (apart : q ≠ p) {x : Cmd B (Except Disk.Fault Unit)}
    (atomic : AtomicAt p (swapped bytes) x s) : AtomicAt p (swapped bytes) (cleanUp .disk x q) s := by
  apply atomic.recover
  intro fault t ran
  have cleaned : Leaves p (Disk.remove q : Cmd B _) := Disk.leaves_remove apart
  exact cleaned.andThen (fun _ => Disk.atomic_pure rfl) t

theorem replaceFile_atomic (apart : h.tmp ≠ h.path) (held : s.files h.tmp = some bytes) :
    AtomicAt h.path (swapped bytes) (h.replaceFile .disk) s := by
  unfold replaceFile
  split
  · apply cleanUp_atomic apart
    apply (Disk.replace_atomic held).recover
    intro fault t ran
    rw [← Disk.files_of_replace ran] at held
    split
    · exact Disk.rename_atomic held
    · exact Disk.atomic_pure rfl t
  · exact Disk.rename_atomic held

/-- The new content is in the temporary file before it takes the place of the old one. -/
theorem atomic_writeAtomic (other : h.path.extension ≠ some s!"tmp{h.pid}") (content : Text) :
    Atomic h.path (fun _ => some (h.encode content)) (h.writeAtomic content) := by
  intro s
  apply (((Disk.leaves_write (tmp_ne_path other)).orFail _) s).andThen
  intro a t wrote
  obtain ⟨named, held⟩ := Disk.files_of_write (Disk.orFail_ok wrote)
  apply (leaves_secure h t).andThen
  intro a u secured
  have kept := files_secure h t
  rw [secured] at kept
  rw [← kept] at held
  exact (cleanUp_atomic (tmp_ne_path other named)
    (replaceFile_atomic (tmp_ne_path other named) held)).orFail _

theorem writeAtomic_error {content : Text} {fault : Disk.Fault} {t : State FilePath B}
    (wrote : (Disk.write FilePath.names h.tmp (h.encode content) : Cmd B _) s =
      (.ok (.error fault), t)) : ∃ e, h.writeAtomic content s = (.error e, t) :=
  ⟨_, Disk.bind_error (Disk.orFail_error wrote)⟩

section Commands

variable (other : h.path.extension ≠ some s!"tmp{h.pid}")

include other

theorem atomic_saveDocument (doc : Entries) (created : Bool) :
    Atomic h.path (fun text => some (h.encode text)) (h.saveDocument doc created) :=
  ((atomic_writeAtomic other _).mapError _).map fun _ => rfl

theorem atomic_saveWithSkeleton (doc : Entries) (created : Bool) :
    Atomic h.path (fun text => some (h.encode text)) (h.saveWithSkeleton doc created) :=
  (leaves_lift h.path _).andThen fun _ => atomic_saveDocument other doc created

theorem atomic_removeService (name : String) :
    Atomic h.path (fun text => some (h.encode text)) (h.removeService name) := by
  apply (Disk.leaves_fileExists h.path h.path).andThen
  intro there
  split
  · apply (leaves_loadDocument h).andThen
    intro doc
    apply (leaves_lift h.path _).andThen
    intro side
    exact atomic_saveDocument other _ false
  · exact Disk.atomic_error _ _

theorem atomic_runSet (args : SetArgs) (keypair : Except String (String × String)) :
    Atomic h.path (fun out => some (h.encode out.1)) (h.runSet args keypair) := by
  apply (leaves_setSide h args).andThen
  intro side
  apply (leaves_lift h.path _).andThen
  intro fields
  apply (leaves_lift h.path _).andThen
  intro sided
  apply (leaves_lift h.path _).andThen
  intro values
  apply (leaves_openDocument h).andThen
  intro opened
  apply (leaves_lift h.path _).andThen
  intro allowed
  apply (leaves_lift h.path _).andThen
  intro doc
  apply (leaves_lift h.path _).andThen
  intro section_
  apply (leaves_lift h.path _).andThen
  intro entries
  apply (leaves_lift h.path _).andThen
  intro transported
  apply (leaves_lift h.path _).andThen
  intro valid
  exact (atomic_saveDocument other _ opened.1).map fun _ => rfl

theorem atomic_runAddSingle (args : AddArgs) (answers : Option Answers) (fresh : String)
    (keypair : Except String (String × String)) :
    Atomic h.path (fun out => some (h.encode out.1))
      (h.runAddSingle args answers fresh keypair) := by
  apply (leaves_existingDocument h).andThen
  intro existing
  apply (leaves_lift h.path _).andThen
  intro side
  apply (leaves_lift h.path _).andThen
  intro remote
  apply (leaves_lift h.path _).andThen
  intro addr
  apply (leaves_lift h.path _).andThen
  intro noiseKey
  apply (leaves_lift h.path _).andThen
  intro complete
  apply (leaves_lift h.path _).andThen
  intro hostPort
  apply (leaves_lift h.path _).andThen
  intro prompted
  apply (leaves_lift h.path _).andThen
  intro plan
  apply (leaves_openDocument h).andThen
  intro opened
  apply (leaves_lift h.path _).andThen
  intro allowed
  apply (leaves_lift h.path _).andThen
  intro vacant
  apply (leaves_lift h.path _).andThen
  intro prepared
  apply (leaves_lift h.path _).andThen
  intro noisy
  apply (leaves_lift h.path _).andThen
  intro inserted
  exact (atomic_saveWithSkeleton other _ opened.1).map fun _ => rfl

theorem atomic_runAddBatch (clientSpecs serverSpecs : List String) (fresh : Nat → String) :
    Atomic h.path (fun out => some (h.encode out.1))
      (h.runAddBatch clientSpecs serverSpecs fresh) := by
  apply (leaves_lift h.path _).andThen
  intro clients
  apply (leaves_lift h.path _).andThen
  intro servers
  apply (leaves_lift h.path _).andThen
  intro distinct
  apply (leaves_existingDocument h).andThen
  intro existing
  apply (leaves_lift h.path _).andThen
  intro client
  apply (leaves_lift h.path _).andThen
  intro server
  apply (leaves_openDocument h).andThen
  intro opened
  apply (leaves_lift h.path _).andThen
  intro vacant
  apply (leaves_lift h.path _).andThen
  intro inserted
  exact (atomic_saveWithSkeleton other _ opened.1).map fun _ => rfl

theorem atomic_runAddInteractive (rounds : List Round) (fresh : Nat → String) :
    Atomic h.path (fun out => out.1.map h.encode) (h.runAddInteractive rounds fresh) := by
  apply (Disk.leaves_fileExists h.path h.path).andThen
  intro there
  apply (leaves_loadDocument h).andThen
  intro doc
  apply (leaves_lift h.path _).andThen
  intro pinned
  apply (leaves_lift h.path _).andThen
  intro remote
  apply (leaves_lift h.path _).andThen
  intro pending
  dsimp only
  split
  · exact Disk.atomic_pure rfl
  · apply (leaves_ensureConfigSkeleton h).andThen
    intro created
    apply (leaves_lift h.path _).andThen
    intro inserted
    exact (atomic_saveWithSkeleton other _ (!there)).map fun _ => rfl

theorem atomic_runImport (source : FilePath) :
    Atomic h.path (fun out => some (h.encode out.1)) (h.runImport source) := by
  apply ((leaves_readToString h source).orFail _).andThen
  intro text
  apply (leaves_lift h.path _).andThen
  intro src
  apply (leaves_lift h.path _).andThen
  intro role
  apply (leaves_lift h.path _).andThen
  intro srcSection
  apply (leaves_openDocument h).andThen
  intro opened
  apply (leaves_lift h.path _).andThen
  intro allowed
  apply (leaves_lift h.path _).andThen
  intro address
  apply (leaves_lift h.path _).andThen
  intro section_
  apply (leaves_lift h.path _).andThen
  intro imported
  exact (atomic_saveWithSkeleton other _ opened.1).map fun _ => rfl

theorem atomic_execute (i : Host.Invocation) :
    Atomic h.path (fun text => text.map h.encode) (h.execute i) := by
  cases i with
  | addSingle args answers fresh keypair =>
    exact (atomic_runAddSingle other args answers fresh keypair).map fun _ => rfl
  | addBatch clientSpecs serverSpecs fresh =>
    exact (atomic_runAddBatch other clientSpecs serverSpecs fresh).map fun _ => rfl
  | addInteractive rounds fresh =>
    exact (atomic_runAddInteractive other rounds fresh).map fun _ => rfl
  | set args keypair => exact (atomic_runSet other args keypair).map fun _ => rfl
  | importFrom source => exact (atomic_runImport other source).map fun _ => rfl
  | remove name => exact (atomic_removeService other name).map fun _ => rfl

end Commands

end Host

/-- A machine whose texts are trees. -/
def treeHost (order : HashOrder) (path : FilePath) (pid : Nat) :
    Host Entries (String × Toml.Item) where
  crate := .tree
  parseUrl _ := none
  order := order
  path := path
  pid := pid
  os := .linux
  encode doc := doc
  decode doc := .ok doc

/-- Every file is a client, and the disk is full when the third operation is to write. -/
def fullDisk : State FilePath (String × Toml.Item) where
  files _ := some (webDocument .header)
  past := []
  outcomes n := if n = 2 then .fails ⟨false, "No space left on device"⟩ (some 0) else .done

/-- With the configuration for a temporary file, what has arrived is all that is left of it. -/
theorem removeService_truncates (order : HashOrder) {path : FilePath} {pid : Nat}
    (own : path.extension = some s!"tmp{pid}") : ∃ e t,
    (treeHost order path pid).removeService "web" fullDisk = (.error e, t) ∧
      t.files path = some [] := by
  have named : path.names = true := by
    unfold FilePath.extension at own
    unfold FilePath.names
    cases found : path.fileName with
    | none =>
      rw [found] at own
      cases own
    | some name => rfl
  have tmp : (treeHost order path pid).tmp = path := (Host.tmp_eq_path_iff named).mpr own
  obtain ⟨content, read⟩ : ∃ content,
      (treeHost order path pid).removeService "web" fullDisk =
        (((treeHost order path pid).writeAtomic content).mapError
          (fun e => s!"Failed to write {path.display}: {e}") >>= fun _ => pure content)
          fullDisk.skip.skip := ⟨_, rfl⟩
  have full : fullDisk.skip.skip.outcome = .fails ⟨false, "No space left on device"⟩ (some 0) := rfl
  obtain ⟨t, wrote, empty⟩ := Disk.write_fails (E := String) content named full
  rw [← tmp] at wrote
  obtain ⟨e, failed⟩ := Host.writeAtomic_error wrote
  exact ⟨_, t, read.trans (Disk.bind_error (Disk.mapError_error failed)), empty⟩

/-- Every command, on every machine, replaces the configuration once or leaves it as it was, and
shows nothing in between, if and only if the configuration has not the extension of the temporary
file of the process. -/
theorem commands_atomic_iff (path : FilePath) (pid : Nat) :
    (∀ (Text B : Type) (h : Host Text B), h.path = path → h.pid = pid → ∀ i : Host.Invocation,
      Atomic path (fun text => text.map h.encode) (h.execute i)) ↔
    path.extension ≠ some s!"tmp{pid}" := by
  constructor
  · intro atomic own
    obtain ⟨e, t, ran, truncated⟩ := removeService_truncates .some own
    have ends := atomic Entries (String × Toml.Item) (treeHost .some path pid) rfl rfl
      (.remove "web") fullDisk
    unfold AtomicAt at ends
    rw [show ((treeHost .some path pid).execute (.remove "web")) fullDisk = (.error e, t) from
      Disk.bind_error ran] at ends
    have kept : t.files path = some (webDocument .header) := ends.files
    cases kept.symm.trans truncated
  · rintro other Text B h rfl rfl i
    exact Host.atomic_execute other i

/-- The process 7 empties `rathole.tmp7` when the disk is full. -/
theorem config_as_temporary_file : ¬ ∀ (Text B : Type) (h : Host Text B) (i : Host.Invocation),
    Atomic h.path (fun text => text.map h.encode) (h.execute i) := by
  intro atomic
  have own : (⟨"/etc/rathole", "rathole.tmp7"⟩ : FilePath).extension = some s!"tmp{7}" := by
    decide
  obtain ⟨e, t, ran, truncated⟩ := removeService_truncates .some own
  have ends := atomic Entries (String × Toml.Item)
    (treeHost .some ⟨"/etc/rathole", "rathole.tmp7"⟩ 7) (.remove "web") fullDisk
  unfold AtomicAt at ends
  rw [show ((treeHost .some ⟨"/etc/rathole", "rathole.tmp7"⟩ 7).execute (.remove "web")) fullDisk =
    (.error e, t) from Disk.bind_error ran] at ends
  have kept : t.files ⟨"/etc/rathole", "rathole.tmp7"⟩ = some (webDocument .header) := ends.files
  cases kept.symm.trans truncated

end Rathole.ConfigEdit
