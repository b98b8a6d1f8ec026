import Rathole.ConfigAtomic

set_option autoImplicit false

/- The commands on a machine where no operation fails: they answer what the commands answer that
see the content of the file only. -/
namespace Rathole.ConfigEdit

open Disk (Reads Returns Takes reads_lift reads_pure contentOf moved)
open Toml (Entries)

theorem setSide_eq {Text : Type} (env : Env Text) (args : SetArgs) (file : Option Text) :
    setSide env args file = Host.setSideFrom args (loadDocument env file).toOption := by
  unfold setSide Host.setSideFrom
  cases args.client <;> cases args.server <;> cases loadDocument env file <;> rfl

namespace Host

variable {Text B : Type} {h : Host Text B} {files : FilePath → Option (List B)}
  {file : Option Text}

/-- The configuration among the files, and texts that are written as they can be read again. -/
structure Holds (h : Host Text B) (files : FilePath → Option (List B)) (file : Option Text) :
    Prop where
  named : h.path.names = true
  here : files h.path = file.map h.encode
  decodes : ∀ text, h.decode (h.encode text) = .ok text

theorem reads_readToString (holds : Holds h files file) {q : FilePath} {content : Option Text}
    (held : files q = content.map h.encode) :
    Reads files (h.readToString q) (.ok (contentOf content)) := by
  apply (Disk.reads_read q).bind (g := fun _ => .ok (contentOf content))
  intro result same
  cases same
  rw [held]
  cases content with
  | none => exact reads_pure _
  | some text =>
    dsimp only [contentOf, Option.map_some]
    rw [holds.decodes]
    exact reads_pure _

theorem reads_loadDocument (holds : Holds h files file) :
    Reads files h.loadDocument (ConfigEdit.loadDocument h.env file) := by
  apply (reads_readToString holds holds.here).bind
    (g := fun _ => ConfigEdit.loadDocument h.env file)
  intro result same
  cases same
  cases file with
  | none => exact reads_pure _
  | some text => exact reads_lift _

theorem reads_existingDocument (holds : Holds h files file) :
    Reads files h.existingDocument (.ok (ConfigEdit.loadDocument h.env file).toOption) := by
  apply (reads_loadDocument holds).attempt.bind (g := fun r => .ok r.toOption)
  intro doc same
  exact reads_pure _

theorem reads_setSide (holds : Holds h files file) (args : SetArgs) :
    Reads files (h.setSide args) (ConfigEdit.setSide h.env args file) := by
  rw [setSide_eq]
  unfold setSide
  split
  · next flag =>
    have same : setSideFrom args (ConfigEdit.loadDocument h.env file).toOption =
        setSideFrom args none := by
      unfold setSideFrom
      cases client : args.client <;> cases server : args.server <;> simp_all
    rw [same]
    exact reads_lift _
  · apply (reads_existingDocument holds).bind (g := fun doc => setSideFrom args doc)
    intro doc same
    exact reads_lift _

theorem reads_ensureConfigSkeleton (holds : Holds h files file) :
    Reads files h.ensureConfigSkeleton (.ok file.isNone) := by
  apply (Disk.reads_fileExists h.path).bind (g := fun _ => .ok file.isNone)
  intro there same
  cases same
  rw [holds.here]
  cases file with
  | some text => exact reads_pure _
  | none =>
    show Reads files (if h.path.parent.getD "" ≠ "" then _ else _) _
    split
    · apply (Disk.reads_createDirAll.orFail _).bind (g := fun _ => .ok true)
      intro created same
      exact reads_pure _
    · exact reads_pure _

theorem reads_openDocument (holds : Holds h files file) : Reads files h.openDocument
    ((ConfigEdit.loadDocument h.env file).map fun doc => (file.isNone, doc)) := by
  apply (reads_ensureConfigSkeleton holds).bind
    (g := fun _ => (ConfigEdit.loadDocument h.env file).map fun doc => (file.isNone, doc))
  intro created same
  cases same
  cases file with
  | none => exact reads_pure _
  | some text =>
    apply (reads_loadDocument holds).bind
      (g := fun doc => .ok ((some text : Option Text).isNone, doc))
    intro doc same
    exact reads_pure _

theorem returns_openDocument {A : Type} {f : Bool × Entries → Cmd B A}
    {g : Entries → Except String A} (holds : Holds h files file)
    (next : ∀ doc, ConfigEdit.loadDocument h.env file = .ok doc →
      Returns files (f (file.isNone, doc)) (g doc)) :
    Returns files (h.openDocument >>= f) (ConfigEdit.loadDocument h.env file >>= g) := by
  have opened := (reads_openDocument holds).andThen (f := f) (g := fun o => g o.2)
  cases loaded : ConfigEdit.loadDocument h.env file with
  | error e =>
    rw [loaded] at opened
    apply opened
    intro o same
    cases same
  | ok doc =>
    rw [loaded] at opened
    apply opened
    intro o same
    cases same
    exact next doc loaded

theorem names_tmp_of_path (named : h.path.names = true) : h.tmp.names = true := by
  obtain ⟨name, found⟩ := Option.isSome_iff_exists.mp named
  have long : 3 ≤ h.tmp.last.toList.length := by
    unfold tmp
    rw [FilePath.last_withExtension found (FilePath.pid_ne_empty h.pid), String.toList_append,
      FilePath.toList_pid, List.length_append, List.length_append]
    have letters : "tmp".toList.length = 3 := rfl
    omega
  have short : ¬ (h.tmp.last = "" ∨ h.tmp.last = "..") := by
    rintro (empty | parent)
    · rw [empty] at long
      revert long
      decide
    · rw [parent] at long
      revert long
      decide
  unfold FilePath.names FilePath.fileName
  rw [if_neg short]
  rfl

theorem takes_secure {bytes : List B} (held : files h.tmp = some bytes) :
    Takes files h.secure () files := by
  unfold secure
  split
  · exact ((Disk.reads_setPermissions held).orFail _).takes
  · exact Disk.takes_pure ()

theorem takes_replaceFile {bytes : List B} (held : files h.tmp = some bytes) :
    Takes files (h.replaceFile .disk) (.ok ()) (moved files h.tmp h.path bytes) := by
  unfold replaceFile
  split
  · unfold replaceFilePreservingSecurity cleanUp
    apply Takes.recover
    cases there : files h.path with
    | some old =>
      apply Takes.recover
      exact Disk.takes_replace held (Option.isSome_of_eq_some there)
    | none =>
      apply (Disk.takes_replace_missing there).recovered
      exact Disk.takes_rename held
  · exact Disk.takes_rename held

theorem takes_writeAtomic (holds : Holds h files file) (content : Text) :
    Takes files (h.writeAtomic content) () (moved
      (Function.update files h.tmp (some (h.encode content))) h.tmp h.path (h.encode content)) := by
  have held : Function.update files h.tmp (some (h.encode content)) h.tmp =
      some (h.encode content) := Function.update_self _ _ _
  apply ((Disk.takes_write (names_tmp_of_path holds.named) _).orFail _).bind
  apply (takes_secure held).bind
  exact ((takes_replaceFile held).recover _).orFail _

theorem returns_saveDocument (holds : Holds h files file) (doc : Entries) (created : Bool) :
    Returns files (h.saveDocument doc created) (.ok (render h.env doc created)) := by
  have saved : Takes files (h.saveDocument doc created) (render h.env doc created) _ :=
    ((takes_writeAtomic holds (render h.env doc created)).mapError _).bind (Disk.takes_pure _)
  exact saved.returns

theorem returns_saveWithSkeleton (holds : Holds h files file) (doc : Entries) (created : Bool) :
    Returns files (h.saveWithSkeleton doc created)
      (ConfigEdit.saveWithSkeleton h.env doc created) :=
  (reads_lift _).andThen (g := fun _ => .ok (render h.env doc created))
    fun _ _ => returns_saveDocument holds doc created

theorem returns_removeService (holds : Holds h files file) (name : String) :
    Returns files (h.removeService name) (ConfigEdit.removeService h.env file name) := by
  apply (Disk.reads_fileExists h.path).andThen
    (g := fun _ => ConfigEdit.removeService h.env file name)
  intro there same
  cases same
  rw [holds.here]
  cases file with
  | none => exact (reads_lift _).returns
  | some text =>
    apply (reads_loadDocument holds).andThen
    intro doc loaded
    apply (reads_lift _).andThen
    intro side found
    exact returns_saveDocument holds _ false

theorem returns_runSet (holds : Holds h files file) (args : SetArgs)
    (keypair : Except String (String × String)) :
    Returns files (h.runSet args keypair) (ConfigEdit.runSet h.env args keypair file) := by
  apply (reads_setSide holds args).andThen
  intro side sided
  apply (reads_lift _).andThen
  intro fields given
  apply (reads_lift _).andThen
  intro checked sideChecked
  apply (reads_lift _).andThen
  intro values valuesChecked
  apply returns_openDocument holds
  intro doc loaded
  apply (reads_lift _).andThen
  intro role allowed
  apply (reads_lift _).andThen
  intro created opened
  apply (reads_lift _).andThen
  intro section_ found
  apply (reads_lift _).andThen
  intro entries set
  apply (reads_lift _).andThen
  intro transported transport
  apply (reads_lift _).andThen
  intro passed valid
  exact (returns_saveDocument holds _ file.isNone).map _

theorem returns_runAddSingle (holds : Holds h files file) (args : AddArgs)
    (answers : Option Answers) (fresh : String) (keypair : Except String (String × String)) :
    Returns files (h.runAddSingle args answers fresh keypair)
      (ConfigEdit.runAddSingle h.env args answers fresh keypair file) := by
  apply (reads_existingDocument holds).andThen (g := fun _ =>
    ConfigEdit.runAddSingle h.env args answers fresh keypair file)
  intro existing same
  cases same
  apply (reads_lift _).andThen
  intro side sided
  apply (reads_lift _).andThen
  intro remote client
  apply (reads_lift _).andThen
  intro addr addressed
  apply (reads_lift _).andThen
  intro noiseKey keyed
  apply (reads_lift _).andThen
  intro complete given
  apply (reads_lift _).andThen
  intro hostPort valid
  apply (reads_lift _).andThen
  intro prompted entered
  apply (reads_lift _).andThen
  intro plan planned
  apply returns_openDocument holds
  intro doc loaded
  apply (reads_lift _).andThen
  intro role allowed
  apply (reads_lift _).andThen
  intro vacant free
  apply (reads_lift _).andThen
  intro prepared opened
  apply (reads_lift _).andThen
  intro noisy noise
  apply (reads_lift _).andThen
  intro inserted added
  exact (returns_saveWithSkeleton holds _ file.isNone).map _

theorem returns_runAddBatch (holds : Holds h files file) (clientSpecs serverSpecs : List String)
    (fresh : Nat → String) : Returns files (h.runAddBatch clientSpecs serverSpecs fresh)
      (ConfigEdit.runAddBatch h.env clientSpecs serverSpecs fresh file) := by
  apply (reads_lift _).andThen
  intro clients clientsMade
  apply (reads_lift _).andThen
  intro servers serversMade
  apply (reads_lift _).andThen
  intro distinct checked
  apply (reads_existingDocument holds).andThen (g := fun existing => do
    checkIf ((clients ++ servers).any fun p => p.side = .client) do
      ensureRoleAllows (existing.getD []) .client
      ensureClientRemoteSet h.env (existing.getD [])
    checkIf ((clients ++ servers).any fun p => p.side = .server)
      (ensureRoleAllows (existing.getD []) .server)
    let doc ← ConfigEdit.loadDocument h.env file
    let doc := withServerSection doc (clients ++ servers)
    checkVacant doc (clients ++ servers)
    let inserted ← insertAll doc (clients ++ servers)
    let text ← ConfigEdit.saveWithSkeleton h.env inserted.1 file.isNone
    .ok (text, inserted.2))
  intro existing same
  apply (reads_lift _).andThen
  intro client clientAllowed
  apply (reads_lift _).andThen
  intro server serverAllowed
  apply returns_openDocument holds
  intro doc loaded
  apply (reads_lift _).andThen
  intro vacant free
  apply (reads_lift _).andThen
  intro inserted added
  exact (returns_saveWithSkeleton holds _ file.isNone).map _

theorem returns_runAddInteractive (holds : Holds h files file) (rounds : List Round)
    (fresh : Nat → String) : Returns files (h.runAddInteractive rounds fresh)
      (ConfigEdit.runAddInteractive h.env rounds fresh file) := by
  apply (Disk.reads_fileExists h.path).andThen
    (g := fun _ => ConfigEdit.runAddInteractive h.env rounds fresh file)
  intro there same
  cases same
  apply (reads_loadDocument holds).andThen
  intro doc loaded
  apply (reads_lift _).andThen
  intro pinned found
  apply (reads_lift _).andThen
  intro remote client
  apply (reads_lift _).andThen
  intro pending queued
  dsimp only
  split
  · exact (reads_pure _).returns
  · apply (reads_ensureConfigSkeleton holds).andThen (g := fun _ => do
      let inserted ← insertAll (withServerSection doc pending) pending
      let text ← ConfigEdit.saveWithSkeleton h.env inserted.1 file.isNone
      .ok (some text, inserted.2))
    intro created same
    apply (reads_lift _).andThen
    intro inserted added
    have missing : (!(files h.path).isSome) = file.isNone := by
      rw [holds.here, Option.isSome_map, Option.not_isSome]
    rw [missing]
    exact (returns_saveWithSkeleton holds _ file.isNone).map _

theorem returns_runImport (holds : Holds h files file) {source : FilePath} {content : Option Text}
    (held : files source = content.map h.encode) : Returns files (h.runImport source)
      (ConfigEdit.runImport h.env source.display ((contentOf content).mapError Disk.Fault.message)
        file) := by
  have old : Reads files (Disk.orFail (h.readToString source)
      fun fault => s!"Failed to read old config {source.display}: {fault.message}")
      (withContext ((contentOf content).mapError Disk.Fault.message)
        s!"Failed to read old config {source.display}") := by
    apply (reads_readToString holds held).bind (g := fun _ =>
      withContext ((contentOf content).mapError Disk.Fault.message)
        s!"Failed to read old config {source.display}")
    intro result same
    cases same
    cases content with
    | none => exact reads_lift _
    | some text => exact reads_pure _
  apply old.andThen
  intro text read
  apply (reads_lift _).andThen
  intro src parsed
  apply (reads_lift _).andThen
  intro role detected
  apply (reads_lift _).andThen
  intro srcSection found
  apply returns_openDocument holds
  intro doc loaded
  apply (reads_lift _).andThen
  intro checked allowed
  apply (reads_lift _).andThen
  intro address given
  apply (reads_lift _).andThen
  intro section_ there
  apply (reads_lift _).andThen
  intro imported applied
  exact (returns_saveWithSkeleton holds _ file.isNone).map _

/-- What a command writes, from the content of the files it reads. -/
def answer (h : Host Text B) (file : Option Text) (old : FilePath → Option Text) :
    Invocation → Except String (Option Text)
  | .addSingle args answers fresh keypair =>
    (ConfigEdit.runAddSingle h.env args answers fresh keypair file).map fun out => some out.1
  | .addBatch clientSpecs serverSpecs fresh =>
    (ConfigEdit.runAddBatch h.env clientSpecs serverSpecs fresh file).map fun out => some out.1
  | .addInteractive rounds fresh =>
    (ConfigEdit.runAddInteractive h.env rounds fresh file).map Prod.fst
  | .set args keypair => (ConfigEdit.runSet h.env args keypair file).map fun out => some out.1
  | .importFrom source =>
    (ConfigEdit.runImport h.env source.display
      ((contentOf (old source)).mapError Disk.Fault.message) file).map fun out => some out.1
  | .remove name => (ConfigEdit.removeService h.env file name).map some

theorem map_eq_bind {A A' : Type} (r : Except String A) (f : A → A') :
    r.map f = r >>= fun a => .ok (f a) := by
  cases r <;> rfl

/-- Where no operation fails, a command answers what it computes from the contents. -/
theorem returns_execute (holds : Holds h files file) {old : FilePath → Option Text}
    (held : ∀ source, files source = (old source).map h.encode) (i : Invocation) :
    Returns files (h.execute i) (h.answer file old i) := by
  cases i with
  | addSingle args answers fresh keypair =>
    simp only [answer, map_eq_bind]
    exact (returns_runAddSingle holds args answers fresh keypair).map _
  | addBatch clientSpecs serverSpecs fresh =>
    simp only [answer, map_eq_bind]
    exact (returns_runAddBatch holds clientSpecs serverSpecs fresh).map _
  | addInteractive rounds fresh =>
    simp only [answer, map_eq_bind]
    exact (returns_runAddInteractive holds rounds fresh).map _
  | set args keypair =>
    simp only [answer, map_eq_bind]
    exact (returns_runSet holds args keypair).map _
  | importFrom source =>
    simp only [answer, map_eq_bind]
    exact (returns_runImport holds (held source)).map _
  | remove name =>
    simp only [answer, map_eq_bind]
    exact (returns_removeService holds name).map _

/-- Every file is a client, and no operation fails. -/
def quietDisk : Disk.State FilePath (String × Toml.Item) where
  files _ := some (webDocument .header)
  past := []
  outcomes _ := .done

/-- Where no operation fails, the configuration holds what the command computes from the contents,
and is left alone when that is an error or nothing. -/
theorem execute_clean (other : h.path.extension ≠ some s!"tmp{h.pid}")
    (holds : Holds h files file) {old : FilePath → Option Text}
    (held : ∀ source, files source = (old source).map h.encode) (i : Invocation)
    {s : Disk.State FilePath B} (clean : Disk.Clean files s) :
    (h.execute i s).1 = h.answer file old i ∧
      Disk.Ends h.path s (h.execute i s).2
        ((h.answer file old i).toOption.bind fun text => text.map h.encode) := by
  have same := returns_execute holds held i s clean
  have atomic := atomic_execute other i s
  unfold Disk.AtomicAt at atomic
  rw [same] at atomic
  exact ⟨same, atomic⟩

/-- The only service of a client is removed. -/
theorem execute_clean_remove : ∃ content,
    ((treeHost .some ⟨"/etc", "rathole.toml"⟩ 7).execute (.remove "web") quietDisk).1 =
        .ok (some content) ∧
      Disk.Replaced ⟨"/etc", "rathole.toml"⟩ content quietDisk
        ((treeHost .some ⟨"/etc", "rathole.toml"⟩ 7).execute (.remove "web") quietDisk).2 := by
  let h := treeHost .some ⟨"/etc", "rathole.toml"⟩ 7
  let old : FilePath → Option Entries := fun _ => some (webDocument .header)
  obtain ⟨content, same⟩ : ∃ content,
      h.answer (some (webDocument .header)) old (.remove "web") = .ok (some content) := ⟨_, rfl⟩
  have holds : Holds h quietDisk.files (some (webDocument .header)) :=
    ⟨by decide, rfl, fun _ => rfl⟩
  have held : ∀ source, quietDisk.files source = (old source).map h.encode := fun _ => rfl
  have clean : Disk.Clean quietDisk.files quietDisk := ⟨rfl, fun _ => rfl⟩
  have ran := execute_clean (h := h) (by decide) holds held (.remove "web") clean
  rw [same] at ran
  exact ⟨content, ran⟩

end Host

end Rathole.ConfigEdit
