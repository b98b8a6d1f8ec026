import Rathole.ConfigWrite
import Rathole.Fallible

set_option autoImplicit false

/- What the removal of a service takes out of the directory of its configuration, on Linux and on
Windows. -/
namespace Rathole.ServiceFiles

open ConfigEdit (FilePath rsplitDot)
open ConfigEdit.FilePath (stemAndExtension)
open Fallible (Program)

inductive Kind
  | file | directory
  deriving DecidableEq

/-- A directory: every name in it stands for one thing. -/
structure Directory where
  entries : List (String × Kind)
  nodup : (entries.map Prod.fst).Nodup

namespace Directory

def lookup (d : Directory) (name : String) : Option Kind := d.entries.lookup name

def has (d : Directory) (name : String) : Bool := (d.lookup name).isSome

def remove (d : Directory) (name : String) : Directory where
  entries := Toml.removeKey d.entries name
  nodup := (List.filter_sublist.map Prod.fst).nodup d.nodup

/-- Whether `read_dir` yields such a name. -/
def anyName (d : Directory) (p : String → Bool) : Bool := d.entries.any fun e => p e.1

end Directory

/-- `remove_file`, on a file system that works. -/
def removeFile (name : String) : Program Directory String Unit := fun d =>
  match d.lookup name with
  | some .file => (.ok (), d.remove name)
  | some .directory => (.error "Is a directory (os error 21)", d)
  | none => (.error "No such file or directory (os error 2)", d)

/-- A removal whose error is logged. -/
def tryRemove (name : String) (d : Directory) : Directory := (removeFile name d).2

def stem (name : String) : String := (stemAndExtension name).1

def isToml (name : String) : Bool := (stemAndExtension name).2 = some "toml"

def versionName : String := "version.toml"

def versionPath (config : FilePath) : FilePath := ⟨config.parent.getD "", versionName⟩

namespace Linux

/-- The directory of a bare file name is empty, and cannot be read. -/
def othersRemain (config : FilePath) (d : Directory) : Bool :=
  match config.parent with
  | some dir => dir ≠ "" && d.anyName fun name => isToml name && name ≠ versionName
  | none => false

def ensureRoot (root : Bool) : Except String Unit :=
  if root then .ok () else .error "please run with sudo"

def removeConfig (root : Bool) (config : FilePath) (purge : Bool) :
    Program Directory String Unit := do
  let d ← .state
  if purge && d.has config.last then
    .lift (ensureRoot root)
    (removeFile config.last).orElse id fun e _ =>
      s!"failed to remove config {config.display}: {e}"

def removeStamp (config : FilePath) : Program Directory String Unit := do
  let d ← .state
  if !othersRemain config d && d.has versionName then
    (removeFile versionName).orElse id fun e _ =>
      s!"failed to remove version stamp {(versionPath config).display}: {e}"

def removeServiceFiles (root : Bool) (config : FilePath) (purge : Bool) :
    Program Directory String Unit := do
  removeConfig root config purge
  removeStamp config

end Linux

namespace Windows

def othersRemain (config : FilePath) (d : Directory) : Bool :=
  d.anyName fun name => some name ≠ config.fileName && stem name ≠ "version" && isToml name

/-- A temporary file of an interrupted write to this configuration. -/
def isStale (config : FilePath) (name : String) : Bool :=
  (stem config.last ++ ".tmp").toList.isPrefixOf name.toList

/-- The directory of a bare file name is the current one. -/
def removeServiceFiles (config : FilePath) (purge : Bool) (d : Directory) : Directory :=
  let d := tryRemove s!"uninstall-{stem config.last}.bat" d
  let d :=
    if purge then
      let d := tryRemove config.last d
      ((d.entries.map Prod.fst).filter (isStale config)).foldl (fun d name => tryRemove name d) d
    else d
  if othersRemain config d then d else tryRemove versionName d

end Windows

/-- Another service has a configuration in the directory. -/
def Others (config : FilePath) (d : Directory) : Prop :=
  ∃ name, isToml name = true ∧ name ≠ versionName ∧ name ≠ config.last ∧
    d.lookup name = some .file

/-- A subdirectory looks like the configuration of another service. -/
def Lookalike (config : FilePath) (d : Directory) : Prop :=
  ∃ name, isToml name = true ∧ name ≠ versionName ∧ name ≠ config.last ∧
    d.lookup name = some .directory

/-- The stamp goes with the last service, the configuration goes with `purge`, and no
configuration of another service is touched. -/
structure Removed (config : FilePath) (purge : Bool) (before after : Directory) : Prop where
  stamp : after.has versionName = true ↔ before.has versionName = true ∧ Others config before
  own : after.has config.last = true ↔ before.has config.last = true ∧ purge = false
  others : ∀ name, isToml name = true → name ≠ versionName → name ≠ config.last →
    after.lookup name = before.lookup name

/-- Both implementations do what they should, and the same. -/
structure Agrees (root : Bool) (config : FilePath) (purge : Bool) (d : Directory) : Prop where
  linux : Removed config purge d (Linux.removeServiceFiles root config purge d).2
  windows : Removed config purge d (Windows.removeServiceFiles config purge d)
  same : ∀ name, name = versionName ∨ name = config.last →
    (Linux.removeServiceFiles root config purge d).2.has name =
      (Windows.removeServiceFiles config purge d).has name

section Lookup

variable {d : Directory} {name other : String} {config : FilePath} {purge : Bool}

theorem has_iff : d.has name = true ↔ name ∈ d.entries.map Prod.fst :=
  Toml.lookup_isSome d.entries name

theorem has_of_lookup {kind : Kind} (found : d.lookup name = some kind) : d.has name = true := by
  unfold Directory.has
  rw [found]
  rfl

theorem anyName_iff (d : Directory) (p : String → Bool) :
    d.anyName p = true ↔ ∃ name, d.has name = true ∧ p name = true := by
  simp only [Directory.anyName, List.any_eq_true, has_iff, List.mem_map]
  constructor
  · rintro ⟨e, member, holds⟩
    exact ⟨e.1, ⟨e, member, rfl⟩, holds⟩
  · rintro ⟨name, ⟨e, member, rfl⟩, holds⟩
    exact ⟨e, member, holds⟩

theorem lookup_tryRemove (name other : String) (d : Directory) :
    (tryRemove name d).lookup other =
      if other = name ∧ d.lookup other = some .file then none else d.lookup other := by
  unfold tryRemove removeFile
  split
  · next found =>
    show (Toml.removeKey d.entries name).lookup other = _
    rw [Toml.lookup_removeKey]
    by_cases same : other = name
    · subst same
      rw [if_pos rfl, if_pos ⟨rfl, found⟩]
    · rw [if_neg same, if_neg (fun both => same both.1)]
      rfl
  · next found =>
    rw [if_neg]
    rintro ⟨rfl, file⟩
    cases found.symm.trans file
  · next found =>
    rw [if_neg]
    rintro ⟨rfl, file⟩
    cases found.symm.trans file

theorem lookup_removeEach (names : List String) (other : String) (d : Directory) :
    (names.foldl (fun d name => tryRemove name d) d).lookup other =
      if other ∈ names ∧ d.lookup other = some .file then none else d.lookup other := by
  induction names generalizing d with
  | nil => simp
  | cons name names ih =>
    rw [List.foldl_cons, ih, lookup_tryRemove]
    by_cases same : other = name
    · subst same
      by_cases file : d.lookup other = some .file <;> simp [file]
    · simp [same]

/-- The last step of both implementations. -/
def dropStamp (others : Bool) (d : Directory) : Directory :=
  if others then d else tryRemove versionName d

theorem lookup_dropStamp (others : Bool) (d : Directory) (name : String) :
    (dropStamp others d).lookup name =
      if name = versionName ∧ others = false ∧ d.lookup name = some .file then none
      else d.lookup name := by
  unfold dropStamp
  cases others with
  | true => simp
  | false =>
    rw [if_neg Bool.false_ne_true, lookup_tryRemove]
    simp

end Lookup

section Names

theorem rsplitDot_eq {cs before after : List Char} (parts : rsplitDot cs = some (before, after)) :
    cs = before ++ '.' :: after := by
  induction cs generalizing before with
  | nil => cases parts
  | cons c rest ih =>
    rw [rsplitDot] at parts
    split at parts
    · next inner tail found =>
      cases parts
      rw [ih found]
      rfl
    · split at parts
      · next dot =>
        cases parts
        rw [dot]
        rfl
      · cases parts

theorem rsplitDot_append (before : List Char) {after : List Char} (plain : '.' ∉ after) :
    rsplitDot (before ++ '.' :: after) = some (before, after) := by
  have none : ∀ cs : List Char, '.' ∉ cs → rsplitDot cs = none := by
    intro cs
    induction cs with
    | nil => exact fun _ => rfl
    | cons c cs ih =>
      intro absent
      rw [List.mem_cons, not_or] at absent
      rw [rsplitDot, ih absent.2]
      simp [Ne.symm absent.1]
  induction before with
  | nil =>
    rw [List.nil_append, rsplitDot, none after plain]
    rfl
  | cons c before ih => rw [List.cons_append, rsplitDot, ih]

/-- A name with an extension is its stem, a dot and the extension. -/
theorem eq_of_isToml {name : String} (toml : isToml name = true) : name = stem name ++ ".toml" := by
  have split : (stemAndExtension name).2 = some "toml" := of_decide_eq_true toml
  have parts : stemAndExtension name = (stem name, some "toml") := Prod.ext rfl split
  unfold stemAndExtension at parts
  split at parts
  · next b before after found =>
    have whole := rsplitDot_eq found
    rw [Prod.mk.injEq, Option.some.injEq] at parts
    rw [← parts.1, ← String.toList_inj, whole, String.toList_append, String.toList_ofList]
    have extension : after = "toml".toList := by rw [← parts.2, String.toList_ofList]
    rw [extension]
    rfl
  · rw [Prod.mk.injEq] at parts
    cases parts.2

theorem stemAndExtension_append (stem_ : String) (nonempty : stem_ ≠ "") {extension : String}
    (plain : '.' ∉ extension.toList) :
    stemAndExtension (stem_ ++ "." ++ extension) = (stem_, some extension) := by
  have chars : (stem_ ++ "." ++ extension).toList = stem_.toList ++ '.' :: extension.toList := by
    simp
  unfold stemAndExtension
  rw [chars, rsplitDot_append _ plain]
  cases letters : stem_.toList with
  | nil => exact absurd (String.toList_eq_nil_iff.mp letters) nonempty
  | cons b before =>
    simp only [← letters, String.ofList_toList]

theorem isToml_versionName : isToml versionName = true := by decide

theorem stem_eq_version_iff {name : String} (toml : isToml name = true) :
    stem name = "version" ↔ name = versionName := by
  constructor
  · intro same
    rw [eq_of_isToml toml, same]
    rfl
  · intro same
    rw [same]
    decide

/-- The helper script of a service. -/
def helper (config : FilePath) : String := s!"uninstall-{stem config.last}.bat"

theorem stemAndExtension_helper (config : FilePath) :
    stemAndExtension (helper config) = ("uninstall-" ++ stem config.last, some "bat") := by
  have nonempty : "uninstall-" ++ stem config.last ≠ "" := by
    intro empty
    have letters := congrArg (List.length ∘ String.toList) empty
    simp at letters
  have ending : ".bat" = "." ++ "bat" := by decide
  have whole : helper config = ("uninstall-" ++ stem config.last) ++ ("." ++ "bat") := by
    rw [← ending]
    rfl
  rw [whole, ← String.append_assoc]
  exact stemAndExtension_append _ nonempty (by decide)

theorem isToml_helper (config : FilePath) : isToml (helper config) = false := by
  unfold isToml
  rw [stemAndExtension_helper]
  show decide (some "bat" = some "toml") = false
  decide

theorem helper_ne_last (config : FilePath) : helper config ≠ config.last := by
  intro same
  have own := stemAndExtension_helper config
  rw [same] at own
  have stems : stem config.last = "uninstall-" ++ stem config.last := congrArg Prod.fst own
  have lengths := congrArg (List.length ∘ String.toList) stems
  simp at lengths
  omega

theorem helper_ne_versionName (config : FilePath) : helper config ≠ versionName := by
  intro same
  have toml := isToml_helper config
  rw [same, isToml_versionName] at toml
  cases toml

theorem versionName_not_stale (config : FilePath) : Windows.isStale config versionName = false := by
  rw [← Bool.not_eq_true, Windows.isStale, List.isPrefixOf_iff_prefix, String.toList_append]
  intro stale
  have fronts : ∀ front ∈ versionName.toList.inits, ¬ ".tmp".toList <:+ front := by decide
  exact fronts _ (List.mem_inits _ _ |>.mpr stale) ⟨_, rfl⟩

end Names

section Decisions

variable {root purge : Bool} {config : FilePath} {d : Directory} {name : String}

theorem fileName_of_names (named : config.names = true) : config.fileName = some config.last := by
  unfold FilePath.names at named
  unfold FilePath.fileName at named ⊢
  split
  · next bad => simp [bad] at named
  · rfl

/-- The directory in front of the last step on Windows. -/
def Windows.cleared (config : FilePath) (purge : Bool) (d : Directory) : Directory :=
  let d := tryRemove (helper config) d
  if purge then
    let d := tryRemove config.last d
    ((d.entries.map Prod.fst).filter (isStale config)).foldl (fun d name => tryRemove name d) d
  else d

theorem Windows.removeServiceFiles_eq (config : FilePath) (purge : Bool) (d : Directory) :
    removeServiceFiles config purge d =
      dropStamp (othersRemain config (cleared config purge d)) (cleared config purge d) := rfl

theorem Windows.lookup_cleared (other : name ≠ helper config) :
    (cleared config purge d).lookup name =
      if purge = true ∧ (name = config.last ∨ isStale config name = true) ∧
        d.lookup name = some .file then none
      else d.lookup name := by
  have first : (tryRemove (helper config) d).lookup name = d.lookup name := by
    rw [lookup_tryRemove, if_neg (fun both => other both.1)]
  unfold cleared
  cases purge with
  | false => simpa using first
  | true =>
    simp only [if_true]
    rw [lookup_removeEach, lookup_tryRemove, first]
    by_cases own : name = config.last ∧ d.lookup name = some .file
    · simp [own]
    · rw [if_neg own]
      by_cases file : d.lookup name = some .file
      · have apart : name ≠ config.last := fun same => own ⟨same, file⟩
        have there : (tryRemove config.last (tryRemove (helper config) d)).has name = true := by
          have kept : (tryRemove config.last (tryRemove (helper config) d)).lookup name =
              some .file := by rw [lookup_tryRemove, first, if_neg own, file]
          exact has_of_lookup kept
        have listed := has_iff.mp there
        simp only [file, apart, List.mem_filter, listed, true_and, and_true, false_or]
      · simp [file]

theorem Windows.othersRemain_iff (named : config.names = true) :
    othersRemain config d = true ↔ ∃ name, d.has name = true ∧ isToml name = true ∧
      name ≠ versionName ∧ name ≠ config.last := by
  unfold othersRemain
  rw [anyName_iff]
  constructor
  · rintro ⟨name, there, holds⟩
    simp only [fileName_of_names named, Bool.and_eq_true, decide_eq_true_eq, ne_eq,
      Option.some.injEq] at holds
    obtain ⟨⟨apart, unlike⟩, toml⟩ := holds
    exact ⟨name, there, toml, fun same => unlike ((stem_eq_version_iff toml).mpr same), apart⟩
  · rintro ⟨name, there, toml, unlike, apart⟩
    refine ⟨name, there, ?_⟩
    simp only [fileName_of_names named, Bool.and_eq_true, decide_eq_true_eq, ne_eq,
      Option.some.injEq]
    exact ⟨⟨apart, fun same => unlike ((stem_eq_version_iff toml).mp same)⟩, toml⟩

theorem Linux.othersRemain_iff (named : config.names = true) :
    othersRemain config d = true ↔ config.dir ≠ "" ∧
      ∃ name, d.has name = true ∧ isToml name = true ∧ name ≠ versionName := by
  have parent : config.parent = some config.dir := by
    have last := fileName_of_names named
    unfold FilePath.fileName at last
    unfold FilePath.parent
    rw [if_neg]
    intro empty
    rw [if_pos (.inl empty)] at last
    cases last
  unfold othersRemain
  rw [parent]
  simp only [Bool.and_eq_true, decide_eq_true_eq, anyName_iff, ne_eq]

end Decisions

/-- What both platforms need of the directory: nothing that is to be removed is a subdirectory,
subdirectories do not pass for configurations, and the stamp is not the service's own file. -/
structure Plain (config : FilePath) (purge : Bool) (d : Directory) : Prop where
  own : purge = true → d.lookup config.last ≠ some .directory
  stamp : d.lookup versionName = some .directory → Others config d
  lookalikes : config.last ≠ versionName → d.has versionName = true → Lookalike config d →
    Others config d
  apart : config.last = versionName → d.has versionName = true →
    (Others config d ↔ purge = false)

/-- On Windows no configuration of another service has the name of a temporary file of this one. -/
def NotStale (config : FilePath) (purge : Bool) (d : Directory) : Prop :=
  purge = true → ∀ name, isToml name = true → name ≠ config.last → d.lookup name = some .file →
    Windows.isStale config name = false

/-- On Linux a removal needs root, the directory is named, and a configuration that stays does
not stand for a service of its own. -/
structure Located (root : Bool) (config : FilePath) (purge : Bool) (d : Directory) : Prop where
  root : purge = true → d.has config.last = true → root = true
  bare : config.dir = "" → Others config d → d.lookup versionName ≠ some .file
  kept : config.dir ≠ "" → purge = false → isToml config.last = true →
    config.last ≠ versionName → d.has config.last = true → d.has versionName = true →
    Others config d

section Agreement

variable {root purge : Bool} {config : FilePath} {d : Directory}

/-- A configuration of another service, or what looks like one. -/
theorem otherName_iff : (∃ name, d.has name = true ∧ isToml name = true ∧ name ≠ versionName ∧
    name ≠ config.last) ↔ Others config d ∨ Lookalike config d := by
  constructor
  · rintro ⟨name, there, toml, unlike, apart⟩
    obtain ⟨kind, found⟩ := Option.isSome_iff_exists.mp there
    cases kind with
    | file => exact .inl ⟨name, toml, unlike, apart, found⟩
    | directory => exact .inr ⟨name, toml, unlike, apart, found⟩
  · rintro (⟨name, toml, unlike, apart, found⟩ | ⟨name, toml, unlike, apart, found⟩) <;>
      exact ⟨name, has_of_lookup found, toml, unlike, apart⟩

/-- What is left before the last step, when a purge has taken no more than the configuration. -/
def Purged (config : FilePath) (purge : Bool) (d cleared : Directory) : Prop :=
  ∀ name, name = versionName ∨ name = config.last ∨ isToml name = true →
    cleared.lookup name =
      if purge = true ∧ name = config.last ∧ d.lookup name = some .file then none
      else d.lookup name

/-- The last step is right when its decision is the right one, wherever there is a stamp to decide
about. -/
theorem removed_dropStamp_iff {others : Bool} {cleared : Directory}
    (purged : Purged config purge d cleared) (plain : Plain config purge d) :
    Removed config purge d (dropStamp others cleared) ↔
      (d.lookup versionName = some .file → (config.last = versionName → purge = false) →
        (others = true ↔ Others config d)) := by
  have last := fun name => lookup_dropStamp others cleared name
  have stamp := purged versionName (.inl rfl)
  have own := purged config.last (.inr (.inl rfl))
  have untouched : ∀ name, isToml name = true → name ≠ versionName → name ≠ config.last →
      (dropStamp others cleared).lookup name = d.lookup name := by
    intro name toml unlike apart
    rw [last, if_neg (fun both => unlike both.1), purged name (.inr (.inr toml)),
      if_neg (fun both => apart both.2.1)]
  have removed_iff : Removed config purge d (dropStamp others cleared) ↔
      ((dropStamp others cleared).has versionName = true ↔
        d.has versionName = true ∧ Others config d) ∧
      ((dropStamp others cleared).has config.last = true ↔
        d.has config.last = true ∧ purge = false) :=
    ⟨fun removed => ⟨removed.stamp, removed.own⟩, fun both => ⟨both.1, both.2, untouched⟩⟩
  rw [removed_iff]
  have plainStamp := plain.stamp
  have plainOwn := plain.own
  have plainApart := plain.apart
  unfold Directory.has at plainApart ⊢
  rw [last, last]
  by_cases same : config.last = versionName
  · rw [same] at own plainOwn ⊢
    cases kind : d.lookup versionName with
    | none => simp_all
    | some kind' =>
      cases kind' <;> cases purge <;> cases others <;> simp_all
  · rw [if_neg (fun both : config.last = versionName ∧ _ => same both.1), own, stamp]
    have distinct : ¬ versionName = config.last := fun met => same met.symm
    cases kind : d.lookup versionName with
    | none => cases found : d.lookup config.last with
      | none => simp_all
      | some kind' => cases kind' <;> cases purge <;> simp_all
    | some kind' => cases found : d.lookup config.last with
      | none => cases kind' <;> cases others <;> simp_all
      | some kind'' => cases kind' <;> cases kind'' <;> cases purge <;> cases others <;> simp_all

theorem name_ne_helper {name : String}
    (one : name = versionName ∨ name = config.last ∨ isToml name = true) :
    name ≠ helper config := by
  rintro rfl
  rcases one with stamp | own | toml
  · exact helper_ne_versionName config stamp
  · exact helper_ne_last config own
  · rw [isToml_helper] at toml
    cases toml

theorem Windows.purged_cleared (fresh : NotStale config purge d) :
    Purged config purge d (Windows.cleared config purge d) := by
  intro name one
  rw [Windows.lookup_cleared (name_ne_helper one)]
  by_cases own : name = config.last
  · simp [own]
  · have kept : ¬ (purge = true ∧ isStale config name = true ∧ d.lookup name = some .file) := by
      rintro ⟨purges, stale, file⟩
      rcases one with stamp | own' | toml
      · rw [stamp, versionName_not_stale] at stale
        cases stale
      · exact own own'
      · rw [fresh purges name toml own file] at stale
        cases stale
    simp [own, kept]

/-- No step takes a subdirectory. -/
theorem Windows.lookup_directory {name : String}
    (one : name = versionName ∨ name = config.last ∨ isToml name = true)
    (found : d.lookup name = some .directory) :
    (Windows.cleared config purge d).lookup name = some .directory ∧
      (Windows.removeServiceFiles config purge d).lookup name = some .directory := by
  have cleared : (Windows.cleared config purge d).lookup name = some .directory := by
    rw [Windows.lookup_cleared (name_ne_helper one), found]
    simp
  refine ⟨cleared, ?_⟩
  rw [Windows.removeServiceFiles_eq, lookup_dropStamp, cleared]
  simp

theorem Windows.fresh_of_removed
    (removed : Removed config purge d (Windows.removeServiceFiles config purge d)) :
    NotStale config purge d := by
  intro purges name toml apart file
  rw [← Bool.not_eq_true]
  intro stale
  have unlike : name ≠ versionName := by
    rintro rfl
    rw [versionName_not_stale] at stale
    cases stale
  have kept := removed.others name toml unlike apart
  rw [Windows.removeServiceFiles_eq, lookup_dropStamp, if_neg (fun both => unlike both.1),
    Windows.lookup_cleared (name_ne_helper (.inr (.inr toml))),
    if_pos ⟨purges, .inr stale, file⟩, file] at kept
  cases kept

theorem Windows.plain_of_removed (named : config.names = true)
    (removed : Removed config purge d (Windows.removeServiceFiles config purge d)) :
    Plain config purge d := by
  have stays : d.lookup versionName = some .directory → Others config d := fun directory =>
    (removed.stamp.mp (has_of_lookup (Windows.lookup_directory (.inl rfl) directory).2)).2
  refine ⟨fun purges directory => ?_, stays, fun unlike there lookalike => ?_, fun same there => ?_⟩
  · have kept : (Windows.removeServiceFiles config purge d).lookup config.last = some .directory :=
      (Windows.lookup_directory (.inr (.inl rfl)) directory).2
    have unpurged := (removed.own.mp (has_of_lookup kept)).2
    rw [purges] at unpurged
    cases unpurged
  · obtain ⟨kind, found⟩ := Option.isSome_iff_exists.mp there
    cases kind with
    | directory => exact stays found
    | file =>
      obtain ⟨name, toml, other, apart, directory⟩ := lookalike
      have remain : Windows.othersRemain config (Windows.cleared config purge d) = true :=
        (Windows.othersRemain_iff named).mpr ⟨name, has_of_lookup
          (Windows.lookup_directory (.inr (.inr toml)) directory).1, toml, other, apart⟩
      have kept : (Windows.removeServiceFiles config purge d).lookup versionName = some .file := by
        rw [Windows.removeServiceFiles_eq, lookup_dropStamp, remain,
          Windows.lookup_cleared (name_ne_helper (.inl rfl)), versionName_not_stale, found]
        simp [Ne.symm unlike]
      exact (removed.stamp.mp (has_of_lookup kept)).2
  · have own := removed.own
    rw [same] at own
    constructor
    · exact fun others => (own.mp (removed.stamp.mpr ⟨there, others⟩)).2
    · exact fun unpurged => (removed.stamp.mp (own.mpr ⟨there, unpurged⟩)).2

/-- Windows does what it should with plain directories whose configurations are not named like
temporary files. -/
theorem Windows.removed_iff (named : config.names = true) :
    Removed config purge d (Windows.removeServiceFiles config purge d) ↔
      Plain config purge d ∧ NotStale config purge d := by
  constructor
  · intro removed
    exact ⟨Windows.plain_of_removed named removed, Windows.fresh_of_removed removed⟩
  · rintro ⟨plain, fresh⟩
    have purged := Windows.purged_cleared fresh
    rw [Windows.removeServiceFiles_eq, removed_dropStamp_iff purged plain]
    intro file unpurged
    have names_iff : (∃ name, (Windows.cleared config purge d).has name = true ∧
        isToml name = true ∧ name ≠ versionName ∧ name ≠ config.last) ↔
        Others config d ∨ Lookalike config d := by
      rw [← otherName_iff]
      have same : ∀ name, isToml name = true → name ≠ config.last →
          (Windows.cleared config purge d).has name = d.has name := by
        intro name toml apart
        unfold Directory.has
        rw [purged name (.inr (.inr toml)), if_neg (fun both => apart both.2.1)]
      constructor <;> rintro ⟨name, there, toml, unlike, apart⟩
      · exact ⟨name, (same name toml apart).symm.trans there, toml, unlike, apart⟩
      · exact ⟨name, (same name toml apart).trans there, toml, unlike, apart⟩
    rw [Windows.othersRemain_iff named, names_iff]
    refine or_iff_left_of_imp fun lookalike => ?_
    by_cases same : config.last = versionName
    · exact (plain.apart same (has_of_lookup file)).mpr (unpurged same)
    · exact plain.lookalikes same (has_of_lookup file) lookalike

/-- The directory in front of the last step on Linux, when nothing fails. -/
def Linux.cleared (config : FilePath) (purge : Bool) (d : Directory) : Directory :=
  if purge then tryRemove config.last d else d

theorem Linux.purged_cleared : Purged config purge d (Linux.cleared config purge d) := by
  intro name _
  unfold Linux.cleared
  cases purge with
  | false => simp
  | true =>
    rw [if_pos rfl, lookup_tryRemove]
    simp

theorem state_run (d : Directory) :
    (Program.state : Program Directory String Directory) d = (.ok d, d) := rfl

/-- `remove_file` on the stamp is asked for when there is one. -/
theorem Linux.removeStamp_eq (config : FilePath) (d : Directory) :
    (Linux.removeStamp config d).2 = dropStamp (Linux.othersRemain config d) d := by
  unfold Linux.removeStamp dropStamp tryRemove Directory.has Program.orElse removeFile
  rw [Program.bind_ok (state_run d)]
  cases Linux.othersRemain config d with
  | true => rfl
  | false => cases kind : d.lookup versionName with
    | none => rfl
    | some kind' => cases kind' <;> simp [kind]

theorem Linux.removeConfig_eq (privileged : purge = true → d.has config.last = true → root = true)
    (plain : purge = true → d.lookup config.last ≠ some .directory) :
    Linux.removeConfig root config purge d = (.ok (), Linux.cleared config purge d) := by
  unfold Linux.removeConfig Linux.cleared tryRemove
  rw [Program.bind_ok (state_run d)]
  by_cases removes : purge = true ∧ d.has config.last = true
  · obtain ⟨purges, there⟩ := removes
    obtain ⟨kind, found⟩ := Option.isSome_iff_exists.mp there
    have file : d.lookup config.last = some .file := by
      cases kind with
      | file => exact found
      | directory => exact absurd found (plain purges)
    have rooted : (Program.lift (Linux.ensureRoot root) : Program Directory String Unit) d =
        (.ok (), d) := by
      rw [privileged purges there]
      rfl
    rw [if_pos (by simp [purges, there]), Program.bind_ok rooted, if_pos purges]
    unfold Program.orElse removeFile
    rw [file]
  · rw [if_neg (by simpa using removes)]
    split
    · next purges =>
      have absent : d.lookup config.last = none := by
        rw [← Option.not_isSome_iff_eq_none]
        exact fun there => removes ⟨purges, there⟩
      unfold removeFile
      rw [absent]
      rfl
    · rfl

theorem Linux.removeServiceFiles_eq (privileged : purge = true → d.has config.last = true →
    root = true) (plain : purge = true → d.lookup config.last ≠ some .directory) :
    (Linux.removeServiceFiles root config purge d).2 =
      dropStamp (Linux.othersRemain config (Linux.cleared config purge d))
        (Linux.cleared config purge d) := by
  unfold Linux.removeServiceFiles
  rw [Program.bind_ok (Linux.removeConfig_eq privileged plain), Linux.removeStamp_eq]

/-- Without root nothing is removed when there is a configuration to purge. -/
theorem Linux.removeServiceFiles_unprivileged (purges : purge = true)
    (there : d.has config.last = true) :
    (Linux.removeServiceFiles false config purge d).2 = d := by
  have refused : Linux.removeConfig false config purge d = (.error "please run with sudo", d) := by
    unfold Linux.removeConfig
    rw [Program.bind_ok (state_run d), if_pos (by simp [purges, there])]
    exact Program.bind_error rfl
  unfold Linux.removeServiceFiles
  rw [Program.bind_error refused]

/-- The names that Linux takes for other services: a configuration that stays is one of them. -/
theorem Linux.otherName_iff (plain : purge = true → d.lookup config.last ≠ some .directory) :
    (∃ name, (Linux.cleared config purge d).has name = true ∧ isToml name = true ∧
      name ≠ versionName) ↔
    Others config d ∨ Lookalike config d ∨ (purge = false ∧ d.has config.last = true ∧
      isToml config.last = true ∧ config.last ≠ versionName) := by
  rw [← or_assoc, ← ServiceFiles.otherName_iff]
  have purged : Purged config purge d (Linux.cleared config purge d) := Linux.purged_cleared
  have others : ∀ name, isToml name = true → name ≠ config.last →
      (Linux.cleared config purge d).has name = d.has name := by
    intro name toml apart
    unfold Directory.has
    rw [purged name (.inr (.inr toml)), if_neg (fun both => apart both.2.1)]
  have own : (Linux.cleared config purge d).has config.last = true ↔
      d.has config.last = true ∧ purge = false := by
    unfold Directory.has
    rw [purged config.last (.inr (.inl rfl))]
    cases found : d.lookup config.last with
    | none => simp
    | some kind => cases kind <;> cases purge <;> simp_all
  constructor
  · rintro ⟨name, there, toml, unlike⟩
    by_cases same : name = config.last
    · subst same
      exact .inr ⟨(own.mp there).2, (own.mp there).1, toml, unlike⟩
    · exact .inl ⟨name, (others name toml same).symm.trans there, toml, unlike, same⟩
  · rintro (⟨name, there, toml, unlike, apart⟩ | ⟨unpurged, there, toml, unlike⟩)
    · exact ⟨name, (others name toml apart).trans there, toml, unlike⟩
    · exact ⟨config.last, own.mpr ⟨there, unpurged⟩, toml, unlike⟩

/-- With a plain directory, Linux does what it should exactly for a root that names the directory
and leaves no configuration behind. -/
theorem Linux.removed_iff (named : config.names = true) (plain : Plain config purge d) :
    Removed config purge d (Linux.removeServiceFiles root config purge d).2 ↔
      Located root config purge d := by
  by_cases privileged : purge = true → d.has config.last = true → root = true
  · rw [Linux.removeServiceFiles_eq privileged plain.own,
      removed_dropStamp_iff Linux.purged_cleared plain, Linux.othersRemain_iff named,
      Linux.otherName_iff plain.own]
    constructor
    · intro decides
      refine ⟨privileged, fun bare others file => ?_, fun dir unpurged toml unlike own there => ?_⟩
      · have unpurged : config.last = versionName → purge = false := fun same =>
          (plain.apart same (has_of_lookup file)).mp others
        exact ((decides file unpurged).mpr others).1 bare
      · obtain ⟨kind, found⟩ := Option.isSome_iff_exists.mp there
        cases kind with
        | directory => exact plain.stamp found
        | file =>
          refine (decides found fun _ => unpurged).mp ?_
          exact ⟨dir, .inr (.inr ⟨unpurged, own, toml, unlike⟩)⟩
    · intro located file unpurged
      have there := has_of_lookup file
      constructor
      · rintro ⟨dir, others | lookalike | ⟨stays, own, toml, unlike⟩⟩
        · exact others
        · by_cases same : config.last = versionName
          · exact (plain.apart same there).mpr (unpurged same)
          · exact plain.lookalikes same there lookalike
        · exact located.kept dir stays toml unlike own there
      · exact fun others => ⟨fun bare => located.bare bare others file, .inl others⟩
  · simp only [Classical.not_imp, Bool.not_eq_true] at privileged
    obtain ⟨purges, there, unprivileged⟩ := privileged
    rw [unprivileged, Linux.removeServiceFiles_unprivileged purges there]
    apply iff_of_false
    · intro removed
      have unpurged := (removed.own.mp there).2
      rw [purges] at unpurged
      cases unpurged
    · intro located
      cases located.root purges there

/-- The stamp goes with the last service, on both platforms and in the same way, exactly when the
directory is plain, nothing in it is named like a temporary file, and Linux has what it needs. -/
theorem agrees_iff (root : Bool) (config : FilePath) (purge : Bool) (d : Directory)
    (named : config.names = true) :
    Agrees root config purge d ↔
      Plain config purge d ∧ NotStale config purge d ∧ Located root config purge d := by
  constructor
  · intro agrees
    obtain ⟨plain, fresh⟩ := (Windows.removed_iff named).mp agrees.windows
    exact ⟨plain, fresh, (Linux.removed_iff named plain).mp agrees.linux⟩
  · rintro ⟨plain, fresh, located⟩
    have linux := (Linux.removed_iff named plain).mpr located
    have windows := (Windows.removed_iff named).mpr ⟨plain, fresh⟩
    refine ⟨linux, windows, fun name one => Bool.eq_iff_iff.mpr ?_⟩
    rcases one with rfl | rfl
    · exact linux.stamp.trans windows.stamp.symm
    · exact linux.own.trans windows.own.symm

end Agreement

/-- A service whose configuration is kept, with the stamp and nothing else. -/
def lastService : Directory := ⟨[("relay.toml", .file), ("version.toml", .file)], by decide⟩

theorem lookup_lastService {name : String} {kind : Kind}
    (found : lastService.lookup name = some kind) :
    kind = .file ∧ (name = "relay.toml" ∨ name = versionName) := by
  have member : (name, kind) ∈ lastService.entries := Toml.mem_of_lookup found
  simp only [lastService, List.mem_cons, List.not_mem_nil, or_false, Prod.mk.injEq] at member
  rcases member with ⟨own, file⟩ | ⟨stamp, file⟩
  · exact ⟨file, .inl own⟩
  · exact ⟨file, .inr stamp⟩

theorem not_others_lastService : ¬ Others ⟨"/etc/rathole-x", "relay.toml"⟩ lastService := by
  rintro ⟨name, -, unlike, apart, file⟩
  rcases (lookup_lastService file).2 with own | stamp
  · exact apart own
  · exact unlike stamp

/-- Linux keeps the stamp when the configuration of the last service is kept. -/
theorem kept_config_keeps_stamp : ¬ Agrees true ⟨"/etc/rathole-x", "relay.toml"⟩ false
    lastService := by
  intro agrees
  have stays : (Linux.removeServiceFiles true ⟨"/etc/rathole-x", "relay.toml"⟩ false
      lastService).2.has versionName = true := by decide
  exact not_others_lastService (agrees.linux.stamp.mp stays).2

theorem plain_lastService : Plain ⟨"/etc/rathole-x", "relay.toml"⟩ true lastService := by
  refine ⟨fun _ found => ?_, fun found => ?_, fun _ _ lookalike => ?_, fun same => ?_⟩
  · cases (lookup_lastService found).1
  · cases (lookup_lastService found).1
  · obtain ⟨name, -, -, -, found⟩ := lookalike
    cases (lookup_lastService found).1
  · exact absurd same (by decide)

/-- The configuration of the last service is purged, and the stamp goes with it. -/
theorem purged_config_takes_stamp : Agrees true ⟨"/etc/rathole-x", "relay.toml"⟩ true
    lastService := by
  refine (agrees_iff true ⟨"/etc/rathole-x", "relay.toml"⟩ true lastService (by decide)).mpr
    ⟨plain_lastService, ?_, fun _ _ => rfl, fun bare => ?_, fun _ unpurged => ?_⟩
  · intro _ name _ apart file
    rcases (lookup_lastService file).2 with own | stamp
    · exact absurd own apart
    · rw [stamp]
      exact versionName_not_stale _
  · exact absurd bare (by decide)
  · cases unpurged

end Rathole.ServiceFiles
