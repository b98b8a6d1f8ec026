import Rathole.ConfigFormed

set_option autoImplicit false

/- What an import decides about each key of the old configuration, and what it reports of it. -/
namespace Rathole.ConfigEdit

open Toml (Item Entries TableKind)

/-- The tables of an old configuration. -/
inductive Level
  | section_
  | transport
  | sub (name : String)
  | service (name : String)
  deriving DecidableEq

def Level.label (side : ServiceSide) : Level → String
  | section_ => side.key
  | transport => s!"{side.key}.transport"
  | sub name =>
    let label := s!"{side.key}.transport"
    s!"{label}.{name}"
  | service name => s!"{side.key}.services.{name}"

/-- A key that is reported as ignored. -/
structure Notice where
  level : Level
  key : String
  reason : Option String

def Notice.label (side : ServiceSide) (n : Notice) : String :=
  match n.reason with
  | some reason => s!"{n.level.label side}.{n.key} ({reason})"
  | none => s!"{n.level.label side}.{n.key}"

def Imported.note (r : Imported) (side : ServiceSide) (notices : List Notice) : Imported :=
  { r with ignored := r.ignored ++ notices.map (Notice.label side) }

/-- Why a field is left out, when it is. -/
abbrev Refusal := String × ScalarKind → Item → Option String

def scalarRefusal : Refusal := fun field item =>
  if field.2.matches_ item then none else some "unexpected value type"

def globalRefusal (side : ServiceSide) : Refusal := fun field item =>
  if field.2.matches_ item then rejectGlobal side field.1 field.2 item
  else some "unexpected value type"

/-- The fields of the source that are copied. -/
def taken (refusal : Refusal) (src : Entries) (keys : ImportKeys) : Entries :=
  keys.filterMap fun field => (src.lookup field.1).bind fun item =>
    if (refusal field item).isNone then some (field.1, item) else none

/-- The fields of the source that are left out. -/
def refused (refusal : Refusal) (level : Level) (src : Entries) (keys : ImportKeys) :
    List Notice :=
  keys.filterMap fun field => (src.lookup field.1).bind fun item =>
    (refusal field item).map fun reason => ⟨level, field.1, some reason⟩

/-- The keys of the source that are no fields. -/
def unknown (known : String → Bool) (level : Level) (src : Entries) : List Notice :=
  (src.filter fun e => known e.1 = false).map fun e => ⟨level, e.1, none⟩

def globalNotices (side : ServiceSide) (src : Entries) : List Notice :=
  refused (globalRefusal side) .section_ src side.importGlobals ++
    unknown (knownSectionKey side) .section_ src

/-- The type of a transport, when it is one that there is. -/
def takenType (src : Entries) : Entries :=
  match (src.lookup "type").bind Item.asStr with
  | some s => if s ∈ ["tcp", "tls", "noise", "websocket"] then [("type", .string s)] else []
  | none => []

def typeNotices (src : Entries) : List Notice :=
  match src.lookup "type" with
  | none => []
  | some item =>
    match item.asStr with
    | some s =>
      if s ∈ ["tcp", "tls", "noise", "websocket"] then []
      else [⟨.transport, "type", some s!"unknown type `{s}`"⟩]
    | none => [⟨.transport, "type", some "not a string"⟩]

/-- What is reported of a table of the source, also when it is none. -/
def tableNotices (src : Entries) (key : String) (level : Level)
    (inside : Entries → List Notice) : List Notice :=
  match src.lookup key with
  | none => []
  | some item =>
    match item.asTableLike with
    | none => [⟨level, key, some "not a table"⟩]
    | some (_, table) => inside table

def subNotices (src : Entries) (sub : String × ImportKeys) : List Notice :=
  tableNotices src sub.1 .transport fun src =>
    unknown sub.2.has (.sub sub.1) src ++ refused scalarRefusal (.sub sub.1) src sub.2

def transportNotices (src : Entries) : List Notice :=
  tableNotices src "transport" .section_ fun src =>
    unknown (fun k => decide (k ∈ transportImportKeys)) .transport src ++ typeNotices src ++
      transportImportSubkeys.flatMap (subNotices src)

/-- What becomes of a service of the source. -/
inductive ServiceFate
  | existing
  | invalid (reason : String) (notices : List Notice)
  | applied (entry : Entries) (notices : List Notice)

def serviceFate (side : ServiceSide) (existing : List String) (defaultTokenPresent : Bool)
    (e : String × Item) : ServiceFate :=
  if e.1 ∈ existing then .existing
  else
    match validateServiceName e.1 with
    | .error reason => .invalid reason []
    | .ok () =>
      match e.2.asTableLike with
      | none => .invalid "entry is not a table" []
      | some (_, src) =>
        let notices := unknown side.serviceImportKeys.has (.service e.1) src
        match importedEntry side defaultTokenPresent src with
        | .error reason => .invalid reason notices
        | .ok entry => .applied
            (entry.extend .header (taken scalarRefusal src (otherServiceKeys side)))
            (notices ++ refused scalarRefusal (.service e.1) src (otherServiceKeys side))

namespace ServiceFate

def notices : ServiceFate → List Notice
  | existing => []
  | invalid _ notices | applied _ notices => notices

def entry : ServiceFate → Option Entries
  | applied entry _ => some entry
  | _ => none

def reason : ServiceFate → Option String
  | invalid reason _ => some reason
  | _ => none

def isExisting : ServiceFate → Bool
  | existing => true
  | _ => false

end ServiceFate

/-- The services that are inserted, and the report of them. -/
def insertedServices (fate : String × Item → ServiceFate) (src : Entries) : Entries :=
  src.filterMap fun e => (fate e).entry.map fun entry => (e.1, .table .header entry)

def reportServices (fate : String × Item → ServiceFate) (side : ServiceSide) (src : Entries)
    (r : Imported) : Imported :=
  { r with
    services := r.services ++ (insertedServices fate src).map Prod.fst
    existingServices := r.existingServices ++ (src.filter fun e => (fate e).isExisting).map Prod.fst
    invalidServices := r.invalidServices ++
      src.filterMap fun e => (fate e).reason.map fun reason => (e.1, reason)
    ignored := r.ignored ++
      (src.flatMap fun e => (fate e).notices).map (Notice.label side) }

section Loops

variable {side : ServiceSide} {src entries : Entries} {kind : TableKind} {r : Imported}

theorem note_nil (r : Imported) (side : ServiceSide) : r.note side [] = r := by
  unfold Imported.note
  rw [List.map_nil, List.append_nil]

theorem note_append (r : Imported) (side : ServiceSide) (first second : List Notice) :
    r.note side (first ++ second) = (r.note side first).note side second := by
  unfold Imported.note
  rw [List.map_append, List.append_assoc]

theorem ignoreUnknown_eq (known : String → Bool) (level : Level) :
    r.ignoreUnknown known (fun k => s!"{level.label side}.{k}") src =
      r.note side (unknown known level src) := by
  unfold Imported.ignoreUnknown Imported.note unknown
  rw [List.map_map]
  rfl

theorem label_unexpected (level : Level) (key : String) :
    Notice.label side ⟨level, key, some "unexpected value type"⟩ =
      s!"{level.label side}.{key} (unexpected value type)" := by
  show level.label side ++ "." ++ key ++ " (" ++ "unexpected value type" ++ ")" =
    level.label side ++ "." ++ key ++ " (unexpected value type)"
  rw [String.append_assoc, String.append_assoc]
  rfl

section Fields

variable {refusal : Refusal} {field : String × ScalarKind} {rest : ImportKeys} {item : Item}
  {level : Level} {reason : String}

theorem taken_absent (absent : src.lookup field.1 = none) :
    taken refusal src (field :: rest) = taken refusal src rest := by
  simp [taken, absent]

theorem refused_absent (absent : src.lookup field.1 = none) :
    refused refusal level src (field :: rest) = refused refusal level src rest := by
  simp [refused, absent]

theorem taken_some (found : src.lookup field.1 = some item) (free : refusal field item = none) :
    taken refusal src (field :: rest) = (field.1, item) :: taken refusal src rest := by
  simp [taken, found, free]

theorem refused_none (found : src.lookup field.1 = some item) (free : refusal field item = none) :
    refused refusal level src (field :: rest) = refused refusal level src rest := by
  simp [refused, found, free]

theorem taken_none (found : src.lookup field.1 = some item)
    (refuses : refusal field item = some reason) :
    taken refusal src (field :: rest) = taken refusal src rest := by
  simp [taken, found, refuses]

theorem refused_some (found : src.lookup field.1 = some item)
    (refuses : refusal field item = some reason) :
    refused refusal level src (field :: rest) =
      ⟨level, field.1, some reason⟩ :: refused refusal level src rest := by
  simp [refused, found, refuses]

end Fields

theorem note_cons (n : Notice) (notices : List Notice) :
    r.note side (n :: notices) = (r.ignore (n.label side)).note side notices := by
  simp [Imported.note, Imported.ignore]

theorem foldl_importGlobal (keys : ImportKeys) :
    keys.foldl (importGlobal side src kind) (entries, r) =
      (entries.extend kind (taken (globalRefusal side) src keys),
        { r with fields := r.fields ++ (taken (globalRefusal side) src keys).map Prod.fst }.note side
          (refused (globalRefusal side) .section_ src keys)) := by
  induction keys generalizing entries r with
  | nil => simp [taken, refused, Imported.note, Toml.Entries.extend]
  | cons field rest ih =>
    rw [List.foldl_cons]
    cases found : src.lookup field.1 with
    | none =>
      have step : importGlobal side src kind (entries, r) field = (entries, r) := by
        simp only [importGlobal, found]
      rw [step, ih, taken_absent found, refused_absent found]
    | some item =>
      cases refuses : globalRefusal side field item with
      | none =>
        have step : importGlobal side src kind (entries, r) field =
            (entries.insert kind field.1 item, r.apply field.1) := by
          unfold globalRefusal at refuses
          split at refuses
          · next matched => simp [importGlobal, found, matched, refuses]
          · cases refuses
        rw [step, ih, taken_some found refuses, refused_none found refuses]
        simp [Imported.apply, Imported.note, Toml.Entries.extend_cons]
      | some reason =>
        have step : importGlobal side src kind (entries, r) field =
            (entries, r.ignore (Notice.label side ⟨.section_, field.1, some reason⟩)) := by
          unfold globalRefusal at refuses
          split at refuses
          · next matched => simp [importGlobal, found, matched, refuses, Notice.label, Level.label]
          · next different =>
            cases refuses
            rw [label_unexpected]
            simp [importGlobal, found, different, Level.label]
        rw [step, ih, taken_none found refuses, refused_some found refuses, note_cons]
        rfl

theorem foldl_importScalar (level : Level) (keys : ImportKeys) :
    keys.foldl (importScalar (level.label side) src kind) (entries, r) =
      (entries.extend kind (taken scalarRefusal src keys),
        r.note side (refused scalarRefusal level src keys)) := by
  induction keys generalizing entries r with
  | nil => simp [taken, refused, Imported.note, Toml.Entries.extend]
  | cons field rest ih =>
    rw [List.foldl_cons]
    cases found : src.lookup field.1 with
    | none =>
      have step : importScalar (level.label side) src kind (entries, r) field = (entries, r) := by
        simp only [importScalar, found]
      rw [step, ih, taken_absent found, refused_absent found]
    | some item =>
      by_cases matched : field.2.matches_ item = true
      · have free : scalarRefusal field item = none := if_pos matched
        have step : importScalar (level.label side) src kind (entries, r) field =
            (entries.insert kind field.1 item, r) := by
          simp [importScalar, found, matched]
        rw [step, ih, taken_some found free, refused_none found free, Toml.Entries.extend_cons]
      · have refuses : scalarRefusal field item = some "unexpected value type" := if_neg matched
        have step : importScalar (level.label side) src kind (entries, r) field =
            (entries, r.ignore (Notice.label side
              ⟨level, field.1, some "unexpected value type"⟩)) := by
          rw [label_unexpected]
          simp [importScalar, found, matched]
        rw [step, ih, taken_none found refuses, refused_some found refuses, note_cons]

theorem label_not_table (level : Level) (key : String) :
    Notice.label side ⟨level, key, some "not a table"⟩ =
      s!"{level.label side}.{key} (not a table)" := by
  show level.label side ++ "." ++ key ++ " (" ++ "not a table" ++ ")" =
    level.label side ++ "." ++ key ++ " (not a table)"
  rw [String.append_assoc, String.append_assoc]
  rfl

theorem label_not_string (level : Level) :
    Notice.label side ⟨level, "type", some "not a string"⟩ =
      s!"{level.label side}.type (not a string)" := by
  show level.label side ++ "." ++ "type" ++ " (" ++ "not a string" ++ ")" =
    level.label side ++ ".type (not a string)"
  simp only [String.append_assoc]
  rfl

theorem label_unknown_type (level : Level) (s : String) :
    Notice.label side ⟨level, "type", some s!"unknown type `{s}`"⟩ =
      s!"{level.label side}.type (unknown type `{s}`)" := by
  show level.label side ++ "." ++ "type" ++ " (" ++ ("unknown type `" ++ s ++ "`") ++ ")" =
    level.label side ++ ".type (unknown type `" ++ s ++ "`)"
  have head : ".type (unknown type `" = "." ++ "type" ++ " (" ++ "unknown type `" := rfl
  have tail : "`)" = "`" ++ ")" := rfl
  rw [head, tail]
  simp only [String.append_assoc]

theorem label_transport_not_table :
    Notice.label side ⟨.section_, "transport", some "not a table"⟩ =
      s!"{Level.label side .transport} (not a table)" := by
  rw [label_not_table]
  have dotted : side.key ++ "." ++ "transport" = side.key ++ ".transport" := by
    rw [String.append_assoc]
    rfl
  show side.key ++ "." ++ "transport" ++ " (not a table)" =
    side.key ++ ".transport" ++ " (not a table)"
  rw [dotted]

theorem label_services_not_table :
    Notice.label side ⟨.section_, "services", some "not a table"⟩ =
      s!"{side.key}.services (not a table)" := by
  rw [label_not_table]
  show side.key ++ "." ++ "services" ++ " (not a table)" = side.key ++ ".services (not a table)"
  rw [String.append_assoc, String.append_assoc]
  rfl

theorem note_single (n : Notice) : r.note side [n] = r.ignore (n.label side) := rfl

theorem importType_eq :
    importType (Level.label side .transport) src kind (entries, r) =
      (entries.extend kind (takenType src), r.note side (typeNotices src)) := by
  unfold importType takenType typeNotices
  cases src.lookup "type" with
  | none => exact Prod.ext rfl (note_nil r side).symm
  | some item =>
    rw [Option.bind_some]
    cases str : item.asStr with
    | none =>
      simp only [str]
      rw [note_single, label_not_string]
      rfl
    | some s =>
      simp only [str]
      by_cases known : s ∈ ["tcp", "tls", "noise", "websocket"]
      · rw [if_pos known, if_pos known, if_pos known, note_nil]
        rfl
      · rw [if_neg known, if_neg known, if_neg known, note_single, label_unknown_type]
        rfl

theorem insertedServices_append (fate : String × Item → ServiceFate) (first second : Entries) :
    insertedServices fate (first ++ second) =
      insertedServices fate first ++ insertedServices fate second := by
  simp [insertedServices]

theorem reportServices_append (fate : String × Item → ServiceFate) (first second : Entries) :
    reportServices fate side (first ++ second) r =
      reportServices fate side second (reportServices fate side first r) := by
  simp [reportServices, insertedServices]

section Service

variable {fate : String × Item → ServiceFate} {e : String × Item}

theorem inserted_single : insertedServices fate [e] =
    ((fate e).entry.map fun entry => (e.1, Item.table .header entry)).toList := by
  unfold insertedServices
  rw [List.filterMap_cons]
  cases (fate e).entry <;> rfl

theorem reported_existing (same : fate e = .existing) : reportServices fate side [e] r =
    { r with existingServices := r.existingServices ++ [e.1] } := by
  simp [reportServices, inserted_single, same, ServiceFate.entry, ServiceFate.reason,
    ServiceFate.isExisting, ServiceFate.notices]

theorem reported_invalid {reason : String} {notices : List Notice}
    (same : fate e = .invalid reason notices) :
    reportServices fate side [e] r = (r.note side notices).skip e.1 reason := by
  simp [reportServices, inserted_single, same, ServiceFate.entry, ServiceFate.reason,
    ServiceFate.isExisting, ServiceFate.notices, Imported.note, Imported.skip]

theorem reported_applied {entry : Entries} {notices : List Notice}
    (same : fate e = .applied entry notices) : reportServices fate side [e] r =
    { r.note side notices with services := r.services ++ [e.1] } := by
  simp [reportServices, inserted_single, same, ServiceFate.entry, ServiceFate.reason,
    ServiceFate.isExisting, ServiceFate.notices, Imported.note]

end Service

/-- One service, by what becomes of it. -/
theorem importService_eq {existing : List String} {defaultTokenPresent : Bool}
    (e : String × Item) :
    importService side existing defaultTokenPresent kind (entries, r) e =
      (entries.extend kind (insertedServices (serviceFate side existing defaultTokenPresent) [e]),
        reportServices (serviceFate side existing defaultTokenPresent) side [e] r) := by
  obtain ⟨name, item⟩ := e
  rw [inserted_single]
  unfold importService
  by_cases held : name ∈ existing
  · have fate : serviceFate side existing defaultTokenPresent (name, item) = .existing :=
      if_pos held
    rw [reported_existing fate, fate]
    simp [held, ServiceFate.entry, Toml.Entries.extend]
  · simp only [held, if_false]
    cases valid : validateServiceName name with
    | error reason =>
      have fate : serviceFate side existing defaultTokenPresent (name, item) =
          .invalid reason [] := by
        simp [serviceFate, held, valid]
      rw [reported_invalid fate, fate, note_nil]
      rfl
    | ok _ =>
      cases like : item.asTableLike with
      | none =>
        have fate : serviceFate side existing defaultTokenPresent (name, item) =
            .invalid "entry is not a table" [] := by
          simp [serviceFate, held, valid, like]
        rw [reported_invalid fate, fate, note_nil]
        rfl
      | some table =>
        obtain ⟨outer, src⟩ := table
        cases made : importedEntry side defaultTokenPresent src with
        | error reason =>
          have fate : serviceFate side existing defaultTokenPresent (name, item) =
              .invalid reason (unknown side.serviceImportKeys.has (.service name) src) := by
            simp [serviceFate, held, valid, like, made]
          rw [reported_invalid fate, fate, ← ignoreUnknown_eq]
          simp [ServiceFate.entry, Toml.Entries.extend, made, Level.label]
        | ok entry =>
          have fate : serviceFate side existing defaultTokenPresent (name, item) = .applied
              (entry.extend .header (taken scalarRefusal src (otherServiceKeys side)))
              (unknown side.serviceImportKeys.has (.service name) src ++
                refused scalarRefusal (.service name) src (otherServiceKeys side)) := by
            simp [serviceFate, held, valid, like, made]
          rw [reported_applied fate, fate, note_append, ← ignoreUnknown_eq]
          have others : (otherServiceKeys side).foldl
              (importScalar (Level.label side (.service name)) src .header)
              (entry, r.ignoreUnknown side.serviceImportKeys.has
                (fun k => s!"{Level.label side (.service name)}.{k}") src) = _ :=
            foldl_importScalar (.service name) (otherServiceKeys side)
          simp only [Level.label] at others
          simp [ServiceFate.entry, Toml.Entries.extend, made, Level.label, others]
          rfl

theorem extend_append (entries first second : Entries) (kind : TableKind) :
    entries.extend kind (first ++ second) = (entries.extend kind first).extend kind second := by
  simp [Toml.Entries.extend]

theorem foldl_importService {existing : List String} {defaultTokenPresent : Bool}
    (services : Entries) :
    services.foldl (importService side existing defaultTokenPresent kind) (entries, r) =
      (entries.extend kind
        (insertedServices (serviceFate side existing defaultTokenPresent) services),
        reportServices (serviceFate side existing defaultTokenPresent) side services r) := by
  induction services generalizing entries r with
  | nil => simp [insertedServices, reportServices, Toml.Entries.extend]
  | cons e rest ih =>
    rw [List.foldl_cons, importService_eq, ih, ← extend_append, ← insertedServices_append,
      ← reportServices_append]
    rfl

end Loops

section Tables

variable {Text : Type} {env : Env Text} {side : ServiceSide} {src entries after : Entries}
  {kind : TableKind} {r report : Imported}

/-- What the target has at the key of a table that is copied: the table that was there, or a new
one, with the fields of the source. -/
structure Copied (env : Env Text) (src : Entries) (kind : TableKind) (before after : Entries)
    (sub : String × ImportKeys) : Prop where
  table : ∀ outer table, src.lookup sub.1 = some (.table outer table) → ∃ inner old,
    ensureTable env kind before sub.1 = .ok (inner, old) ∧
    after.lookup sub.1 = some (.table inner (old.extend inner (taken scalarRefusal table sub.2)))
  other : ∀ item, src.lookup sub.1 = some item → item.asTableLike = none →
    after.lookup sub.1 = before.lookup sub.1
  absent : src.lookup sub.1 = none → after.lookup sub.1 = before.lookup sub.1

theorem importSub_absent {sub : String × ImportKeys} (absent : src.lookup sub.1 = none) :
    importSub env (Level.label side .transport) src kind (entries, r) sub =
      .ok (entries, r.note side (subNotices src sub)) := by
  simp only [importSub, subNotices, tableNotices, absent, note_nil]

theorem importSub_other {sub : String × ImportKeys} {item : Item}
    (found : src.lookup sub.1 = some item) (other : item.asTableLike = none) :
    importSub env (Level.label side .transport) src kind (entries, r) sub =
      .ok (entries, r.note side (subNotices src sub)) := by
  simp only [importSub, subNotices, tableNotices, found, other]
  rw [note_single, label_not_table]
  rfl

theorem importSub_table {sub : String × ImportKeys} {outer inner : TableKind} {table old : Entries}
    (found : src.lookup sub.1 = some (.table outer table))
    (ensured : ensureTable env kind entries sub.1 = .ok (inner, old)) :
    importSub env (Level.label side .transport) src kind (entries, r) sub =
      .ok (Toml.insertKey entries sub.1
        (.table inner (old.extend inner (taken scalarRefusal table sub.2))),
        r.note side (subNotices src sub)) := by
  have loop : sub.2.foldl (importScalar (Level.label side (.sub sub.1)) table inner)
      (old, r.ignoreUnknown sub.2.has (fun k => s!"{Level.label side (.sub sub.1)}.{k}") table) =
      (old.extend inner (taken scalarRefusal table sub.2), r.note side (subNotices src sub)) := by
    rw [ignoreUnknown_eq, foldl_importScalar, ← note_append]
    simp only [subNotices, tableNotices, found, Item.asTableLike]
  simp only [importSub, found, Item.asTableLike, ensured, bind, Except.bind]
  exact congrArg (fun copied : Entries × Imported =>
    Except.ok (Toml.insertKey entries sub.1 (.table inner copied.1), copied.2)) loop

theorem importSub_ok {sub : String × ImportKeys}
    (ran : importSub env (Level.label side .transport) src kind (entries, r) sub =
      .ok (after, report)) :
    Copied env src kind entries after sub ∧ report = r.note side (subNotices src sub) ∧
      ∀ key, key ≠ sub.1 → after.lookup key = entries.lookup key := by
  cases found : src.lookup sub.1 with
  | none =>
    rw [importSub_absent found] at ran
    cases ran
    refine ⟨⟨?_, ?_, fun _ => rfl⟩, rfl, fun _ _ => rfl⟩
    · intro outer table same
      cases found.symm.trans same
    · intro item same
      cases found.symm.trans same
  | some item =>
    cases like : item.asTableLike with
    | none =>
      rw [importSub_other found like] at ran
      cases ran
      refine ⟨⟨?_, fun _ _ _ => rfl, fun _ => rfl⟩, rfl, fun _ _ => rfl⟩
      intro outer table same
      cases found.symm.trans same
      cases like
    | some pair =>
      obtain ⟨outer, table⟩ := pair
      rw [asTableLike_eq_some like] at found
      cases ensured : ensureTable env kind entries sub.1 with
      | error message =>
        simp only [importSub, found, Item.asTableLike, ensured, bind, Except.bind] at ran
        cases ran
      | ok made =>
        obtain ⟨inner, old⟩ := made
        rw [importSub_table found ensured] at ran
        cases ran
        refine ⟨⟨?_, ?_, ?_⟩, rfl, ?_⟩
        · intro outer' table' there
          cases found.symm.trans there
          refine ⟨inner, old, ensured, ?_⟩
          rw [Toml.lookup_insertKey, if_pos rfl]
        · intro item' there none
          cases found.symm.trans there
          cases none
        · intro none
          cases found.symm.trans none
        · intro key apart
          rw [Toml.lookup_insertKey, if_neg apart]

theorem ensureTable_of_lookup {before : Entries} {key : String}
    (same : before.lookup key = entries.lookup key) :
    ensureTable env kind before key = ensureTable env kind entries key := by
  unfold ensureTable
  rw [same]

/-- The tables of a transport are copied one by one, and do not meet. -/
theorem importSubs_ok {subs : List (String × ImportKeys)} (nodup : (subs.map Prod.fst).Nodup)
    (ran : subs.foldlM (importSub env (Level.label side .transport) src kind) (entries, r) =
      .ok (after, report)) :
    (∀ sub ∈ subs, Copied env src kind entries after sub) ∧
      report = r.note side (subs.flatMap (subNotices src)) ∧
      ∀ key, key ∉ subs.map Prod.fst → after.lookup key = entries.lookup key := by
  induction subs generalizing entries r with
  | nil =>
    cases ran
    refine ⟨?_, (note_nil _ side).symm, fun _ _ => rfl⟩
    intro sub member
    cases member
  | cons sub rest ih =>
    obtain ⟨fresh, later⟩ := List.nodup_cons.mp nodup
    rw [List.foldlM_cons] at ran
    obtain ⟨⟨next, r'⟩, first, ran⟩ := bind_ok ran
    obtain ⟨copied, reported, frame⟩ := importSub_ok first
    obtain ⟨others, reports, kept⟩ := ih later ran
    refine ⟨?_, ?_, ?_⟩
    · intro s member
      rcases List.mem_cons.mp member with rfl | member
      · have same := kept s.1 fresh
        refine ⟨?_, ?_, ?_⟩
        · intro outer table there
          rw [same]
          exact copied.table outer table there
        · intro item there none
          rw [same]
          exact copied.other item there none
        · intro none
          rw [same]
          exact copied.absent none
      · have apart : s.1 ≠ sub.1 := fun met => fresh (met ▸ List.mem_map_of_mem member)
        have before := frame s.1 apart
        obtain ⟨table, other, absent⟩ := others s member
        refine ⟨?_, ?_, ?_⟩
        · intro outer inner there
          rw [← ensureTable_of_lookup before]
          exact table outer inner there
        · intro item there none
          rw [← before]
          exact other item there none
        · intro none
          rw [← before]
          exact absent none
    · rw [reports, reported, ← note_append]
      rfl
    · intro key apart
      rw [List.map_cons, List.mem_cons, not_or] at apart
      rw [kept key apart.2, frame key apart.1]

/-- The transport of the target after an import. -/
structure TransportCopied (env : Env Text) (src : Entries) (kind : TableKind)
    (before after : Entries) : Prop where
  table : ∀ outer table, src.lookup "transport" = some (.table outer table) →
    ∃ inner old transport, ensureTable env kind before "transport" = .ok (inner, old) ∧
      after.lookup "transport" = some (.table inner transport) ∧
      (∀ sub ∈ transportImportSubkeys,
        Copied env table inner (old.extend inner (takenType table)) transport sub) ∧
      ∀ key, key ∉ transportImportSubkeys.map Prod.fst →
        transport.lookup key = (old.extend inner (takenType table)).lookup key
  other : (∀ outer table, src.lookup "transport" ≠ some (.table outer table)) →
    after.lookup "transport" = before.lookup "transport"

/-- Whether a table of the source is copied. -/
def hasTable (src : Entries) (key : String) : Bool :=
  ((src.lookup key).bind Item.asTableLike).isSome

theorem importTransport_absent (absent : src.lookup "transport" = none) :
    importTransport env side src kind (entries, r) =
      .ok (entries, { r with transport := r.transport || hasTable src "transport" }.note side
        (transportNotices src)) := by
  simp only [importTransport, transportNotices, tableNotices, hasTable, absent, note_nil,
    Option.bind_none, Option.isSome_none, Bool.or_false]

theorem importTransport_other {item : Item} (found : src.lookup "transport" = some item)
    (other : item.asTableLike = none) :
    importTransport env side src kind (entries, r) =
      .ok (entries, { r with transport := r.transport || hasTable src "transport" }.note side
        (transportNotices src)) := by
  simp only [importTransport, transportNotices, tableNotices, hasTable, found, other, Option.bind_some,
    Option.isSome_none, Bool.or_false]
  rw [note_single, label_transport_not_table]
  rfl

theorem importTransport_table {outer inner : TableKind} {table old : Entries}
    (found : src.lookup "transport" = some (.table outer table))
    (ensured : ensureTable env kind entries "transport" = .ok (inner, old)) :
    importTransport env side src kind (entries, r) =
      (transportImportSubkeys.foldlM (importSub env (Level.label side .transport) table inner)
        (old.extend inner (takenType table), { r with transport := true }.note side
          (unknown (fun k => decide (k ∈ transportImportKeys)) .transport table ++
            typeNotices table))) >>=
        fun copied => .ok (Toml.insertKey entries "transport" (.table inner copied.1), copied.2) := by
  have type : importType (Level.label side .transport) table inner
      (old, { r with transport := true }.ignoreUnknown
        (fun k => decide (k ∈ transportImportKeys))
        (fun k => s!"{Level.label side .transport}.{k}") table) =
      (old.extend inner (takenType table), { r with transport := true }.note side
        (unknown (fun k => decide (k ∈ transportImportKeys)) .transport table ++
          typeNotices table)) := by
    rw [ignoreUnknown_eq, importType_eq, ← note_append]
  simp only [importTransport, found, Item.asTableLike, ensured]
  exact congrArg (fun start : Entries × Imported =>
    (transportImportSubkeys.foldlM (importSub env (Level.label side .transport) table inner)
      start) >>= fun copied : Entries × Imported => Except.ok
        (Toml.insertKey entries "transport" (.table inner copied.1), copied.2)) type

theorem importTransport_ok (ran : importTransport env side src kind (entries, r) =
    .ok (after, report)) : TransportCopied env src kind entries after ∧
      report = { r with transport := r.transport || hasTable src "transport" }.note side
        (transportNotices src) ∧
      ∀ key, key ≠ "transport" → after.lookup key = entries.lookup key := by
  cases found : src.lookup "transport" with
  | none =>
    rw [importTransport_absent found] at ran
    cases ran
    refine ⟨⟨?_, fun _ => rfl⟩, rfl, fun _ _ => rfl⟩
    intro outer table same
    cases found.symm.trans same
  | some item =>
    cases like : item.asTableLike with
    | none =>
      rw [importTransport_other found like] at ran
      cases ran
      refine ⟨⟨?_, fun _ => rfl⟩, rfl, fun _ _ => rfl⟩
      intro outer table same
      cases found.symm.trans same
      cases like
    | some pair =>
      obtain ⟨outer, table⟩ := pair
      rw [asTableLike_eq_some like] at found
      cases ensured : ensureTable env kind entries "transport" with
      | error message =>
        simp only [importTransport, found, Item.asTableLike, ensured, bind, Except.bind] at ran
        cases ran
      | ok made =>
        obtain ⟨inner, old⟩ := made
        rw [importTransport_table found ensured] at ran
        obtain ⟨⟨transport, r'⟩, subs, ran⟩ := bind_ok ran
        cases ran
        obtain ⟨copied, reports, frame⟩ := importSubs_ok (by decide) subs
        refine ⟨⟨?_, ?_⟩, ?_, ?_⟩
        · intro outer' table' there
          cases found.symm.trans there
          refine ⟨inner, old, transport, ensured, ?_, copied, frame⟩
          rw [Toml.lookup_insertKey, if_pos rfl]
        · intro other
          exact absurd found (other outer table)
        · simp only [transportNotices, tableNotices, hasTable, found, Item.asTableLike,
            Option.bind_some, Option.isSome_some, Bool.or_true]
          rw [reports, ← note_append]
        · intro key apart
          rw [Toml.lookup_insertKey, if_neg apart]

def existingNames (section_ : Entries) : List String :=
  match (section_.lookup "services").bind Item.asTableLike with
  | some (_, services) => services.map Prod.fst
  | none => []

def hasDefaultToken (section_ : Entries) : Bool :=
  ((section_.lookup "default_token").bind Item.asStr).any fun t => t ≠ ""

/-- What becomes of the services when this is the section of the target. -/
def sectionFate (side : ServiceSide) (section_ : Entries) : String × Item → ServiceFate :=
  serviceFate side (existingNames section_) (hasDefaultToken section_)

/-- The services of the target after an import. -/
structure ServicesCopied (env : Env Text) (side : ServiceSide) (src : Entries) (kind : TableKind)
    (before after : Entries) : Prop where
  table : ∀ outer services, src.lookup "services" = some (.table outer services) →
    ∃ inner old, ensureTable env kind before "services" = .ok (inner, old) ∧
      after.lookup "services" = some (.table inner
        (old.extend inner (insertedServices (sectionFate side before) services)))
  other : (∀ outer services, src.lookup "services" ≠ some (.table outer services)) →
    after.lookup "services" = before.lookup "services"

/-- The report of the services. -/
def servicesReport (side : ServiceSide) (src section_ : Entries) (r : Imported) : Imported :=
  match src.lookup "services" with
  | none => r
  | some item =>
    match item.asTableLike with
    | none => r.note side [⟨.section_, "services", some "not a table"⟩]
    | some (_, services) => reportServices (sectionFate side section_) side services r

theorem importServices_other
    (other : ∀ outer services, src.lookup "services" ≠ some (.table outer services)) :
    importServices env side src kind (entries, r) =
      .ok (entries, servicesReport side src entries r) := by
  unfold importServices servicesReport
  cases found : src.lookup "services" with
  | none => rfl
  | some item =>
    cases like : item.asTableLike with
    | none =>
      simp only [like]
      rw [note_single, label_services_not_table]
    | some pair => exact absurd (found.trans (congrArg some (asTableLike_eq_some like))) (other _ _)

theorem importServices_table {outer inner : TableKind} {services old : Entries}
    (found : src.lookup "services" = some (.table outer services))
    (ensured : ensureTable env kind entries "services" = .ok (inner, old)) :
    importServices env side src kind (entries, r) =
      .ok (Toml.insertKey entries "services" (.table inner
        (old.extend inner (insertedServices (sectionFate side entries) services))),
        servicesReport side src entries r) := by
  have loop : services.foldl (importService side (existingNames entries) (hasDefaultToken entries)
      inner) (old, r) = (old.extend inner (insertedServices (sectionFate side entries) services),
        servicesReport side src entries r) := by
    rw [foldl_importService]
    simp only [servicesReport, found, Item.asTableLike]
    rfl
  simp only [importServices, found, Item.asTableLike, ensured]
  exact congrArg (fun copied : Entries × Imported => Except.ok
    (Toml.insertKey entries "services" (.table inner copied.1), copied.2)) loop

theorem importServices_ok (ran : importServices env side src kind (entries, r) =
    .ok (after, report)) : ServicesCopied env side src kind entries after ∧
      report = servicesReport side src entries r ∧
      ∀ key, key ≠ "services" → after.lookup key = entries.lookup key := by
  by_cases table : ∃ outer services, src.lookup "services" = some (.table outer services)
  · obtain ⟨outer, services, found⟩ := table
    cases ensured : ensureTable env kind entries "services" with
    | error message =>
      simp only [importServices, found, Item.asTableLike, ensured, bind, Except.bind] at ran
      cases ran
    | ok made =>
      obtain ⟨inner, old⟩ := made
      rw [importServices_table found ensured] at ran
      cases ran
      refine ⟨⟨?_, ?_⟩, rfl, ?_⟩
      · intro outer' services' there
        cases found.symm.trans there
        refine ⟨inner, old, ensured, ?_⟩
        rw [Toml.lookup_insertKey, if_pos rfl]
      · intro other
        exact absurd found (other outer services)
      · intro key apart
        rw [Toml.lookup_insertKey, if_neg apart]
  · have other : ∀ outer services, src.lookup "services" ≠ some (.table outer services) :=
      fun outer services found => table ⟨outer, services, found⟩
    rw [importServices_other other] at ran
    cases ran
    refine ⟨⟨?_, fun _ => rfl⟩, rfl, fun _ _ => rfl⟩
    intro outer services found
    exact absurd found (other outer services)

/-- What an import reports apart from the services. -/
def headReport (side : ServiceSide) (src : Entries) : Imported :=
  { Imported.start with
    fields := (taken (globalRefusal side) src side.importGlobals).map Prod.fst
    transport := hasTable src "transport"
    ignored := (globalNotices side src ++ transportNotices src).map (Notice.label side) }

/-- The section of the target before and after an import. -/
structure SectionImported (env : Env Text) (side : ServiceSide) (src : Entries) (kind : TableKind)
    (before after : Entries) : Prop where
  transport : TransportCopied env src kind before after
  services : ServicesCopied env side src kind
    (before.extend kind (taken (globalRefusal side) src side.importGlobals)) after
  others : ∀ key, key ≠ "transport" → key ≠ "services" → after.lookup key =
    (before.extend kind (taken (globalRefusal side) src side.importGlobals)).lookup key

theorem mem_taken {refusal : Refusal} {keys : ImportKeys} {e : String × Item} :
    e ∈ taken refusal src keys ↔ ∃ field ∈ keys, field.1 = e.1 ∧ src.lookup field.1 = some e.2 ∧
      refusal field e.2 = none := by
  unfold taken
  rw [List.mem_filterMap]
  constructor
  · rintro ⟨field, member, same⟩
    obtain ⟨item, found, same⟩ := Option.bind_eq_some_iff.mp same
    split at same
    · next free =>
      cases same
      exact ⟨field, member, rfl, found, Option.isNone_iff_eq_none.mp free⟩
    · cases same
  · rintro ⟨field, member, same, found, free⟩
    refine ⟨field, member, ?_⟩
    rw [found, Option.bind_some, free, same]
    rfl

theorem not_mem_taken {refusal : Refusal} {keys : ImportKeys} {key : String}
    (absent : key ∉ keys.map Prod.fst) : key ∉ (taken refusal src keys).map Prod.fst := by
  intro member
  obtain ⟨e, listed, rfl⟩ := List.mem_map.mp member
  obtain ⟨field, held, same, -⟩ := mem_taken.mp listed
  exact absent (same ▸ List.mem_map_of_mem held)

theorem TransportCopied.congr {before' after' : Entries}
    (copied : TransportCopied env src kind entries after)
    (before : before'.lookup "transport" = entries.lookup "transport")
    (last : after'.lookup "transport" = after.lookup "transport") :
    TransportCopied env src kind before' after' := by
  constructor
  · intro outer table there
    obtain ⟨inner, old, transport, ensured, held, subs, frame⟩ := copied.table outer table there
    refine ⟨inner, old, transport, ?_, last.trans held, subs, frame⟩
    rw [ensureTable_of_lookup before]
    exact ensured
  · intro none
    rw [last, before]
    exact copied.other none

theorem sectionFate_congr {section_ section_' : Entries}
    (services : section_'.lookup "services" = section_.lookup "services")
    (token : section_'.lookup "default_token" = section_.lookup "default_token") :
    sectionFate side section_' = sectionFate side section_ := by
  unfold sectionFate existingNames hasDefaultToken
  rw [services, token]

theorem ServicesCopied.congr {before' : Entries}
    (copied : ServicesCopied env side src kind entries after)
    (services : before'.lookup "services" = entries.lookup "services")
    (token : before'.lookup "default_token" = entries.lookup "default_token") :
    ServicesCopied env side src kind before' after := by
  constructor
  · intro outer listed there
    obtain ⟨inner, old, ensured, held⟩ := copied.table outer listed there
    refine ⟨inner, old, ?_, ?_⟩
    · rw [ensureTable_of_lookup services]
      exact ensured
    · rw [sectionFate_congr services token]
      exact held
  · intro none
    rw [services]
    exact copied.other none

theorem importSection_ok (ran : importSection env side src kind entries = .ok (after, report)) :
    SectionImported env side src kind entries after ∧
      report = servicesReport side src
        (entries.extend kind (taken (globalRefusal side) src side.importGlobals))
        (headReport side src) := by
  unfold importSection at ran
  rw [foldl_importGlobal] at ran
  obtain ⟨⟨transported, r'⟩, transport, ran⟩ := bind_ok ran
  rw [show (fun k => s!"{side.key}.{k}") = fun k => s!"{Level.label side .section_}.{k}" from rfl,
    ignoreUnknown_eq, ← note_append] at transport
  obtain ⟨copied, reported, frame⟩ := importTransport_ok transport
  obtain ⟨inserted, reports, kept⟩ := importServices_ok ran
  have free : "transport" ∉ (taken (globalRefusal side) src side.importGlobals).map Prod.fst :=
    not_mem_taken (by cases side <;> decide)
  refine ⟨⟨?_, ?_, ?_⟩, ?_⟩
  · exact copied.congr (Toml.Entries.lookup_extend_of_not_mem free).symm (kept _ (by decide))
  · exact inserted.congr (frame _ (by decide)).symm (frame _ (by decide)).symm
  · intro key transport services
    rw [kept key services, frame key transport]
  · have head : headReport side src = { ({ Imported.start with
        fields := Imported.start.fields ++
          (taken (globalRefusal side) src side.importGlobals).map Prod.fst } : Imported).note side
          (globalNotices side src) with
        transport := Imported.start.transport || hasTable src "transport" }.note side
          (transportNotices src) := by
      simp [headReport, Imported.note, Imported.start]
    rw [reports, reported, head]
    unfold servicesReport
    rw [sectionFate_congr (frame _ (by decide)) (frame _ (by decide))]
    rfl

end Tables

section Run

variable {Text : Type} {env : Env Text} {source : String} {old : Except String Text}
  {file : Option Text} {after : Text} {side : ServiceSide} {report : Imported}

/-- The document that an import makes of the target. -/
def importedDocument (doc : Entries) (side : ServiceSide) (kind : TableKind) (section_ : Entries) :
    Entries :=
  Toml.insertKey (withImportSection doc side) side.key (.table kind section_)

/-- An import that succeeds, with what it reads and makes. -/
structure ImportRun (env : Env Text) (old : Except String Text) (file : Option Text)
    (side : ServiceSide) (report : Imported) (after : Text) (src srcSection doc : Entries)
    (kind : TableKind) (section_ imported : Entries) : Prop where
  parsed : ∃ text, old = .ok text ∧ env.crate.parse text = .ok src
  role : ∃ role : ServiceRole, detectRole src = .ok role ∧ role.side = side
  source : ∃ outer, src.lookup side.key = some (.table outer srcSection)
  loaded : loadDocument env file = .ok doc
  allowed : ensureRoleAllows doc side = .ok ()
  address : (doc.lookup side.key).isNone = true →
    ((srcSection.lookup side.sectionAddrKey).bind Item.asStr).isNone = false
  target : (withImportSection doc side).lookup side.key = some (.table kind section_)
  imports : importSection env side srcSection kind section_ = .ok (imported, report)
  valid : validate env (env.crate.print (importedDocument doc side kind imported)) = .ok ()
  text : after = render env (importedDocument doc side kind imported) file.isNone

theorem withContext_of_ok {A : Type} {x : Except String A} {context : String} {a : A}
    (ran : x = .ok a) : withContext x context = .ok a := by
  rw [ran]
  rfl

theorem runImport_iff : runImport env source old file = .ok (after, side, report) ↔
    ∃ src srcSection doc kind section_ imported, ImportRun env old file side report after src
      srcSection doc kind section_ imported := by
  constructor
  · intro ran
    obtain ⟨text, read, ran⟩ := bind_ok ran
    obtain ⟨src, parsed, ran⟩ := bind_ok ran
    obtain ⟨role, detected, ran⟩ := bind_ok ran
    obtain ⟨⟨outer, srcSection⟩, found, ran⟩ := bind_ok ran
    obtain ⟨doc, loaded, ran⟩ := bind_ok ran
    obtain ⟨⟨⟩, allowed, ran⟩ := bind_ok ran
    obtain ⟨⟨⟩, address, ran⟩ := bind_ok ran
    obtain ⟨⟨kind, section_⟩, target, ran⟩ := bind_ok ran
    obtain ⟨⟨imported, r⟩, imports, ran⟩ := bind_ok ran
    obtain ⟨saved, save, ran⟩ := bind_ok ran
    obtain ⟨⟨⟩, valid, save⟩ := bind_ok save
    cases ran
    cases save
    refine ⟨src, srcSection, doc, kind, section_, imported, ⟨text, withContext_ok read,
      withContext_ok parsed⟩, ⟨role, withContext_ok detected, rfl⟩,
      ⟨outer, bind_asTableLike (okOrElse_ok found)⟩, loaded, withContext_ok allowed, ?_,
      bind_asTableLike (okOrElse_ok target), imports, valid, rfl⟩
    intro absent
    have given := bailIf_ok.mp address
    rw [decide_eq_false_iff_not, not_and, Bool.not_eq_true] at given
    exact given absent
  · rintro ⟨src, srcSection, doc, kind, section_, imported, run⟩
    obtain ⟨text, rfl, parsed⟩ := run.parsed
    obtain ⟨role, detected, rfl⟩ := run.role
    obtain ⟨outer, found⟩ := run.source
    have section_ := run.target
    have given : bailIf (decide ((doc.lookup role.side.key).isNone = true ∧
        ((srcSection.lookup role.side.sectionAddrKey).bind Item.asStr).isNone = true)) = fun _ =>
          .ok () := by
      funext message
      rw [bailIf_ok, decide_eq_false_iff_not, not_and, Bool.not_eq_true]
      exact run.address
    simp only [runImport, withContext, parsed, detected, found, okOrElse, run.loaded, run.allowed,
      given, sectionOf, section_, Option.bind_some, Item.asTableLike, run.imports, saveWithSkeleton,
      bind, Except.bind]
    have valid := run.valid
    unfold importedDocument at valid
    rw [valid, run.text]
    rfl

end Run

end Rathole.ConfigEdit
