import Rathole.ConfigAgain

set_option autoImplicit false

/- What becomes of every key of an old configuration. -/
namespace Rathole.ConfigEdit

open Toml (Item Entries TableKind Table Value)

/-- The tables of an old configuration whose keys are looked at. -/
inductive Place
  | file
  | services
  | level (level : Level)

namespace Place

def path (side : ServiceSide) : Place → List String
  | file => []
  | level .section_ => [side.key]
  | level .transport => [side.key, "transport"]
  | level (.sub name) => [side.key, "transport", name]
  | services => [side.key, "services"]
  | level (.service name) => [side.key, "services", name]

/-- Of the tables of a transport, the ones that there are. -/
def Known : Place → Prop
  | level (.sub name) => name ∈ transportImportSubkeys.map Prod.fst
  | _ => True

end Place

/-- A key of an old configuration, and what it is set to. -/
structure KeyAt (side : ServiceSide) (file : Entries) (place : Place) (key : String) (item : Item) :
    Prop where
  known : place.Known
  found : (Item.table .header file).follow (place.path side ++ [key]) = some item

def isTable (item : Item) : Bool := item.asTableLike.isSome

/-- What an import copies from a section, when this becomes of its services. -/
def Copies (side : ServiceSide) (src : Entries) (fate : String × Item → ServiceFate) :
    Place → String → Item → Prop
  | .file, key, _ => key = side.key
  | .level .section_, key, item => (key, item) ∈ taken (globalRefusal side) src side.importGlobals ∨
      (key = "transport" ∨ key = "services") ∧ isTable item = true
  | .level .transport, key, item => (∃ kind table, src.lookup "transport" = some (.table kind table) ∧
      (key, item) ∈ takenType table) ∨
      key ∈ transportImportSubkeys.map Prod.fst ∧ isTable item = true
  | .level (.sub name), key, item => ∃ kind table outer fields keys,
      src.lookup "transport" = some (.table kind table) ∧
      table.lookup name = some (.table outer fields) ∧ (name, keys) ∈ transportImportSubkeys ∧
      (key, item) ∈ taken scalarRefusal fields keys
  | .services, name, item => (fate (name, item)).entry.isSome = true
  | .level (.service name), key, item => ∃ kind services entry made,
      src.lookup "services" = some (.table kind services) ∧ services.lookup name = some entry ∧
      (fate (name, entry)).entry = some made ∧ made.lookup key = some item

/-- What is copied has its value in the target. -/
structure Applied (side : ServiceSide) (src : Entries) (fate : String × Item → ServiceFate)
    (t : Table) (place : Place) (key : String) (item : Item) : Prop where
  copied : Copies side src fate place key item
  there : ((Value.table t).follow (place.path side ++ [key])).map Value.leaf =
    item.written.map Value.leaf

/-- The service is reported as one that is there already, or as invalid. -/
def SkippedService (report : Imported) (name : String) : Prop :=
  name ∈ report.existingServices ∨ name ∈ report.invalidServices.map Prod.fst

def Skipped (report : Imported) : Place → String → Prop
  | .services, name | .level (.service name), _ => SkippedService report name
  | _, _ => False

/-- A key of this table is reported as ignored. -/
def Noticed (notices : List Notice) (level : Level) (key : String) : Prop :=
  ∃ n ∈ notices, n.level = level ∧ n.key = key

def Ignored (notices : List Notice) : Place → String → Prop
  | .level level, key => Noticed notices level key
  | _, _ => False

def ExactlyOne (a b c : Prop) : Prop := a ∧ ¬ b ∧ ¬ c ∨ ¬ a ∧ b ∧ ¬ c ∨ ¬ a ∧ ¬ b ∧ c

/-- What is reported as ignored of the services. -/
def serviceNotices (src : Entries) (fate : String × Item → ServiceFate) : List Notice :=
  tableNotices src "services" .section_ fun services => services.flatMap fun e => (fate e).notices

def importNotices (side : ServiceSide) (src : Entries) (fate : String × Item → ServiceFate) :
    List Notice :=
  globalNotices side src ++ transportNotices src ++ serviceNotices src fate

section Notices

variable {side : ServiceSide} {src : Entries} {level l : Level} {key : String}
  {first second : List Notice}

theorem noticed_nil : ¬ Noticed [] level key := by
  intro noticed
  obtain ⟨n, member, -⟩ := noticed
  cases member

theorem noticed_append :
    Noticed (first ++ second) level key ↔ Noticed first level key ∨ Noticed second level key := by
  simp only [Noticed, List.mem_append, or_and_right, exists_or]

theorem noticed_single {n : Notice} : Noticed [n] level key ↔ n.level = level ∧ n.key = key := by
  simp [Noticed]

theorem noticed_flatMap {A : Type} {xs : List A} {f : A → List Notice} :
    Noticed (xs.flatMap f) level key ↔ ∃ x ∈ xs, Noticed (f x) level key := by
  simp only [Noticed, List.mem_flatMap]
  tauto

theorem noticed_refused {refusal : Refusal} {keys : ImportKeys} :
    Noticed (refused refusal level src keys) l key ↔ l = level ∧ ∃ field ∈ keys, field.1 = key ∧
      ∃ item, src.lookup key = some item ∧ (refusal field item).isSome = true := by
  constructor
  · intro noticed
    obtain ⟨n, member, here, named⟩ := noticed
    obtain ⟨field, listed, same⟩ := List.mem_filterMap.mp member
    obtain ⟨item, found, same⟩ := Option.bind_eq_some_iff.mp same
    obtain ⟨reason, refuses, rfl⟩ := Option.map_eq_some_iff.mp same
    subst here
    subst named
    exact ⟨rfl, field, listed, rfl, item, found, Option.isSome_iff_exists.mpr ⟨reason, refuses⟩⟩
  · intro refuses
    obtain ⟨rfl, field, listed, rfl, item, found, some⟩ := refuses
    obtain ⟨reason, refuses⟩ := Option.isSome_iff_exists.mp some
    refine ⟨⟨l, field.1, reason⟩, ?_, rfl, rfl⟩
    apply List.mem_filterMap.mpr
    exact ⟨field, listed, by rw [found, Option.bind_some, refuses]; rfl⟩

theorem noticed_unknown {known : String → Bool} :
    Noticed (unknown known level src) l key ↔
      l = level ∧ known key = false ∧ (src.lookup key).isSome = true := by
  rw [Toml.lookup_isSome]
  constructor
  · intro noticed
    obtain ⟨n, member, here, named⟩ := noticed
    obtain ⟨e, listed, rfl⟩ := List.mem_map.mp member
    obtain ⟨listed, strange⟩ := List.mem_filter.mp listed
    subst here
    subst named
    exact ⟨rfl, of_decide_eq_true strange, List.mem_map_of_mem listed⟩
  · intro strange
    obtain ⟨rfl, strange, present⟩ := strange
    obtain ⟨e, listed, rfl⟩ := List.mem_map.mp present
    refine ⟨⟨l, e.1, none⟩, ?_, rfl, rfl⟩
    apply List.mem_map.mpr
    exact ⟨e, List.mem_filter.mpr ⟨listed, decide_eq_true strange⟩, rfl⟩

theorem noticed_type : Noticed (typeNotices src) l key ↔
    l = .transport ∧ key = "type" ∧ (src.lookup "type").isSome = true ∧ takenType src = [] := by
  unfold typeNotices takenType
  cases src.lookup "type" with
  | none => simp [noticed_nil]
  | some item =>
    cases str : item.asStr with
    | none =>
      simp only [Option.bind_some, str, noticed_single, Option.isSome_some, and_true]
      exact and_congr eq_comm eq_comm
    | some s =>
      simp only [Option.bind_some, str, Option.isSome_some, true_and]
      by_cases known : s ∈ ["tcp", "tls", "noise", "websocket"]
      · rw [if_pos known, if_pos known]
        simp [noticed_nil]
      · rw [if_neg known, if_neg known, noticed_single]
        simp only [and_true]
        exact and_congr eq_comm eq_comm

/-- A key that has to be a table and is none. -/
def NoTable (src : Entries) (key : String) : Prop :=
  ∃ item, src.lookup key = some item ∧ isTable item = false

theorem noTable_of_none {item : Item} (found : src.lookup key = some item)
    (like : item.asTableLike = none) : NoTable src key :=
  ⟨item, found, by rw [isTable, like]; rfl⟩

theorem not_noTable {kind : TableKind} {table : Entries}
    (found : src.lookup key = some (.table kind table)) : ¬ NoTable src key := by
  intro other
  obtain ⟨item, there, none⟩ := other
  cases found.symm.trans there
  cases none

/-- A table is reported when it is none, else what is reported inside of it. -/
theorem noticed_table {name : String} {inside : Entries → List Notice} :
    Noticed (tableNotices src name level inside) l key ↔
      l = level ∧ key = name ∧ NoTable src name ∨
      ∃ kind table, src.lookup name = some (.table kind table) ∧ Noticed (inside table) l key := by
  unfold tableNotices
  cases found : src.lookup name with
  | none => simp [noticed_nil, NoTable, found]
  | some item =>
    cases like : item.asTableLike with
    | none =>
      have other : ∀ kind fields, item ≠ .table kind fields := by
        intro kind fields same
        subst same
        cases like
      simp [like, noticed_single, noTable_of_none found like, other, eq_comm]
    | some pair =>
      obtain ⟨kind, fields⟩ := pair
      have same := asTableLike_eq_some like
      subst same
      simp [like, not_noTable found]

end Notices

section Once

variable {side : ServiceSide} {src table : Entries} {fate : String × Item → ServiceFate}
  {key : String} {item : Item}

theorem has_iff (keys : ImportKeys) : keys.has key = true ↔ ∃ field ∈ keys, field.1 = key := by
  simp [ImportKeys.has]

/-- A field is taken, or it is refused. -/
theorem taken_iff {refusal : Refusal} {keys : ImportKeys} (nodup : (keys.map Prod.fst).Nodup)
    (found : src.lookup key = some item) : (key, item) ∈ taken refusal src keys ↔
      keys.has key = true ∧ ¬ ∃ field ∈ keys, field.1 = key ∧
        ∃ item, src.lookup key = some item ∧ (refusal field item).isSome = true := by
  rw [mem_taken, has_iff]
  constructor
  · intro held
    obtain ⟨field, listed, same, -, free⟩ := held
    refine ⟨⟨field, listed, same⟩, ?_⟩
    intro other
    obtain ⟨field', listed', same', item', found', refuses⟩ := other
    cases found.symm.trans found'
    rw [List.inj_on_of_nodup_map nodup listed' listed (same'.trans same.symm), free] at refuses
    cases refuses
  · intro held
    obtain ⟨⟨field, listed, same⟩, free⟩ := held
    refine ⟨field, listed, same, same ▸ found, ?_⟩
    rw [← Option.not_isSome_iff_eq_none]
    intro refuses
    exact free ⟨field, listed, same, item, found, refuses⟩

theorem noTable_iff (found : src.lookup key = some item) :
    NoTable src key ↔ isTable item = false := by
  constructor
  · intro other
    obtain ⟨item', found', none⟩ := other
    cases found.symm.trans found'
    exact none
  · intro none
    exact ⟨item, found, none⟩

theorem noticed_section (levels : ∀ e, ∀ n ∈ (fate e).notices, n.level = .service e.1) :
    Noticed (importNotices side src fate) .section_ key ↔
      Noticed (globalNotices side src) .section_ key ∨
        key = "transport" ∧ NoTable src "transport" ∨ key = "services" ∧ NoTable src "services" := by
  have services : ∀ services : Entries,
      ¬ Noticed (services.flatMap fun e => (fate e).notices) .section_ key := by
    intro services noticed
    obtain ⟨e, -, n, member, level, -⟩ := noticed_flatMap.mp noticed
    cases (levels e n member).symm.trans level
  simp only [importNotices, transportNotices, serviceNotices, subNotices, noticed_append,
    noticed_table, noticed_unknown, noticed_type, noticed_flatMap, noticed_refused, services,
    reduceCtorEq, false_and, and_false, exists_false, or_false, true_and, or_assoc]

theorem not_has_transport (side : ServiceSide) : side.importGlobals.has "transport" = false := by
  cases side <;> decide

theorem not_has_services (side : ServiceSide) : side.importGlobals.has "services" = false := by
  cases side <;> decide

theorem not_refused {refusal : Refusal} {keys : ImportKeys} (absent : keys.has key = false) :
    ¬ ∃ field ∈ keys, field.1 = key ∧
      ∃ item, src.lookup key = some item ∧ (refusal field item).isSome = true := by
  intro refuses
  obtain ⟨field, listed, same, -⟩ := refuses
  rw [(has_iff keys).mpr ⟨field, listed, same⟩] at absent
  cases absent

/-- A key of the section is copied, or it is reported. -/
theorem section_once (levels : ∀ e, ∀ n ∈ (fate e).notices, n.level = .service e.1)
    (found : src.lookup key = some item) : Copies side src fate (.level .section_) key item ↔
      ¬ Noticed (importNotices side src fate) .section_ key := by
  have present : (src.lookup key).isSome = true := by
    rw [found]
    rfl
  rw [noticed_section levels, globalNotices, noticed_append, noticed_refused, noticed_unknown]
  show _ ∈ taken _ _ _ ∨ _ ↔ _
  rw [taken_iff (nodup_globals side) found]
  simp only [true_and, present, and_true, knownSectionKey, Bool.or_eq_false_iff,
    decide_eq_false_iff_not]
  by_cases transport : key = "transport"
  · subst transport
    simp only [not_refused (not_has_transport side), not_has_transport, noTable_iff found]
    simp
  · by_cases services : key = "services"
    · subst services
      simp only [not_refused (not_has_services side), not_has_services, noTable_iff found]
      simp
    · simp only [transport, services]
      simp [and_comm]

/-- A key of the transport is copied, or it is reported. -/
theorem noticed_transport (levels : ∀ e, ∀ n ∈ (fate e).notices, n.level = .service e.1)
    {kind : TableKind} (there : src.lookup "transport" = some (.table kind table)) :
    Noticed (importNotices side src fate) .transport key ↔
      key ∉ transportImportKeys ∧ (table.lookup key).isSome = true ∨
      key = "type" ∧ (table.lookup "type").isSome = true ∧ takenType table = [] ∨
      ∃ sub ∈ transportImportSubkeys, key = sub.1 ∧ NoTable table sub.1 := by
  have services : ∀ services : Entries,
      ¬ Noticed (services.flatMap fun e => (fate e).notices) .transport key := by
    intro services noticed
    obtain ⟨e, -, n, member, level, -⟩ := noticed_flatMap.mp noticed
    cases (levels e n member).symm.trans level
  simp only [importNotices, transportNotices, serviceNotices, subNotices, globalNotices,
    noticed_append, noticed_table, noticed_unknown, noticed_type, noticed_flatMap, noticed_refused,
    services, there, reduceCtorEq, false_and, and_false, exists_false, or_false, false_or, true_and,
    or_assoc, decide_eq_false_iff_not, Option.some.injEq, Item.table.injEq, and_assoc,
    exists_and_left, exists_eq_left']

theorem mem_takenType (found : table.lookup key = some item) :
    (key, item) ∈ takenType table ↔ key = "type" ∧ takenType table ≠ [] := by
  unfold takenType
  cases str : (table.lookup "type").bind Item.asStr with
  | none => simp
  | some s =>
    dsimp only
    by_cases known : s ∈ ["tcp", "tls", "noise", "websocket"]
    · rw [if_pos known, List.mem_singleton, Prod.mk.injEq]
      constructor
      · intro same
        exact ⟨same.1, List.cons_ne_nil _ _⟩
      · intro own
        obtain ⟨rfl, -⟩ := own
        rw [found, Option.bind_some] at str
        cases item with
        | string s' =>
          cases str
          exact ⟨rfl, rfl⟩
        | _ => cases str
    · rw [if_neg known]
      simp

theorem mem_transportImportKeys :
    key ∈ transportImportKeys ↔ key = "type" ∨ key ∈ transportImportSubkeys.map Prod.fst := by
  simp [transportImportKeys, transportImportSubkeys]

theorem transport_once (levels : ∀ e, ∀ n ∈ (fate e).notices, n.level = .service e.1)
    {kind : TableKind} (there : src.lookup "transport" = some (.table kind table))
    (found : table.lookup key = some item) : Copies side src fate (.level .transport) key item ↔
      ¬ Noticed (importNotices side src fate) .transport key := by
  have copies : Copies side src fate (.level .transport) key item ↔
      (key, item) ∈ takenType table ∨
        key ∈ transportImportSubkeys.map Prod.fst ∧ isTable item = true := by
    show (∃ kind table, _ ∧ _) ∨ _ ↔ _
    simp [there]
  have subs : (∃ sub ∈ transportImportSubkeys, key = sub.1 ∧ NoTable table sub.1) ↔
      key ∈ transportImportSubkeys.map Prod.fst ∧ NoTable table key := by
    rw [List.mem_map]
    constructor
    · intro other
      obtain ⟨sub, listed, rfl, none⟩ := other
      exact ⟨⟨sub, listed, rfl⟩, none⟩
    · intro other
      obtain ⟨⟨sub, listed, rfl⟩, none⟩ := other
      exact ⟨sub, listed, rfl, none⟩
  have apart : "type" ∉ transportImportSubkeys.map Prod.fst := by decide
  rw [copies, noticed_transport levels there, subs, mem_takenType found, mem_transportImportKeys,
    noTable_iff found, found]
  by_cases type : key = "type"
  · subst type
    simp only [apart, found]
    simp
  · by_cases sub : key ∈ transportImportSubkeys.map Prod.fst
    · simp only [type, sub]
      simp
    · simp only [type, sub]
      simp

/-- The tables of the transport have different names. -/
theorem sub_unique {sub sub' : String × ImportKeys} (listed : sub ∈ transportImportSubkeys)
    (listed' : sub' ∈ transportImportSubkeys) (same : sub.1 = sub'.1) : sub = sub' :=
  List.inj_on_of_nodup_map (by decide) listed listed' same

theorem noticed_sub (levels : ∀ e, ∀ n ∈ (fate e).notices, n.level = .service e.1)
    {kind outer : TableKind} {fields : Entries} {sub : String × ImportKeys}
    (there : src.lookup "transport" = some (.table kind table))
    (listed : sub ∈ transportImportSubkeys)
    (inside : table.lookup sub.1 = some (.table outer fields)) :
    Noticed (importNotices side src fate) (.sub sub.1) key ↔
      Noticed (unknown sub.2.has (.sub sub.1) fields ++
        refused scalarRefusal (.sub sub.1) fields sub.2) (.sub sub.1) key := by
  have services : ∀ services : Entries,
      ¬ Noticed (services.flatMap fun e => (fate e).notices) (.sub sub.1) key := by
    intro services noticed
    obtain ⟨e, -, n, member, level, -⟩ := noticed_flatMap.mp noticed
    cases (levels e n member).symm.trans level
  simp only [importNotices, transportNotices, serviceNotices, subNotices, globalNotices,
    noticed_append, noticed_table, noticed_unknown, noticed_type, noticed_flatMap, noticed_refused,
    services, there, reduceCtorEq, false_and, and_false, exists_false, or_false, false_or, true_and,
    Option.some.injEq, Item.table.injEq, and_assoc, exists_and_left, exists_eq_left',
    Level.sub.injEq]
  constructor
  · intro noticed
    obtain ⟨sub', listed', outer', fields', inside', noticed⟩ := noticed
    have same : sub = sub' := by
      apply sub_unique listed listed'
      rcases noticed with strange | refuses
      · exact strange.1
      · exact refuses.1
    subst same
    cases inside.symm.trans inside'
    rcases noticed with strange | refuses
    · exact Or.inl strange.2
    · exact Or.inr refuses.2
  · intro noticed
    refine ⟨sub, listed, outer, fields, inside, ?_⟩
    simpa only [true_and] using noticed

/-- A key of a table of the transport is copied, or it is reported. -/
theorem sub_once (levels : ∀ e, ∀ n ∈ (fate e).notices, n.level = .service e.1)
    {kind outer : TableKind} {fields : Entries} {sub : String × ImportKeys}
    (there : src.lookup "transport" = some (.table kind table))
    (listed : sub ∈ transportImportSubkeys)
    (inside : table.lookup sub.1 = some (.table outer fields))
    (found : fields.lookup key = some item) :
    Copies side src fate (.level (.sub sub.1)) key item ↔
      ¬ Noticed (importNotices side src fate) (.sub sub.1) key := by
  have copies : Copies side src fate (.level (.sub sub.1)) key item ↔
      (key, item) ∈ taken scalarRefusal fields sub.2 := by
    constructor
    · intro copied
      obtain ⟨kind', table', outer', fields', keys, there', inside', listed', member⟩ := copied
      cases there.symm.trans there'
      cases inside.symm.trans inside'
      have same : (sub.1, keys) = sub := sub_unique listed' listed rfl
      rw [← same]
      exact member
    · intro member
      exact ⟨kind, table, outer, fields, sub.2, there, inside, listed, member⟩
  have present : (fields.lookup key).isSome = true := by
    rw [found]
    rfl
  rw [copies, noticed_sub levels there listed inside, taken_iff (nodup_subkeys sub listed) found,
    noticed_append, noticed_unknown, noticed_refused]
  simp only [true_and, present, and_true, not_or, Bool.not_eq_false]

end Once

section Service

variable {side : ServiceSide} {fields entry services : Entries} {key name : String} {item : Item}
  {present : List String} {token : Bool}

/-- The fields of a service entry without which it is skipped. -/
def mainServiceKeys (side : ServiceSide) : List String := ["type", side.serviceAddrKey, "token"]

theorem keys_serviceImportKeys (side : ServiceSide) : side.serviceImportKeys.map Prod.fst =
    mainServiceKeys side ++ (otherServiceKeys side).map Prod.fst := by
  cases side <;> decide

theorem has_iff_mem (keys : ImportKeys) : keys.has key = true ↔ key ∈ keys.map Prod.fst := by
  simp [ImportKeys.has]

theorem has_serviceImportKeys : side.serviceImportKeys.has key = true ↔
    key ∈ mainServiceKeys side ∨ (otherServiceKeys side).has key = true := by
  rw [has_iff_mem, has_iff_mem, keys_serviceImportKeys, List.mem_append]

theorem main_not_other (side : ServiceSide) :
    ∀ key ∈ mainServiceKeys side, (otherServiceKeys side).has key = false := by
  cases side <;> decide

theorem nodup_otherServiceKeys (side : ServiceSide) :
    ((otherServiceKeys side).map Prod.fst).Nodup := by
  cases side <;> decide

theorem importedType_ok {type : Entries} (made : importedType fields = .ok type) :
    type = ((fields.lookup "type").map fun item => ("type", item)).toList := by
  unfold importedType at made
  cases found : fields.lookup "type" with
  | none =>
    rw [found] at made
    cases made
    rfl
  | some item =>
    rw [found] at made
    obtain ⟨s, str, made⟩ := bind_ok made
    obtain ⟨-, -, made⟩ := bind_ok made
    cases made
    cases item with
    | string s' =>
      cases okOrElse_ok str
      rfl
    | _ => cases okOrElse_ok str

theorem importedAddr_ok {addrKey : String} {addr : Entries}
    (made : importedAddr addrKey fields = .ok addr) :
    addr = ((fields.lookup addrKey).map fun item => (addrKey, item)).toList := by
  obtain ⟨a, str, made⟩ := bind_ok made
  obtain ⟨-, -, made⟩ := bind_ok made
  cases made
  obtain ⟨item, found, str⟩ := Option.bind_eq_some_iff.mp (okOrElse_ok str)
  rw [found]
  cases item with
  | string s =>
    cases str
    rfl
  | _ => cases str

theorem importedToken_ok {entry : Entries} (made : importedToken token fields = .ok entry) :
    entry = ((fields.lookup "token").map fun item => ("token", item)).toList := by
  unfold importedToken at made
  cases found : fields.lookup "token" with
  | none =>
    rw [found] at made
    obtain ⟨-, -, made⟩ := bind_ok made
    cases made
    rfl
  | some item =>
    rw [found] at made
    obtain ⟨s, str, made⟩ := bind_ok made
    obtain ⟨-, -, made⟩ := bind_ok made
    cases made
    cases item with
    | string s' =>
      cases okOrElse_ok str
      rfl
    | _ => cases okOrElse_ok str

theorem or_ite (x : Option Item) (p q : Prop) [Decidable p] [Decidable q] :
    (if p then x else none).or (if q then x else none) = if p ∨ q then x else none := by
  by_cases left : p
  · by_cases right : q
    · simp [left, right]
    · simp [left, right]
  · simp [left]

/-- An entry that is not skipped has the source's values of these fields. -/
theorem lookup_importedEntry (made : importedEntry side token fields = .ok entry) (key : String) :
    entry.lookup key = if key ∈ mainServiceKeys side then fields.lookup key else none := by
  obtain ⟨type, first, made⟩ := bind_ok made
  obtain ⟨addr, second, made⟩ := bind_ok made
  obtain ⟨token, third, made⟩ := bind_ok made
  cases made
  have single : ∀ name : String, (((fields.lookup name).map fun item => (name, item)).toList).lookup
      key = if key = name then fields.lookup key else none := by
    intro name
    cases found : fields.lookup name with
    | none =>
      by_cases same : key = name
      · rw [if_pos same, same, found]
        rfl
      · rw [if_neg same]
        rfl
    | some item =>
      rw [Option.map_some, Option.toList_some, Toml.lookup_cons_eq]
      by_cases same : key = name
      · rw [if_pos same, if_pos same, same, found]
      · rw [if_neg same, if_neg same]
        rfl
  rw [importedType_ok first, importedAddr_ok second, importedToken_ok third, List.lookup_append,
    List.lookup_append, single, single, single]
  rw [or_ite, or_ite]
  simp only [mainServiceKeys, List.mem_cons, List.not_mem_nil, or_false, or_assoc]

/-- A new entry with a valid name that is looked into and skipped then. -/
structure RefusedInside (side : ServiceSide) (present : List String) (token : Bool) (name : String)
    (fields : Entries) : Prop where
  new : name ∉ present
  named : validateServiceName name = .ok ()
  refused : (importedEntry side token fields).isOk = false

/-- What becomes of an entry that is a table. -/
theorem fate_of_table (side : ServiceSide) (present : List String) (token : Bool) (name : String)
    (kind : TableKind) (fields : Entries) :
    (∃ entry, importedEntry side token fields = .ok entry ∧
      serviceFate side present token (name, .table kind fields) =
        .applied (entry.extend .header (taken scalarRefusal fields (otherServiceKeys side)))
          (unknown side.serviceImportKeys.has (.service name) fields ++
            refused scalarRefusal (.service name) fields (otherServiceKeys side))) ∨
    (serviceFate side present token (name, .table kind fields)).entry = none ∧
      RefusedInside side present token name fields ∧
      (serviceFate side present token (name, .table kind fields)).notices =
        unknown side.serviceImportKeys.has (.service name) fields ∨
    (serviceFate side present token (name, .table kind fields)).entry = none ∧
      ¬ RefusedInside side present token name fields ∧
      (serviceFate side present token (name, .table kind fields)).notices = [] := by
  by_cases held : name ∈ present
  · right
    right
    rw [serviceFate_existing held]
    exact ⟨rfl, fun inside => inside.new held, rfl⟩
  · cases valid : validateServiceName name with
    | error reason =>
      right
      right
      have fate : serviceFate side present token (name, .table kind fields) =
          .invalid reason [] := by
        simp [serviceFate, held, valid]
      rw [fate]
      refine ⟨rfl, ?_, rfl⟩
      intro inside
      cases valid.symm.trans inside.named
    | ok _ =>
      cases made : importedEntry side token fields with
      | error reason =>
        right
        left
        have fate : serviceFate side present token (name, .table kind fields) =
            .invalid reason (unknown side.serviceImportKeys.has (.service name) fields) := by
          simp [serviceFate, held, valid, Item.asTableLike, made]
        rw [fate]
        refine ⟨rfl, ⟨held, valid, ?_⟩, rfl⟩
        rw [made]
        rfl
      | ok entry =>
        left
        refine ⟨entry, rfl, ?_⟩
        simp [serviceFate, held, valid, Item.asTableLike, made]

/-- A field of an entry that is inserted is copied, or it is reported. -/
theorem entry_once (made : importedEntry side token fields = .ok entry)
    (found : fields.lookup key = some item) :
    (entry.extend .header (taken scalarRefusal fields (otherServiceKeys side))).lookup key =
        some item ↔
      ¬ Noticed (unknown side.serviceImportKeys.has (.service name) fields ++
        refused scalarRefusal (.service name) fields (otherServiceKeys side)) (.service name) key := by
  have present : (fields.lookup key).isSome = true := by
    rw [found]
    rfl
  have nodup : ((taken scalarRefusal fields (otherServiceKeys side)).map Prod.fst).Nodup :=
    (nodup_otherServiceKeys side).sublist (keys_taken _)
  have inserted : (entry.extend .header (taken scalarRefusal fields (otherServiceKeys side))).lookup
      key = some item ↔
      key ∈ mainServiceKeys side ∨
        (key, item) ∈ taken scalarRefusal fields (otherServiceKeys side) := by
    by_cases other : key ∈ (taken scalarRefusal fields (otherServiceKeys side)).map Prod.fst
    · obtain ⟨⟨key', item'⟩, member, rfl⟩ := List.mem_map.mp other
      obtain ⟨field, listed, same, found', free⟩ := mem_taken.mp member
      rw [same] at found'
      cases found.symm.trans found'
      rw [Toml.Entries.lookup_extend_of_mem nodup member,
        Item.ite_intoValue (scalar_taken scalarRefusal_none _ member)]
      exact iff_of_true rfl (Or.inr member)
    · rw [Toml.Entries.lookup_extend_of_not_mem other, lookup_importedEntry made, found]
      have absent : (key, item) ∉ taken scalarRefusal fields (otherServiceKeys side) :=
        fun member => other (List.mem_map_of_mem member)
      by_cases main : key ∈ mainServiceKeys side
      · simp [main]
      · simp [main, absent]
  rw [inserted, taken_iff (nodup_otherServiceKeys side) found, noticed_append, noticed_unknown,
    noticed_refused]
  simp only [true_and, present, and_true]
  cases known : side.serviceImportKeys.has key with
  | false =>
    have apart := mt has_serviceImportKeys.mpr (Bool.eq_false_iff.mp known)
    rw [not_or] at apart
    simp [apart.1, apart.2]
  | true =>
    rcases has_serviceImportKeys.mp known with main | other
    · simp only [main, not_refused (main_not_other side key main)]
      simp
    · have apart : key ∉ mainServiceKeys side := by
        intro main
        rw [main_not_other side key main] at other
        cases other
      simp only [apart, other]
      simp

end Service

section Services

variable {side : ServiceSide} {src services section_ : Entries} {fate : String × Item → ServiceFate}
  {key name : String} {item : Item} {kind : TableKind}

theorem noticed_service (levels : ∀ e, ∀ n ∈ (fate e).notices, n.level = .service e.1)
    (there : src.lookup "services" = some (.table kind services))
    (nodup : (services.map Prod.fst).Nodup) (listed : services.lookup name = some item) :
    Noticed (importNotices side src fate) (.service name) key ↔
      Noticed (fate (name, item)).notices (.service name) key := by
  simp only [importNotices, transportNotices, serviceNotices, subNotices, globalNotices,
    noticed_append, noticed_table, noticed_unknown, noticed_type, noticed_flatMap, noticed_refused,
    there, reduceCtorEq, false_and, and_false, exists_false, or_false, false_or,
    Option.some.injEq, Item.table.injEq, and_assoc, exists_and_left, exists_eq_left']
  constructor
  · intro noticed
    obtain ⟨e, member, n, noted, level, named⟩ := noticed
    have same : e.1 = name := Level.service.inj ((levels e n noted).symm.trans level)
    have own : e = (name, item) :=
      List.inj_on_of_nodup_map nodup member (Toml.mem_of_lookup listed) same
    subst own
    exact ⟨n, noted, level, named⟩
  · intro noticed
    exact ⟨(name, item), Toml.mem_of_lookup listed, noticed⟩

/-- A service is reported as skipped when no entry is made of it. -/
theorem skipped_iff (there : src.lookup "services" = some (.table kind services))
    (nodup : (services.map Prod.fst).Nodup) (listed : services.lookup name = some item) :
    SkippedService (servicesReport side src section_ (headReport side src)) name ↔
      (sectionFate side section_ (name, item)).entry = none := by
  have unique : ∀ e ∈ services, e.1 = name → e = (name, item) :=
    fun e member same => List.inj_on_of_nodup_map nodup member (Toml.mem_of_lookup listed) same
  have member := Toml.mem_of_lookup listed
  rw [servicesReport_table there]
  show name ∈ [] ++ (services.filter fun e => (sectionFate side section_ e).isExisting).map Prod.fst ∨
    name ∈ ([] ++ services.filterMap fun e =>
      (sectionFate side section_ e).reason.map fun reason => (e.1, reason)).map Prod.fst ↔ _
  rw [List.nil_append, List.nil_append]
  constructor
  · intro skipped
    rcases skipped with existing | invalid
    · obtain ⟨e, filtered, same⟩ := List.mem_map.mp existing
      obtain ⟨inside, existing⟩ := List.mem_filter.mp filtered
      rw [unique e inside same] at existing
      cases fate : sectionFate side section_ (name, item) with
      | applied entry notices =>
        rw [fate] at existing
        cases existing
      | _ => rfl
    · obtain ⟨_, filtered, same⟩ := List.mem_map.mp invalid
      obtain ⟨e, inside, reported⟩ := List.mem_filterMap.mp filtered
      obtain ⟨reason, invalid, rfl⟩ := Option.map_eq_some_iff.mp reported
      rw [unique e inside same] at invalid
      cases fate : sectionFate side section_ (name, item) with
      | applied entry notices =>
        rw [fate] at invalid
        cases invalid
      | _ => rfl
  · intro none
    cases fate : sectionFate side section_ (name, item) with
    | applied entry notices =>
      rw [fate] at none
      cases none
    | existing =>
      left
      apply List.mem_map_of_mem (f := Prod.fst) (a := (name, item))
      exact List.mem_filter.mpr ⟨member, by rw [fate]; rfl⟩
    | invalid reason notices =>
      right
      apply List.mem_map_of_mem (f := Prod.fst) (a := (name, reason))
      exact List.mem_filterMap.mpr ⟨(name, item), member, by rw [fate]; rfl⟩

end Services

section There

variable {Text : Type} {env : Env Text} {side : ServiceSide}
  {doc src table section_ imported : Entries} {key name : String} {item item' : Item}
  {kind : TableKind} {t : Table} {place : Place}

/-- The same value, or two tables. -/
def Lands (item item' : Item) : Prop := item' = item ∨ isTable item = true ∧ isTable item' = true

theorem leaf_of_isTable (formed : item.wellFormed = true) (like : isTable item = true) :
    item.written.map Value.leaf = some .table := by
  cases item with
  | table kind entries =>
    have shown := Toml.Entries.written_isSome _ formed
    rw [Toml.Entries.written_table] at shown ⊢
    split at shown
    · next visible => rw [if_pos visible]; rfl
    · cases shown
  | _ => cases like

/-- What is in the document at a path is in the text. -/
theorem leaf_of_lands {path : List String} (formed : doc.wellFormed = true)
    (formedItem : item.wellFormed = true) (same : Table.Same t doc.written)
    (found : (Item.table .header doc).follow path = some item') (lands : Lands item item') :
    ((Value.table t).follow path).map Value.leaf = item.written.map Value.leaf := by
  have whole := formed_document.mpr formed
  have shown : (Value.table doc.written).follow path = item'.written :=
    (Item.follow_written whole rfl path).trans (by rw [found, Option.bind_some])
  rw [((Toml.same_table.mpr same).follow path).leaf, shown]
  rcases lands with same | tables
  · rw [same]
  · rw [leaf_of_isTable formedItem tables.1,
      leaf_of_isTable (Item.wellFormed_of_follow whole found) tables.2]

theorem follow_cons (found : table.lookup key = some item) (path : List String) :
    (Item.table kind table).follow (key :: path) = item.follow path := by
  show (table.lookup key).bind _ = _
  rw [found]
  rfl

theorem follow_single (found : table.lookup key = some item) :
    (Item.table kind table).follow [key] = some item :=
  follow_cons found []

theorem exists_of_isTable (like : isTable item = true) : ∃ kind table, item = .table kind table := by
  cases item with
  | table kind table => exact ⟨kind, table, rfl⟩
  | _ => cases like

theorem isTable_of_entry {present : List String} {token : Bool}
    (made : (serviceFate side present token (name, item)).entry.isSome = true) :
    isTable item = true := by
  cases like : item.asTableLike with
  | some pair =>
    rw [isTable, like]
    rfl
  | none =>
    unfold serviceFate at made
    split at made
    · cases made
    · split at made
      · cases made
      · simp only [like] at made
        cases made

theorem mem_inserted_of_entry {services entry : Entries} {fate : String × Item → ServiceFate}
    (listed : services.lookup name = some item) (made : (fate (name, item)).entry = some entry) :
    (name, Item.table .header entry) ∈ insertedServices fate services := by
  apply List.mem_filterMap.mpr
  exact ⟨(name, item), Toml.mem_of_lookup listed, by rw [made]; rfl⟩

theorem nodup_inserted {services : Entries} {fate : String × Item → ServiceFate}
    (nodup : (services.map Prod.fst).Nodup) :
    ((insertedServices fate services).map Prod.fst).Nodup := by
  have keys : ((insertedServices fate services).map Prod.fst).Sublist (services.map Prod.fst) := by
    clear nodup
    induction services with
    | nil => exact .slnil
    | cons e rest ih =>
      unfold insertedServices at ih ⊢
      rw [List.filterMap_cons]
      cases (fate e).entry with
      | none => exact .cons _ ih
      | some entry => exact .cons_cons _ ih
  exact nodup.sublist keys

theorem lookup_extend_inserted {services entry : Entries} {fate : String × Item → ServiceFate}
    {inner : TableKind} (old : Entries) (plain : inner.isInline = false)
    (nodup : (services.map Prod.fst).Nodup) (listed : services.lookup name = some item)
    (made : (fate (name, item)).entry = some entry) :
    (old.extend inner (insertedServices fate services)).lookup name =
      some (.table .header entry) := by
  rw [Toml.Entries.lookup_extend_of_mem (nodup_inserted nodup) (mem_inserted_of_entry listed made),
    plain]
  rfl

section Keys

variable {file : Entries} {outer : TableKind}

theorem follow_section (own : file.lookup side.key = some (.table outer src)) (path : List String) :
    (Item.table .header file).follow (side.key :: path) = (Item.table outer src).follow path :=
  follow_cons own path

theorem follow_head {path : List String}
    (found : (Item.table kind src).follow (key :: path) = some item) :
    ∃ inner, src.lookup key = some inner ∧ inner.follow path = some item :=
  Option.bind_eq_some_iff.mp found

theorem follow_table {path : List String} (found : item.follow (key :: path) = some item') :
    ∃ kind table inner, item = .table kind table ∧ table.lookup key = some inner ∧
      inner.follow path = some item' := by
  obtain ⟨inner, got, later⟩ := Option.bind_eq_some_iff.mp found
  cases item with
  | table kind table => exact ⟨kind, table, inner, rfl, got, later⟩
  | _ => cases got

theorem follow_nil (found : item.follow [] = some item') : item = item' := Option.some.inj found

/-- A key of the section. -/
theorem keyAt_section (own : file.lookup side.key = some (.table outer src))
    (at_ : KeyAt side file (.level .section_) key item) : src.lookup key = some item := by
  obtain ⟨inner, found, later⟩ := follow_head ((follow_section own [key]).symm.trans at_.found)
  rw [← follow_nil later]
  exact found

theorem keyAt_services (own : file.lookup side.key = some (.table outer src))
    (at_ : KeyAt side file .services key item) : ∃ kind services,
      src.lookup "services" = some (.table kind services) ∧ services.lookup key = some item := by
  obtain ⟨inner, found, later⟩ := follow_head
    ((follow_section own ["services", key]).symm.trans at_.found)
  obtain ⟨kind, services, entry, rfl, listed, last⟩ := follow_table later
  rw [← follow_nil last]
  exact ⟨kind, services, found, listed⟩

theorem keyAt_transport (own : file.lookup side.key = some (.table outer src))
    (at_ : KeyAt side file (.level .transport) key item) : ∃ kind table,
      src.lookup "transport" = some (.table kind table) ∧ table.lookup key = some item := by
  obtain ⟨inner, found, later⟩ := follow_head
    ((follow_section own ["transport", key]).symm.trans at_.found)
  obtain ⟨kind, table, entry, rfl, listed, last⟩ := follow_table later
  rw [← follow_nil last]
  exact ⟨kind, table, found, listed⟩

theorem keyAt_sub (own : file.lookup side.key = some (.table outer src))
    (at_ : KeyAt side file (.level (.sub name)) key item) : ∃ kind table inner fields keys,
      src.lookup "transport" = some (.table kind table) ∧
      table.lookup name = some (.table inner fields) ∧ (name, keys) ∈ transportImportSubkeys ∧
      fields.lookup key = some item := by
  obtain ⟨inner, found, later⟩ := follow_head
    ((follow_section own ["transport", name, key]).symm.trans at_.found)
  obtain ⟨kind, table, sub, rfl, listed, later⟩ := follow_table later
  obtain ⟨kind', fields, entry, rfl, here, last⟩ := follow_table later
  obtain ⟨⟨name', keys⟩, known, rfl⟩ := List.mem_map.mp at_.known
  rw [← follow_nil last]
  exact ⟨kind, table, kind', fields, keys, found, listed, known, here⟩

theorem keyAt_service (own : file.lookup side.key = some (.table outer src))
    (at_ : KeyAt side file (.level (.service name)) key item) : ∃ kind services inner fields,
      src.lookup "services" = some (.table kind services) ∧
      services.lookup name = some (.table inner fields) ∧ fields.lookup key = some item := by
  obtain ⟨inner, found, later⟩ := follow_head
    ((follow_section own ["services", name, key]).symm.trans at_.found)
  obtain ⟨kind, services, sub, rfl, listed, later⟩ := follow_table later
  obtain ⟨kind', fields, entry, rfl, here, last⟩ := follow_table later
  rw [← follow_nil last]
  exact ⟨kind, services, kind', fields, found, listed, here⟩

end Keys

/-- What the import copies is in the section that it leaves. -/
theorem lands_of_copies {file : Entries} {outer : TableKind}
    (imports : SectionImported env side src kind section_ imported)
    (nodup : ∀ kind services, src.lookup "services" = some (.table kind services) →
      (services.map Prod.fst).Nodup)
    (target : doc.lookup side.key = some (.table kind imported))
    (own : file.lookup side.key = some (.table outer src)) (at_ : KeyAt side file place key item)
    (copied : Copies side src (sectionFate side (withGlobals side src kind section_)) place key
      item) :
    ∃ item', (Item.table .header doc).follow (place.path side ++ [key]) = some item' ∧
      Lands item item' := by
  have has := hasImport_of_imported imports
  have inside := follow_section target
  cases place with
  | file =>
    obtain rfl : key = side.key := copied
    have found : (Item.table .header file).follow [side.key] = some item := at_.found
    cases (follow_single own).symm.trans found
    exact ⟨_, follow_single target, Or.inr ⟨rfl, rfl⟩⟩
  | services =>
    obtain ⟨kind', services, there, listed⟩ := keyAt_services own at_
    obtain ⟨inner, old, ensured, held⟩ := imports.services.table kind' services there
    obtain ⟨entry, made⟩ := Option.isSome_iff_exists.mp copied
    have inserted := lookup_extend_inserted old (isInline_of_ensureTable ensured)
      (nodup kind' services there) listed made
    refine ⟨_, (inside _).trans ((follow_cons held _).trans (follow_single inserted)), Or.inr ?_⟩
    exact ⟨isTable_of_entry copied, rfl⟩
  | level level =>
    cases level with
    | section_ =>
      have found := keyAt_section own at_
      rcases copied with member | ⟨own', like⟩
      · exact ⟨item, (inside _).trans (follow_single (has.globals _ member)), Or.inl rfl⟩
      · obtain ⟨kind', table', rfl⟩ := exists_of_isTable like
        have table : ∃ P, HasTable imported key P := by
          rcases own' with rfl | rfl
          · exact ⟨_, has.transport _ _ found⟩
          · exact ⟨_, has.services _ _ found⟩
        obtain ⟨P, inner, table, held, -, -⟩ := table
        exact ⟨_, (inside _).trans (follow_single held), Or.inr ⟨rfl, rfl⟩⟩
    | transport =>
      obtain ⟨kind', table', there, found⟩ := keyAt_transport own at_
      obtain ⟨inner, transport, held, -, holds⟩ := has.transport kind' table' there
      rcases copied with ⟨kind'', table'', there', member⟩ | ⟨known, like⟩
      · cases there.symm.trans there'
        exact ⟨item, (inside _).trans ((follow_cons held _).trans
          (follow_single (holds.type _ member))), Or.inl rfl⟩
      · obtain ⟨⟨key', keys⟩, listed, rfl⟩ := List.mem_map.mp known
        obtain ⟨outer', fields, rfl⟩ := exists_of_isTable like
        obtain ⟨inner', old, held', -, -⟩ := holds.subs _ listed _ _ found
        exact ⟨_, (inside _).trans ((follow_cons held _).trans (follow_single held')),
          Or.inr ⟨rfl, rfl⟩⟩
    | sub name =>
      obtain ⟨kind', table', outer', fields, keys, there, here, listed, member⟩ := copied
      obtain ⟨inner, transport, held, -, holds⟩ := has.transport kind' table' there
      obtain ⟨inner', old, held', -, fieldsHeld⟩ := holds.subs _ listed _ _ here
      exact ⟨item, (inside _).trans ((follow_cons held _).trans ((follow_cons held' _).trans
        (follow_single (fieldsHeld _ member)))), Or.inl rfl⟩
    | service name =>
      obtain ⟨kind', services, entry, made, there, listed, fate, found⟩ := copied
      obtain ⟨inner, old, ensured, held⟩ := imports.services.table kind' services there
      have inserted := lookup_extend_inserted old (isInline_of_ensureTable ensured)
        (nodup kind' services there) listed fate
      exact ⟨item, (inside _).trans ((follow_cons held _).trans ((follow_cons inserted _).trans
        (follow_single found))), Or.inl rfl⟩

end There

section Account

theorem exactlyOne_of_iff {a b c : Prop} (skipped : ¬ b) (once : a ↔ ¬ c) : ExactlyOne a b c := by
  unfold ExactlyOne
  tauto

theorem exactlyOne_skipped {a b c : Prop} (skipped : b) (copied : ¬ a) : ExactlyOne a b c ↔ ¬ c := by
  unfold ExactlyOne
  tauto

variable {side : ServiceSide} {src services section_ fields : Entries} {key name : String}
  {item : Item} {kind inner : TableKind}

theorem levels_sectionFate (side : ServiceSide) (section_ : Entries) :
    ∀ e, ∀ n ∈ (sectionFate side section_ e).notices, n.level = .service e.1 :=
  fun _ => level_notices

/-- A key of a service entry is accounted for twice when it is unknown, in an entry that is looked
into and skipped then. -/
theorem service_once (there : src.lookup "services" = some (.table kind services))
    (nodup : (services.map Prod.fst).Nodup)
    (listed : services.lookup name = some (.table inner fields))
    (found : fields.lookup key = some item) :
    ExactlyOne (Copies side src (sectionFate side section_) (.level (.service name)) key item)
      (SkippedService (servicesReport side src section_ (headReport side src)) name)
      (Noticed (importNotices side src (sectionFate side section_)) (.service name) key) ↔
    ¬ (RefusedInside side (existingNames section_) (hasDefaultToken section_) name fields ∧
      side.serviceImportKeys.has key = false) := by
  have copies : Copies side src (sectionFate side section_) (.level (.service name)) key item ↔
      ∃ made, (sectionFate side section_ (name, .table inner fields)).entry = some made ∧
        made.lookup key = some item := by
    constructor
    · intro copied
      obtain ⟨kind', services', entry, made, there', listed', fate, held⟩ := copied
      cases there.symm.trans there'
      cases listed.symm.trans listed'
      exact ⟨made, fate, held⟩
    · intro copied
      obtain ⟨made, fate, held⟩ := copied
      exact ⟨kind, services, _, made, there, listed, fate, held⟩
  have none : (sectionFate side section_ (name, .table inner fields)).entry = none →
      ¬ Copies side src (sectionFate side section_) (.level (.service name)) key item := by
    intro none copied
    obtain ⟨made, fate, -⟩ := copies.mp copied
    cases none.symm.trans fate
  have present : (fields.lookup key).isSome = true := by
    rw [found]
    rfl
  have noticed : Noticed (importNotices side src (sectionFate side section_)) (.service name) key ↔
      Noticed (sectionFate side section_ (name, .table inner fields)).notices (.service name) key :=
    noticed_service (levels_sectionFate side section_) there nodup listed
  rcases fate_of_table side (existingNames section_) (hasDefaultToken section_) name inner fields with
    ⟨entry, made, fate⟩ | ⟨skipped, inside, notices⟩ | ⟨skipped, outside, notices⟩
  · have fate : sectionFate side section_ (name, .table inner fields) = .applied _ _ := fate
    apply iff_of_true
    · apply exactlyOne_of_iff
      · rw [skipped_iff there nodup listed, fate]
        intro none
        cases none
      · rw [copies, noticed, fate]
        simp only [ServiceFate.entry, ServiceFate.notices, Option.some.injEq, exists_eq_left']
        exact entry_once made found
    · intro refused
      have failed := refused.1.refused
      rw [made] at failed
      cases failed
  · rw [exactlyOne_skipped ((skipped_iff there nodup listed).mpr skipped) (none skipped), noticed,
      show (sectionFate side section_ (name, .table inner fields)).notices = _ from notices,
      noticed_unknown]
    simp [inside, present]
  · rw [exactlyOne_skipped ((skipped_iff there nodup listed).mpr skipped) (none skipped), noticed,
      show (sectionFate side section_ (name, .table inner fields)).notices = _ from notices]
    simp [outside, noticed_nil]

/-- The keys for which the report is right. -/
def Accounted (side : ServiceSide) (src section_ : Entries) : Place → String → Prop
  | .file, key => key = side.key
  | .level (.service name), key => ∀ kind services inner fields,
      src.lookup "services" = some (.table kind services) →
      services.lookup name = some (.table inner fields) →
      ¬ (RefusedInside side (existingNames section_) (hasDefaultToken section_) name fields ∧
        side.serviceImportKeys.has key = false)
  | _, _ => True

/-- Every key is accounted for once, apart from the other keys of the file and from the unknown
keys of entries that are skipped after they were looked into. -/
theorem key_once {file : Entries} {outer : TableKind} {place : Place}
    (nodup : ∀ kind services, src.lookup "services" = some (.table kind services) →
      (services.map Prod.fst).Nodup)
    (own : file.lookup side.key = some (.table outer src)) (at_ : KeyAt side file place key item) :
    ExactlyOne (Copies side src (sectionFate side section_) place key item)
      (Skipped (servicesReport side src section_ (headReport side src)) place key)
      (Ignored (importNotices side src (sectionFate side section_)) place key) ↔
    Accounted side src section_ place key := by
  have levels := levels_sectionFate side section_
  cases place with
  | file =>
    show ExactlyOne (key = side.key) False False ↔ key = side.key
    simp [ExactlyOne]
  | services =>
    obtain ⟨kind, services, there, listed⟩ := keyAt_services own at_
    apply iff_of_true _ trivial
    show ExactlyOne ((sectionFate side section_ (key, item)).entry.isSome = true)
      (SkippedService _ key) False
    rw [skipped_iff there (nodup kind services there) listed]
    cases (sectionFate side section_ (key, item)).entry <;> simp [ExactlyOne]
  | level level =>
    cases level with
    | section_ =>
      have found := keyAt_section own at_
      exact iff_of_true (exactlyOne_of_iff (fun skipped => skipped) (section_once levels found))
        trivial
    | transport =>
      obtain ⟨kind, table, there, found⟩ := keyAt_transport own at_
      exact iff_of_true
        (exactlyOne_of_iff (fun skipped => skipped) (transport_once levels there found)) trivial
    | sub name =>
      obtain ⟨kind, table, inner, fields, keys, there, inside, listed, found⟩ := keyAt_sub own at_
      exact iff_of_true (exactlyOne_of_iff (fun skipped => skipped)
        (sub_once levels there listed inside found)) trivial
    | service name =>
      obtain ⟨kind, services, inner, fields, there, listed, found⟩ := keyAt_service own at_
      refine (service_once there (nodup kind services there) listed found).trans ?_
      constructor
      · intro right kind' services' inner' fields' there' listed'
        cases there.symm.trans there'
        cases listed.symm.trans listed'
        exact right
      · intro right
        exact right kind services inner fields there listed

end Account

/-- The old configuration has nothing but its section, and every entry that is skipped after it
was looked into has known keys only. `section_` is the section of the target once it has the
global fields. -/
structure OnlyKnown (side : ServiceSide) (file section_ : Entries) : Prop where
  alone : ∀ e ∈ file, e.1 = side.key
  entries : ∀ name kind fields, KeyAt side file .services name (.table kind fields) →
    RefusedInside side (existingNames section_) (hasDefaultToken section_) name fields →
    ∀ e ∈ fields, side.serviceImportKeys.has e.1 = true

section Conditions

variable {Text : Type} {env : Env Text} {source : String} {old : Except String Text}
  {file : Option Text} {after : Text} {side : ServiceSide} {report : Imported}

theorem exists_lookup {entries : Entries} {e : String × Item} (member : e ∈ entries) :
    ∃ item, entries.lookup e.1 = some item :=
  Option.isSome_iff_exists.mp ((Toml.lookup_isSome entries e.1).mpr (List.mem_map_of_mem member))

theorem keyAt_of_service {srcFile src services fields : Entries} {outer kind inner : TableKind}
    {name key : String} {item : Item} (own : srcFile.lookup side.key = some (.table outer src))
    (there : src.lookup "services" = some (.table kind services))
    (listed : services.lookup name = some (.table inner fields))
    (found : fields.lookup key = some item) :
    KeyAt side srcFile (.level (.service name)) key item := by
  refine ⟨trivial, ?_⟩
  exact (follow_section own _).trans ((follow_cons there _).trans ((follow_cons listed _).trans
    (follow_single found)))

theorem accounted_iff {srcFile src section_ : Entries} {outer : TableKind}
    (own : srcFile.lookup side.key = some (.table outer src)) :
    (∀ place key item, KeyAt side srcFile place key item → Accounted side src section_ place key) ↔
      OnlyKnown side srcFile section_ := by
  constructor
  · intro accounted
    constructor
    · intro e member
      obtain ⟨item, found⟩ := exists_lookup member
      exact accounted .file e.1 item ⟨trivial, follow_single found⟩
    · intro name inner fields at_ refused e member
      obtain ⟨kind, services, there, listed⟩ := keyAt_services own at_
      obtain ⟨item, found⟩ := exists_lookup member
      have right := accounted _ _ _ (keyAt_of_service own there listed found) kind services inner
        fields there listed
      rw [not_and, Bool.not_eq_false] at right
      exact right refused
  · intro known place key item at_
    cases place with
    | file =>
      obtain ⟨inner, found, -⟩ := follow_head at_.found
      exact known.alone (key, inner) (Toml.mem_of_lookup found)
    | services => trivial
    | level level =>
      cases level with
      | service name =>
        intro kind services inner fields there listed wrong
        obtain ⟨kind', services', inner', fields', there', listed', found⟩ := keyAt_service own at_
        cases there.symm.trans there'
        cases listed.symm.trans listed'
        have at_ : KeyAt side srcFile .services name (.table inner fields) :=
          ⟨trivial, (follow_section own _).trans ((follow_cons there _).trans
            (follow_single listed))⟩
        have right := known.entries name inner fields at_ wrong.1 (key, item)
          (Toml.mem_of_lookup found)
        rw [wrong.2] at right
        cases right
      | _ => trivial

theorem ignored_servicesReport {src section_ : Entries} :
    (servicesReport side src section_ (headReport side src)).ignored =
      (importNotices side src (sectionFate side section_)).map (Notice.label side) := by
  unfold servicesReport importNotices serviceNotices tableNotices
  cases src.lookup "services" with
  | none => simp [headReport]
  | some item =>
    cases like : item.asTableLike with
    | none => simp [like, headReport, Imported.note]
    | some pair =>
      obtain ⟨kind, services⟩ := pair
      simp [like, headReport, reportServices]

/-- An import accounts for every key of the old configuration exactly when there is nothing but a
section in it, and nothing unknown in an entry that it looks into and skips. -/
theorem import_accounts_iff (lawful : env.crate.Lawful) (prints : env.crate.Prints)
    (ran : runImport env source old file = .ok (after, side, report)) :
    ∃ srcFile src doc kind section_ imported t,
      ImportRun env old file side report after srcFile src doc kind section_ imported ∧
      env.crate.read after = .ok t ∧
      report.ignored = (importNotices side src
        (sectionFate side (withGlobals side src kind section_))).map (Notice.label side) ∧
      ((∀ place key item, KeyAt side srcFile place key item → ExactlyOne
          (Applied side src (sectionFate side (withGlobals side src kind section_)) t place key item)
          (Skipped report place key)
          (Ignored (importNotices side src
            (sectionFate side (withGlobals side src kind section_))) place key)) ↔
        OnlyKnown side srcFile (withGlobals side src kind section_)) := by
  obtain ⟨srcFile, src, doc, kind, section_, imported, run⟩ := runImport_iff.mp ran
  have formed := formed_document.mp ((opens_importedDocument run).formed
    (formed_document.mpr (formed_of_loadDocument lawful run.loaded)))
  obtain ⟨config, loaded, -⟩ := map_ok run.valid
  obtain ⟨t, readable, -⟩ := (loadable_iff _).mp ⟨config, loaded⟩
  obtain ⟨imports, reported⟩ := importSection_ok run.imports
  obtain ⟨sourceText, -, parsed⟩ := run.parsed
  obtain ⟨outer, own⟩ := run.source
  have source := formed_document.mpr (lawful.wellFormed parsed)
  have nodup : ∀ kind services, src.lookup "services" = some (.table kind services) →
      (services.map Prod.fst).Nodup := by
    intro kind services there
    have inside := formed_of_lookup_table (lawful.wellFormed parsed) own
    exact ((Toml.Entries.wellFormed_iff services).mp (formed_of_lookup_table inside there)).1
  have target : (importedDocument doc side kind imported).lookup side.key =
      some (.table kind imported) := by
    rw [importedDocument, Toml.lookup_insertKey, if_pos rfl]
  have applied : ∀ {place key item}, KeyAt side srcFile place key item →
      (Applied side src (sectionFate side (withGlobals side src kind section_)) t place key item ↔
        Copies side src (sectionFate side (withGlobals side src kind section_)) place key item) := by
    intro place key item at_
    constructor
    · exact fun applied => applied.copied
    · intro copied
      obtain ⟨item', found, lands⟩ := lands_of_copies imports nodup target own at_ copied
      exact ⟨copied, leaf_of_lands formed (Item.wellFormed_of_follow source at_.found)
        (prints.printed formed readable) found lands⟩
  refine ⟨srcFile, src, doc, kind, section_, imported, t, run, ?_, ?_, ?_⟩
  · rw [run.text]
    exact read_render prints _ readable
  · rw [reported]
    exact ignored_servicesReport
  · rw [← accounted_iff own]
    apply forall₄_congr
    intro place key item at_
    rw [applied at_, reported]
    exact key_once nodup own at_

end Conditions

/-- A client with one service, whose file has a title. -/
def titledDocument : Entries := ("title", .string "old") :: clientDocument secretWeb

theorem import_adds_titled (order : HashOrder) : ∃ report,
    runImport (treeEnv order) "old.toml" (.ok titledDocument) (some (clientDocument [])) =
      .ok (clientDocument secretWeb, .client, report) := by
  have ran : ∃ report,
      runImport (treeEnv order) "old.toml" (.ok titledDocument) (some (clientDocument [])) =
        ((validate (treeEnv order) (clientDocument secretWeb) >>= fun _ =>
          .ok (clientDocument secretWeb)) >>= fun text => .ok (text, .client, report)) :=
    ⟨_, rfl⟩
  obtain ⟨report, ran⟩ := ran
  rw [validate_clientDocument order (Or.inr rfl)] at ran
  exact ⟨report, ran⟩

theorem source_of_run {order : HashOrder} {text after srcFile src doc section_ imported : Entries}
    {file : Option Entries} {side : ServiceSide} {report : Imported} {kind : TableKind}
    (run : ImportRun (treeEnv order) (.ok text) file side report after srcFile src doc kind section_
      imported) : srcFile = text := by
  obtain ⟨text', same, parsed⟩ := run.parsed
  cases same
  have checked : (if text.wellFormed then Except.ok text else Except.error "malformed") =
    Except.ok srcFile := parsed
  split at checked
  · exact (Except.ok.inj checked).symm
  · cases checked

/-- The title is neither applied nor skipped, and it is not in the report. -/
theorem title_lost : ¬ ∀ (env : Env Entries) (source : String) (old : Except String Entries)
    (file : Option Entries) (after : Entries) (side : ServiceSide) (report : Imported)
    (srcFile src doc : Entries) (kind : TableKind) (section_ imported : Entries) (t : Table),
    env.crate.Lawful → env.crate.Prints →
    runImport env source old file = .ok (after, side, report) →
    ImportRun env old file side report after srcFile src doc kind section_ imported →
    env.crate.read after = .ok t → ∀ place key item, KeyAt side srcFile place key item → ExactlyOne
      (Applied side src (sectionFate side (withGlobals side src kind section_)) t place key item)
      (Skipped report place key)
      (Ignored (importNotices side src
        (sectionFate side (withGlobals side src kind section_))) place key) := by
  intro accounts
  obtain ⟨report, ran⟩ := import_adds_titled .some
  obtain ⟨srcFile, src, doc, kind, section_, imported, run⟩ := runImport_iff.mp ran
  obtain rfl := source_of_run run
  have title := accounts _ _ _ _ _ _ _ _ _ _ _ _ _ _ Toml.Crate.tree_lawful Toml.Crate.tree_prints
    ran run rfl .file "title" (.string "old") ⟨trivial, rfl⟩
  rcases title with ⟨applied, -⟩ | ⟨-, skipped, -⟩ | ⟨-, -, ignored⟩
  · have same : "title" = "client" := applied.copied
    exact absurd same (by decide)
  · exact skipped
  · exact ignored

/-- Without the title, every key of the same file is accounted for. -/
theorem web_accounted : ∃ src fate t report, ∀ place key item,
    KeyAt .client (clientDocument secretWeb) place key item → ExactlyOne
      (Applied .client src fate t place key item) (Skipped report place key)
      (Ignored (importNotices .client src fate) place key) := by
  obtain ⟨report, -, ran⟩ := import_adds_web .some
  obtain ⟨srcFile, src, doc, kind, section_, imported, t, run, -, -, accounts⟩ :=
    import_accounts_iff Toml.Crate.tree_lawful Toml.Crate.tree_prints ran
  obtain rfl := source_of_run run
  refine ⟨src, _, t, report, accounts.mpr ⟨?_, ?_⟩⟩
  · decide
  · intro name inner fields at_ refused
    have own : (clientDocument secretWeb).lookup ServiceSide.client.key =
        some (.table .header [("remote_addr", .string "example.com:2333"),
          ("services", .table .header secretWeb)]) := rfl
    obtain ⟨kind', services, there, listed⟩ := keyAt_services own at_
    cases there
    rw [secretWeb, Toml.lookup_cons_eq] at listed
    split at listed
    · cases listed
      cases refused.refused
    · cases listed

end Rathole.ConfigEdit
