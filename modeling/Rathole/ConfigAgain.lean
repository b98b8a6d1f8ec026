import Rathole.ConfigPlan
import Rathole.ConfigRole

set_option autoImplicit false

/- An import into a configuration that has taken the same import before. -/
namespace Rathole.ConfigEdit

open Toml (Item Entries TableKind Table Value)

/-- The entries are there. -/
def Has (news entries : Entries) : Prop := ∀ e ∈ news, entries.lookup e.1 = some e.2

/-- A table with a header of its own, or reached by one, in which something holds. -/
def HasTable (entries : Entries) (key : String) (P : Entries → Prop) : Prop :=
  ∃ inner table, entries.lookup key = some (.table inner table) ∧ inner.isInline = false ∧ P table

structure HasTransport (src transport : Entries) : Prop where
  type : Has (takenType src) transport
  subs : ∀ sub ∈ transportImportSubkeys, ∀ outer table,
    src.lookup sub.1 = some (.table outer table) →
    HasTable transport sub.1 (Has (taken scalarRefusal table sub.2))

/-- A section that has everything of the source but services. -/
structure HasImport (side : ServiceSide) (src section_ : Entries) : Prop where
  globals : Has (taken (globalRefusal side) src side.importGlobals) section_
  transport : ∀ outer table, src.lookup "transport" = some (.table outer table) →
    HasTable section_ "transport" (HasTransport table)
  services : ∀ outer table, src.lookup "services" = some (.table outer table) →
    HasTable section_ "services" fun _ => True

section Taken

variable {src entries : Entries} {kind : TableKind}

theorem isScalar_of_matches {scalar : ScalarKind} {item : Item}
    (matched : scalar.matches_ item = true) : item.isScalar = true := by
  cases scalar <;> cases item <;> first | rfl | cases matched

theorem scalarRefusal_none {field : String × ScalarKind} {item : Item}
    (free : scalarRefusal field item = none) : item.isScalar = true := by
  unfold scalarRefusal at free
  split at free
  · next matched => exact isScalar_of_matches matched
  · cases free

theorem globalRefusal_none {side : ServiceSide} {field : String × ScalarKind} {item : Item}
    (free : globalRefusal side field item = none) : item.isScalar = true := by
  unfold globalRefusal at free
  split at free
  · next matched => exact isScalar_of_matches matched
  · cases free

section Fields

variable {refusal : Refusal} {keys : ImportKeys}

theorem scalar_taken (scalar : ∀ {field item}, refusal field item = none → item.isScalar = true) :
    ∀ e ∈ taken refusal src keys, e.2.isScalar = true := by
  intro e member
  obtain ⟨field, -, -, -, free⟩ := mem_taken.mp member
  exact scalar free

theorem keys_taken (keys : ImportKeys) :
    ((taken refusal src keys).map Prod.fst).Sublist (keys.map Prod.fst) := by
  induction keys with
  | nil => exact .slnil
  | cons field rest ih =>
    cases found : src.lookup field.1 with
    | none =>
      rw [taken_absent found]
      exact .cons _ ih
    | some item =>
      cases refuses : refusal field item with
      | none =>
        rw [taken_some found refuses]
        exact .cons_cons _ ih
      | some reason =>
        rw [taken_none found refuses]
        exact .cons _ ih

end Fields

theorem scalar_takenType : ∀ e ∈ takenType src, e.2.isScalar = true := by
  intro e member
  unfold takenType at member
  split at member
  · split at member
    · rw [List.mem_singleton.mp member]
      rfl
    · cases member
  · cases member

theorem nodup_takenType (src : Entries) : ((takenType src).map Prod.fst).Nodup := by
  unfold takenType
  split
  · split
    · exact List.nodup_singleton _
    · exact List.nodup_nil
  · exact List.nodup_nil

/-- What was inserted is there. -/
theorem has_extend {news : Entries} (nodup : (news.map Prod.fst).Nodup)
    (scalar : ∀ e ∈ news, e.2.isScalar = true) : Has news (entries.extend kind news) := by
  intro e member
  rw [Toml.Entries.lookup_extend_of_mem nodup member, Item.ite_intoValue (scalar e member)]

theorem extend_has {news : Entries} (formed : entries.wellFormed = true)
    (scalar : ∀ e ∈ news, e.2.isScalar = true) (has : Has news entries) :
    entries.extend kind news = entries := by
  apply Toml.Entries.extend_self ((Toml.Entries.wellFormed_iff entries).mp formed).1
  intro e member
  rw [has e member, Item.ite_intoValue (scalar e member)]

theorem nodup_subkeys : ∀ sub ∈ transportImportSubkeys, (sub.2.map Prod.fst).Nodup := by decide

theorem nodup_globals (side : ServiceSide) : (side.importGlobals.map Prod.fst).Nodup := by
  cases side <;> decide

end Taken

section Alike

variable {entries entries' src : Entries} {key : String}

theorem has_alike {news : Entries} (alike : entries.Alike entries')
    (scalar : ∀ e ∈ news, e.2.isScalar = true) (has : Has news entries) : Has news entries' :=
  fun e member => alike.scalar (has e member) (scalar e member)

theorem hasTable_alike {P : Entries → Prop} (alike : entries.Alike entries')
    (each : ∀ {t t' : Entries}, t.Alike t' → P t → P t') (has : HasTable entries key P) :
    HasTable entries' key P := by
  obtain ⟨inner, table, found, plain, holds⟩ := has
  obtain ⟨inner', table', found', same, inside⟩ := alike.table found
  exact ⟨inner', table', found', same.trans plain, each inside holds⟩

theorem hasTransport_alike (alike : entries.Alike entries') (has : HasTransport src entries) :
    HasTransport src entries' := by
  constructor
  · exact has_alike alike scalar_takenType has.type
  · intro sub member outer table found
    apply hasTable_alike alike _ (has.subs sub member outer table found)
    intro t t' inside
    exact has_alike inside (scalar_taken scalarRefusal_none)

theorem hasImport_alike {side : ServiceSide} (alike : entries.Alike entries')
    (has : HasImport side src entries) : HasImport side src entries' := by
  constructor
  · exact has_alike alike (scalar_taken globalRefusal_none) has.globals
  · intro outer table found
    exact hasTable_alike alike hasTransport_alike (has.transport outer table found)
  · intro outer table found
    exact hasTable_alike alike (fun _ _ => trivial) (has.services outer table found)

end Alike

section First

variable {Text : Type} {env : Env Text} {side : ServiceSide} {src entries after : Entries}
  {kind : TableKind} {r report : Imported}

theorem isInline_of_ensureTable {key : String} {inner : TableKind} {table : Entries}
    (ensured : ensureTable env kind entries key = .ok (inner, table)) : inner.isInline = false :=
  (asTable_eq_some (okOrElse_ok ensured)).2

theorem hasTransport_of_copied {transport old : Entries} {inner : TableKind}
    (copied : ∀ sub ∈ transportImportSubkeys,
      Copied env src inner (old.extend inner (takenType src)) transport sub)
    (frame : ∀ key, key ∉ transportImportSubkeys.map Prod.fst →
      transport.lookup key = (old.extend inner (takenType src)).lookup key) :
    HasTransport src transport := by
  constructor
  · intro e member
    have own : e.1 = "type" := by
      unfold takenType at member
      split at member
      · split at member
        · rw [List.mem_singleton.mp member]
        · cases member
      · cases member
    rw [frame e.1 (own ▸ by decide)]
    exact has_extend (nodup_takenType src) scalar_takenType e member
  · intro sub member outer table found
    obtain ⟨inner', old', ensured, held⟩ := (copied sub member).table outer table found
    exact ⟨inner', _, held, isInline_of_ensureTable ensured,
      has_extend ((nodup_subkeys sub member).sublist (keys_taken sub.2))
        (scalar_taken scalarRefusal_none)⟩

/-- An import leaves a section that has what was imported. -/
theorem hasImport_of_imported (imported : SectionImported env side src kind entries after) :
    HasImport side src after := by
  constructor
  · intro e member
    obtain ⟨field, listed, same, -⟩ := mem_taken.mp member
    have apart : ∀ key, key ∉ side.importGlobals.map Prod.fst → e.1 ≠ key := by
      intro key absent met
      exact absent (met ▸ same ▸ List.mem_map_of_mem listed)
    rw [imported.others e.1 (apart _ (by cases side <;> decide)) (apart _ (by cases side <;> decide))]
    exact has_extend ((nodup_globals side).sublist (keys_taken _)) (scalar_taken globalRefusal_none)
      e member
  · intro outer table found
    obtain ⟨inner, old, transport, ensured, held, copied, frame⟩ :=
      imported.transport.table outer table found
    exact ⟨inner, transport, held, isInline_of_ensureTable ensured,
      hasTransport_of_copied copied frame⟩
  · intro outer table found
    obtain ⟨inner, old, ensured, held⟩ := imported.services.table outer table found
    exact ⟨inner, _, held, isInline_of_ensureTable ensured, trivial⟩

end First

section Second

variable {Text : Type} {env : Env Text} {side : ServiceSide} {src entries : Entries}
  {kind : TableKind} {r : Imported}

theorem ensureTable_of_lookup_table {key : String} {inner : TableKind} {table : Entries}
    (found : entries.lookup key = some (.table inner table)) (plain : inner.isInline = false) :
    ensureTable env kind entries key = .ok (inner, table) := by
  simp [ensureTable, found, Item.asTable, plain, okOrElse]

theorem formed_of_lookup_table {key : String} {inner : TableKind} {table : Entries}
    (formed : entries.wellFormed = true)
    (found : entries.lookup key = some (.table inner table)) : table.wellFormed = true :=
  ((Toml.Entries.wellFormed_table inner table).mp
    (Toml.Entries.wellFormed_of_lookup formed found)).2

theorem insertKey_of_lookup {key : String} {item : Item} (formed : entries.wellFormed = true)
    (found : entries.lookup key = some item) : Toml.insertKey entries key item = entries :=
  Toml.insertKey_self ((Toml.Entries.wellFormed_iff entries).mp formed).1 found

theorem importSub_again {sub : String × ImportKeys} (formed : entries.wellFormed = true)
    (has : ∀ outer table, src.lookup sub.1 = some (.table outer table) →
      HasTable entries sub.1 (Has (taken scalarRefusal table sub.2))) :
    importSub env (Level.label side .transport) src kind (entries, r) sub =
      .ok (entries, r.note side (subNotices src sub)) := by
  cases found : src.lookup sub.1 with
  | none => exact importSub_absent found
  | some item =>
    cases like : item.asTableLike with
    | none => exact importSub_other found like
    | some pair =>
      obtain ⟨outer, table⟩ := pair
      rw [asTableLike_eq_some like] at found
      obtain ⟨inner, old, held, plain, holds⟩ := has outer table found
      rw [importSub_table found (ensureTable_of_lookup_table held plain),
        extend_has (formed_of_lookup_table formed held) (scalar_taken scalarRefusal_none) holds,
        insertKey_of_lookup formed held]

theorem importSubs_again {subs : List (String × ImportKeys)} (formed : entries.wellFormed = true)
    (has : ∀ sub ∈ subs, ∀ outer table, src.lookup sub.1 = some (.table outer table) →
      HasTable entries sub.1 (Has (taken scalarRefusal table sub.2))) :
    subs.foldlM (importSub env (Level.label side .transport) src kind) (entries, r) =
      .ok (entries, r.note side (subs.flatMap (subNotices src))) := by
  induction subs generalizing r with
  | nil => simp [note_nil, pure, Except.pure]
  | cons sub rest ih =>
    rw [List.foldlM_cons, importSub_again formed (has sub List.mem_cons_self)]
    show rest.foldlM _ _ = _
    rw [ih fun sub member => has sub (.tail _ member), ← note_append, List.flatMap_cons]

theorem importTransport_again (formed : entries.wellFormed = true)
    (has : ∀ outer table, src.lookup "transport" = some (.table outer table) →
      HasTable entries "transport" (HasTransport table)) :
    importTransport env side src kind (entries, r) =
      .ok (entries, { r with transport := r.transport || hasTable src "transport" }.note side
        (transportNotices src)) := by
  cases found : src.lookup "transport" with
  | none => exact importTransport_absent found
  | some item =>
    cases like : item.asTableLike with
    | none => exact importTransport_other found like
    | some pair =>
      obtain ⟨outer, table⟩ := pair
      rw [asTableLike_eq_some like] at found
      obtain ⟨inner, old, held, plain, holds⟩ := has outer table found
      have inside := formed_of_lookup_table formed held
      rw [importTransport_table found (ensureTable_of_lookup_table held plain),
        extend_has inside scalar_takenType holds.type, importSubs_again inside holds.subs]
      show Except.ok (Toml.insertKey entries "transport" (.table inner old), _) = _
      rw [insertKey_of_lookup formed held]
      simp only [transportNotices, tableNotices, hasTable, found, Item.asTableLike,
        Option.bind_some, Option.isSome_some, Bool.or_true, note_append]

/-- With no service to insert the second import finds everything in its place. -/
theorem importSection_again (formed : entries.wellFormed = true)
    (has : HasImport side src entries)
    (none : ∀ outer services, src.lookup "services" = some (.table outer services) →
      insertedServices (sectionFate side entries) services = []) :
    importSection env side src kind entries =
      .ok (entries, servicesReport side src entries (headReport side src)) := by
  have services : ∀ r, importServices env side src kind (entries, r) =
      .ok (entries, servicesReport side src entries r) := by
    intro r
    by_cases table : ∃ outer services, src.lookup "services" = some (.table outer services)
    · obtain ⟨outer, services, found⟩ := table
      obtain ⟨inner, old, held, plain, -⟩ := has.services outer services found
      rw [importServices_table found (ensureTable_of_lookup_table held plain),
        none outer services found]
      show Except.ok (Toml.insertKey entries "services" (.table inner old), _) = _
      rw [insertKey_of_lookup formed held]
    · exact importServices_other fun outer services found => table ⟨outer, services, found⟩
  unfold importSection
  rw [foldl_importGlobal, extend_has formed (scalar_taken globalRefusal_none) has.globals]
  show (importTransport env side src kind (entries, Imported.ignoreUnknown _ _
    (fun k => s!"{Level.label side .section_}.{k}") src) >>= importServices env side src kind) = _
  rw [ignoreUnknown_eq, ← note_append, importTransport_again formed has.transport]
  show importServices env side src kind (entries, _) = _
  rw [services]
  simp [headReport, Imported.note, Imported.start, globalNotices]

end Second

section Fate

variable {side : ServiceSide} {present present' : List String} {token : Bool} {e : String × Item}
  {services : Entries}

theorem serviceFate_existing (held : e.1 ∈ present) :
    serviceFate side present token e = .existing := if_pos held

theorem serviceFate_congr (absent : e.1 ∉ present) (absent' : e.1 ∉ present') :
    serviceFate side present token e = serviceFate side present' token e := by
  unfold serviceFate
  rw [if_neg absent, if_neg absent']

theorem not_mem_of_entry {entry : Entries}
    (made : (serviceFate side present token e).entry = some entry) : e.1 ∉ present := by
  intro held
  rw [serviceFate_existing held] at made
  cases made

/-- What becomes of a service of the same source the next time. -/
def ServiceFate.again : ServiceFate → ServiceFate
  | applied _ _ => .existing
  | fate => fate

namespace ServiceFate

theorem entry_again (fate : ServiceFate) : fate.again.entry = none := by
  cases fate <;> rfl

theorem reason_again (fate : ServiceFate) : fate.again.reason = fate.reason := by
  cases fate <;> rfl

theorem again_applied {fate : ServiceFate} {entry : Entries} (made : fate.entry = some entry) :
    fate.again = .existing := by
  cases fate with
  | applied entry notices => rfl
  | _ => cases made

theorem again_other {fate : ServiceFate} (made : fate.entry = none) : fate.again = fate := by
  cases fate with
  | applied entry notices => cases made
  | _ => rfl

end ServiceFate

theorem mem_inserted {fate : String × Item → ServiceFate} {name : String} :
    name ∈ (insertedServices fate services).map Prod.fst ↔
      ∃ e ∈ services, e.1 = name ∧ (fate e).entry.isSome = true := by
  simp only [insertedServices, List.mem_map, List.mem_filterMap, Option.map_eq_some_iff,
    Option.isSome_iff_exists]
  constructor
  · intro listed
    obtain ⟨_, ⟨e, member, entry, made, same⟩, here⟩ := listed
    exact ⟨e, member, (congrArg Prod.fst same).trans here, entry, made⟩
  · intro listed
    obtain ⟨e, member, here, entry, made⟩ := listed
    exact ⟨_, ⟨e, member, entry, made, rfl⟩, here⟩

/-- With the applied services among the existing ones, every other decision is the same. -/
theorem serviceFate_again (nodup : (services.map Prod.fst).Nodup)
    (names : ∀ name, name ∈ present' ↔ name ∈ present ∨
      name ∈ (insertedServices (serviceFate side present token) services).map Prod.fst) :
    ∀ e ∈ services,
      serviceFate side present' token e = (serviceFate side present token e).again := by
  intro e member
  by_cases held : e.1 ∈ present
  · rw [serviceFate_existing held, serviceFate_existing ((names e.1).mpr (Or.inl held))]
    rfl
  · cases made : (serviceFate side present token e).entry with
    | some entry =>
      have inserted := mem_inserted.mpr ⟨e, member, rfl, Option.isSome_iff_exists.mpr ⟨entry, made⟩⟩
      rw [ServiceFate.again_applied made,
        serviceFate_existing ((names e.1).mpr (Or.inr inserted))]
    | none =>
      rw [ServiceFate.again_other made]
      apply serviceFate_congr _ held
      intro held'
      rcases (names e.1).mp held' with before | inserted
      · exact held before
      · obtain ⟨other, listed, same, some⟩ := mem_inserted.mp inserted
        rw [List.inj_on_of_nodup_map nodup listed member same, made] at some
        cases some

end Fate

/-- The key is one of a service entry, or the one of all services. -/
def Notice.ofServices (n : Notice) : Bool :=
  match n.level with
  | .service _ => true
  | .section_ => n.key = "services"
  | _ => false

section Report

variable {side : ServiceSide} {src section_ services : Entries} {r : Imported} {outer : TableKind}

theorem servicesReport_table (found : src.lookup "services" = some (.table outer services)) :
    servicesReport side src section_ r =
      reportServices (sectionFate side section_) side services r := by
  simp only [servicesReport, found, Item.asTableLike]

/-- What is reported of services that are no table does not depend on the target. -/
theorem servicesReport_other
    (other : ∀ outer services, src.lookup "services" ≠ some (.table outer services)) :
    ∃ notices : List Notice, (∀ n ∈ notices, n.ofServices = true) ∧
      ∀ section_ r, servicesReport side src section_ r = r.note side notices := by
  unfold servicesReport
  cases found : src.lookup "services" with
  | none =>
    refine ⟨[], ?_, fun _ r => (note_nil r side).symm⟩
    intro n member
    cases member
  | some item =>
    cases like : item.asTableLike with
    | none =>
      refine ⟨[⟨.section_, "services", some "not a table"⟩], ?_, ?_⟩
      · intro n member
        rw [List.mem_singleton.mp member]
        rfl
      · intro section_ r
        simp only [like]
    | some pair => exact absurd (found.trans (congrArg some (asTableLike_eq_some like))) (other _ _)

end Report

section Entries

variable {Text : Type} {env : Env Text} {side s : ServiceSide}
  {doc src section_ imported : Entries} {kind : TableKind} {name : String}

/-- The entry of a service in what a configuration denotes. -/
def entryAt (t : Table) (side : ServiceSide) (name : String) : Option Value :=
  (Value.table t).follow [side.key, "services", name]

def itemAt (doc : Entries) (side : ServiceSide) (name : String) : Option Item :=
  (Item.table .header doc).follow [side.key, "services", name]

theorem entryAt_written (formed : doc.wellFormed = true) :
    entryAt doc.written s name = (itemAt doc s name).bind Item.written :=
  Item.follow_written (formed_document.mpr formed) rfl _

/-- The entry of a service in a section. -/
def serviceItem (section_ : Entries) (name : String) : Option Item :=
  (Item.table .header section_).follow ["services", name]

theorem serviceItem_eq (section_ : Entries) (name : String) :
    serviceItem section_ name = (section_.lookup "services").bind fun item => item.get name := by
  simp only [serviceItem, Item.follow, Item.get, Item.asTableLike, Option.bind_some]
  cases section_.lookup "services" with
  | none => rfl
  | some item => exact Option.bind_fun_some _

theorem serviceItem_of_lookup (found : section_.lookup "services" = some (.table kind src)) :
    serviceItem section_ name = src.lookup name := by
  rw [serviceItem_eq, found, Option.bind_some, Item.get, Item.asTableLike, Option.bind_some]

theorem itemAt_of_lookup (found : doc.lookup side.key = some (.table kind section_)) :
    itemAt doc side name = serviceItem section_ name := by
  unfold itemAt serviceItem
  rw [Item.follow, Item.get, Item.asTableLike, Option.bind_some, found]
  rfl

theorem itemAt_congr {doc' : Entries} (same : doc'.lookup s.key = doc.lookup s.key) :
    itemAt doc' s name = itemAt doc s name := by
  unfold itemAt
  simp only [Item.follow, Item.get, Item.asTableLike, Option.bind_some, same]

/-- A new section has no entries. -/
theorem itemAt_withImportSection : itemAt (withImportSection doc side) s name = itemAt doc s name := by
  unfold withImportSection
  split
  · next absent =>
    by_cases own : s = side
    · subst own
      have held := Toml.lookup_insertKey doc s.key s.key
        (.table .header [("services", .table .header [])])
      rw [if_pos rfl] at held
      rw [itemAt_of_lookup held]
      simp only [itemAt, Item.follow, Item.get, Item.asTableLike, Option.bind_some,
        Option.isNone_iff_eq_none.mp absent]
      rfl
    · apply itemAt_congr
      rw [Toml.lookup_insertKey, if_neg (key_ne_of_ne own)]
  · rfl

theorem services_ensured {inner : TableKind} {old : Entries}
    (ensured : ensureTable env kind section_ "services" = .ok (inner, old)) :
    existingNames section_ = old.map Prod.fst ∧
      ∀ name, serviceItem section_ name = old.lookup name := by
  have like := okOrElse_ok ensured
  cases held : section_.lookup "services" with
  | none =>
    rw [held, Option.getD_none] at like
    split at like
    · cases like
    · cases like
      simp [existingNames, serviceItem_eq, held]
  | some item =>
    rw [held, Option.getD_some] at like
    obtain ⟨same, -⟩ := asTable_eq_some like
    subst same
    constructor
    · simp only [existingNames, held, Option.bind_some, Item.asTableLike]
    · intro name
      exact serviceItem_of_lookup held

end Entries

/-- Nothing at a name is lost, and what is new is at these names. -/
structure Grown {A : Type} (R : A → A → Prop) (names : List String)
    (before after : String → Option A) : Prop where
  kept : ∀ name v, before name = some v → ∃ w, after name = some w ∧ R v w
  grown : ∀ name, (after name).isSome = true ↔ (before name).isSome = true ∨ name ∈ names
  new : ∀ name ∈ names, before name = none

section Growth

variable {Text : Type} {env : Env Text} {side s : ServiceSide}
  {doc src section_ imported : Entries} {kind : TableKind} {name : String}

theorem Grown.refl {A : Type} (before : String → Option A) : Grown Eq [] before before := by
  constructor
  · intro name v found
    exact ⟨v, found, rfl⟩
  · simp
  · simp

theorem services_table {outer : TableKind} {services : Entries}
    (found : src.lookup "services" = some (.table outer services)) :
    (servicesReport side src section_ (headReport side src)).services =
      (insertedServices (sectionFate side section_) services).map Prod.fst := by
  rw [servicesReport_table found]
  exact List.nil_append _

theorem services_other
    (other : ∀ outer services, src.lookup "services" ≠ some (.table outer services)) :
    (servicesReport side src section_ (headReport side src)).services = [] := by
  obtain ⟨notices, -, same⟩ := servicesReport_other other
  rw [same]
  rfl

/-- The services of the source are inserted where there is none of that name. -/
theorem grown_of_copied (copied : ServicesCopied env side src kind section_ imported) :
    Grown Eq (servicesReport side src section_ (headReport side src)).services
      (serviceItem section_) (serviceItem imported) := by
  by_cases table : ∃ outer services, src.lookup "services" = some (.table outer services)
  · obtain ⟨outer, services, found⟩ := table
    obtain ⟨inner, old, ensured, held⟩ := copied.table outer services found
    obtain ⟨names, items⟩ := services_ensured ensured
    have absent : ∀ name ∈ (insertedServices (sectionFate side section_) services).map Prod.fst,
        old.lookup name = none := by
      intro name listed
      obtain ⟨e, member, same, made⟩ := mem_inserted.mp listed
      obtain ⟨entry, made⟩ := Option.isSome_iff_exists.mp made
      have fresh := not_mem_of_entry made
      rw [same, names, ← Toml.lookup_isSome] at fresh
      exact Option.not_isSome_iff_eq_none.mp fresh
    rw [services_table found]
    constructor
    · intro name item there
      rw [items] at there
      refine ⟨item, ?_, rfl⟩
      rw [serviceItem_of_lookup held, Toml.Entries.lookup_extend_of_not_mem, there]
      intro listed
      rw [absent name listed] at there
      cases there
    · intro name
      rw [serviceItem_of_lookup held, items]
      exact Toml.Entries.isSome_lookup_extend
    · intro name listed
      rw [items]
      exact absent name listed
  · have other : ∀ outer services, src.lookup "services" ≠ some (.table outer services) :=
      fun outer services found => table ⟨outer, services, found⟩
    have same : serviceItem imported = serviceItem section_ := by
      funext name
      rw [serviceItem_eq, copied.other other, serviceItem_eq]
    rw [services_other other, same]
    exact .refl _

end Growth

section Run

variable {Text : Type} {env : Env Text} {source : String} {old : Except String Text}
  {file : Option Text} {after : Text} {side : ServiceSide} {report : Imported}
  {src srcSection doc section_ imported : Entries} {kind : TableKind} {t : Table}

theorem opens_importedDocument
    (run : ImportRun env old file side report after src srcSection doc kind section_ imported) :
    Opens side doc (importedDocument doc side kind imported) := by
  apply (opens_withImportSection doc side).trans
  apply Edits.opens
  apply edits_insertKey run.target
  intro formed
  exact formed_importSection formed run.imports

/-- The section of the target before its transport and its services are copied. -/
def withGlobals (side : ServiceSide) (src : Entries) (kind : TableKind) (section_ : Entries) :
    Entries :=
  section_.extend kind (taken (globalRefusal side) src side.importGlobals)

theorem lookup_withGlobals {key : String} (free : key ∉ side.importGlobals.map Prod.fst) :
    (withGlobals side src kind section_).lookup key = section_.lookup key :=
  Toml.Entries.lookup_extend_of_not_mem (not_mem_taken free)

theorem grown_of_run
    (run : ImportRun env old file side report after src srcSection doc kind section_ imported)
    (s : ServiceSide) : Grown Eq (if s = side then report.services else []) (itemAt doc s)
      (itemAt (importedDocument doc side kind imported) s) := by
  by_cases own : s = side
  · subst own
    obtain ⟨copied, reported⟩ := importSection_ok run.imports
    have services : (withGlobals s srcSection kind section_).lookup "services" =
        section_.lookup "services" := lookup_withGlobals (by cases s <;> decide)
    have grown := grown_of_copied copied.services
    have before : serviceItem (withGlobals s srcSection kind section_) = itemAt doc s := by
      funext name
      have kept : itemAt (withImportSection doc s) s name = itemAt doc s name :=
        itemAt_withImportSection
      rw [← kept, itemAt_of_lookup run.target, serviceItem_eq, services, serviceItem_eq]
    have last : itemAt (importedDocument doc s kind imported) s = serviceItem imported := by
      funext name
      apply itemAt_of_lookup
      rw [importedDocument, Toml.lookup_insertKey, if_pos rfl]
    rw [if_pos rfl, last, ← before, reported]
    exact grown
  · have same : itemAt (importedDocument doc side kind imported) s = itemAt doc s := by
      funext name
      exact itemAt_congr ((opens_importedDocument run).others s.key (key_ne_of_ne own))
    rw [if_neg own, same]
    exact .refl _

/-- What grows in the document grows in the text. -/
theorem grown_written {doc' : Entries} {names : List String} {s : ServiceSide}
    (formed : doc.wellFormed = true) (formed' : doc'.wellFormed = true)
    (same : Table.Same t doc'.written) (grown : Grown Eq names (itemAt doc s) (itemAt doc' s)) :
    Grown Value.Same names (entryAt doc.written s) (entryAt t s) := by
  have shown : ∀ {d : Entries}, d.wellFormed = true → ∀ name,
      (entryAt d.written s name).isSome = (itemAt d s name).isSome :=
    fun formed name => Item.isSome_follow_written (formed_document.mpr formed) rfl _
  have alike : ∀ name, Toml.SameAt (entryAt t s name) (entryAt doc'.written s name) :=
    fun name => (Toml.same_table.mpr same).follow _
  constructor
  · intro name v found
    rw [entryAt_written formed] at found
    obtain ⟨item, there, print⟩ := Option.bind_eq_some_iff.mp found
    obtain ⟨item', kept, rfl⟩ := grown.kept name item there
    have here := alike name
    rw [entryAt_written formed', kept, Option.bind_some, print] at here
    cases seen : entryAt t s name with
    | none =>
      rw [seen] at here
      cases here
    | some w =>
      rw [seen] at here
      cases here with
      | some same => exact ⟨w, rfl, same.symm⟩
  · intro name
    rw [(alike name).isSome, shown formed', shown formed]
    exact grown.grown name
  · intro name member
    rw [entryAt_written formed, grown.new name member]
    rfl

theorem ensureRoleAllows_of_lookup {doc : Entries} (own : (doc.lookup side.key).isSome = true)
    (other : doc.lookup side.other.key = none) : ensureRoleAllows doc side = .ok () := by
  cases side with
  | client =>
    have client : (doc.lookup "client").isSome = true := own
    have server : doc.lookup "server" = none := other
    have absent : (doc.lookup "client").isNone = false := by
      rw [← Option.not_isSome, client]
      rfl
    simp [ensureRoleAllows, detectRole, client, server, absent, bind, Except.bind]
  | server =>
    have server : (doc.lookup "server").isSome = true := own
    have client : doc.lookup "client" = none := other
    have absent : (doc.lookup "server").isNone = false := by
      rw [← Option.not_isSome, server]
      rfl
    simp [ensureRoleAllows, detectRole, client, server, absent, bind, Except.bind]

end Run

section Twice

variable {side : ServiceSide} {src section_ section_' imported services : Entries}
  {kind outer : TableKind}

theorem mem_existingNames {name : String} :
    name ∈ existingNames section_ ↔ (serviceItem section_ name).isSome = true := by
  unfold existingNames
  cases held : section_.lookup "services" with
  | none => simp [serviceItem_eq, held]
  | some item =>
    cases like : item.asTableLike with
    | none => simp [serviceItem_eq, held, like, Item.get]
    | some pair =>
      obtain ⟨inner, table⟩ := pair
      rw [asTableLike_eq_some like] at held
      rw [serviceItem_of_lookup held, Toml.lookup_isSome]
      simp [like]

variable {Text : Type} {env : Env Text}

/-- The second time the applied services exist, and the rest is decided as before. -/
theorem sectionFate_again (imports : SectionImported env side src kind section_ imported)
    (alike : imported.Alike section_') (found : src.lookup "services" = some (.table outer services))
    (nodup : (services.map Prod.fst).Nodup) : ∀ e ∈ services, sectionFate side section_' e =
      (sectionFate side (withGlobals side src kind section_) e).again := by
  have token : hasDefaultToken section_' = hasDefaultToken (withGlobals side src kind section_) := by
    unfold hasDefaultToken
    rw [← alike.bind_asStr, imports.others _ (by decide) (by decide)]
    rfl
  unfold sectionFate
  rw [token]
  apply serviceFate_again nodup
  intro name
  rw [mem_existingNames, mem_existingNames,
    show (serviceItem section_' name).isSome = (serviceItem imported name).isSome from
      (alike.isSome_follow _ _).symm, (grown_of_copied imports.services).grown,
    services_table found]
  rfl

/-- The section of an old configuration. -/
def IsSource (env : Env Text) (old : Except String Text) (side : ServiceSide) (src : Entries) : Prop :=
  ∃ text doc kind, old = .ok text ∧ env.crate.parse text = .ok doc ∧
    doc.lookup side.key = some (.table kind src)

/-- The report of a second import of a section. -/
structure Repeats (side : ServiceSide) (src : Entries) (report report' : Imported) : Prop where
  services : report'.services = []
  existing : ∀ name ∈ report.services, name ∈ report'.existingServices
  invalid : report'.invalidServices = report.invalidServices
  ignored : ∃ notices notices' : List Notice, (∀ n ∈ notices ++ notices', n.ofServices = true) ∧
    report.ignored =
      (globalNotices side src ++ transportNotices src ++ notices).map (Notice.label side) ∧
    report'.ignored =
      (globalNotices side src ++ transportNotices src ++ notices').map (Notice.label side)

theorem level_notices {present : List String} {token : Bool} {e : String × Item} :
    ∀ n ∈ (serviceFate side present token e).notices, n.level = .service e.1 := by
  have unknown : ∀ {known : String → Bool} {table : Entries},
      ∀ n ∈ unknown known (.service e.1) table, n.level = .service e.1 := by
    intro known table n member
    obtain ⟨x, -, rfl⟩ := List.mem_map.mp member
    rfl
  have refused : ∀ {table : Entries} {keys : ImportKeys},
      ∀ n ∈ refused scalarRefusal (.service e.1) table keys, n.level = .service e.1 := by
    intro table keys n member
    obtain ⟨field, -, same⟩ := List.mem_filterMap.mp member
    obtain ⟨item, -, same⟩ := Option.bind_eq_some_iff.mp same
    obtain ⟨reason, -, rfl⟩ := Option.map_eq_some_iff.mp same
    rfl
  unfold serviceFate
  split
  · simp [ServiceFate.notices]
  · split
    · simp [ServiceFate.notices]
    · split
      · simp [ServiceFate.notices]
      · dsimp only
        split
        · exact unknown
        · intro n member
          rcases List.mem_append.mp member with first | second
          · exact unknown n first
          · exact refused n second

theorem ofServices_notices {present : List String} {token : Bool} {e : String × Item} :
    ∀ n ∈ (serviceFate side present token e).notices, n.ofServices = true := by
  intro n member
  rw [Notice.ofServices, level_notices n member]

theorem ignored_reportServices {fate : String × Item → ServiceFate} :
    (reportServices fate side services (headReport side src)).ignored =
      (globalNotices side src ++ transportNotices src ++
        services.flatMap fun e => (fate e).notices).map (Notice.label side) := by
  rw [List.map_append]
  rfl

theorem repeats_of_fates {fate fate' : String × Item → ServiceFate}
    (again : ∀ e ∈ services, fate' e = (fate e).again)
    (notices : ∀ e, ∀ n ∈ (fate e).notices, n.ofServices = true)
    (notices' : ∀ e, ∀ n ∈ (fate' e).notices, n.ofServices = true) :
    Repeats side src (reportServices fate side services (headReport side src))
      (reportServices fate' side services (headReport side src)) := by
  constructor
  · show [] ++ (insertedServices fate' services).map Prod.fst = []
    rw [List.nil_append, List.map_eq_nil_iff]
    apply List.filterMap_eq_nil_iff.mpr
    intro e member
    rw [again e member, ServiceFate.entry_again]
    rfl
  · intro name listed
    have inserted : name ∈ (insertedServices fate services).map Prod.fst := listed
    obtain ⟨e, member, same, made⟩ := mem_inserted.mp inserted
    obtain ⟨entry, made⟩ := Option.isSome_iff_exists.mp made
    show name ∈ [] ++ (services.filter fun e => (fate' e).isExisting).map Prod.fst
    rw [List.nil_append, ← same]
    apply List.mem_map_of_mem
    rw [List.mem_filter, again e member, ServiceFate.again_applied made]
    exact ⟨member, rfl⟩
  · show [] ++ services.filterMap _ = [] ++ services.filterMap _
    congr 1
    apply List.filterMap_congr
    intro e member
    rw [again e member, ServiceFate.reason_again]
  · refine ⟨_, _, ?_, ignored_reportServices, ignored_reportServices⟩
    intro n member
    rcases List.mem_append.mp member with first | second
    · obtain ⟨e, -, there⟩ := List.mem_flatMap.mp first
      exact notices e n there
    · obtain ⟨e, -, there⟩ := List.mem_flatMap.mp second
      exact notices' e n there

/-- A report without services is the same the second time. -/
theorem repeats_other
    (other : ∀ outer services, src.lookup "services" ≠ some (.table outer services)) :
    Repeats side src (servicesReport side src section_ (headReport side src))
      (servicesReport side src section_' (headReport side src)) := by
  obtain ⟨notices, own, same⟩ := servicesReport_other other
  rw [same, same]
  refine ⟨rfl, ?_, rfl, notices, notices, ?_, ?_, ?_⟩
  · intro name listed
    cases listed
  · intro n member
    rcases List.mem_append.mp member with first | second
    · exact own n first
    · exact own n second
  · rw [List.map_append]
    rfl
  · rw [List.map_append]
    rfl

theorem importSection_twice {report : Imported} (nodup : ∀ outer services,
      src.lookup "services" = some (.table outer services) → (services.map Prod.fst).Nodup)
    (ran : importSection env side src kind section_ = .ok (imported, report))
    (alike : imported.Alike section_') {kind' : TableKind} :
    ∃ report', importSection env side src kind' section_' = .ok (section_', report') ∧
      Repeats side src report report' := by
  obtain ⟨imports, reported⟩ := importSection_ok ran
  have has := hasImport_alike alike (hasImport_of_imported imports)
  have fates : ∀ outer services, src.lookup "services" = some (.table outer services) →
      ∀ e ∈ services, sectionFate side section_' e =
        (sectionFate side (withGlobals side src kind section_) e).again :=
    fun outer services found => sectionFate_again imports alike found (nodup outer services found)
  refine ⟨_, importSection_again alike.formed' has ?_, ?_⟩
  · intro outer services found
    apply List.filterMap_eq_nil_iff.mpr
    intro e member
    rw [fates outer services found e member, ServiceFate.entry_again]
    rfl
  · rw [reported]
    by_cases table : ∃ outer services, src.lookup "services" = some (.table outer services)
    · obtain ⟨outer, services, found⟩ := table
      rw [servicesReport_table found, servicesReport_table found]
      apply repeats_of_fates (fates outer services found)
      · intro e
        exact ofServices_notices
      · intro e
        exact ofServices_notices
    · exact repeats_other fun outer services found => table ⟨outer, services, found⟩

end Twice

section Runs

variable {Text : Type} {env : Env Text} {source : String} {old : Except String Text}
  {text after : Text} {side : ServiceSide} {report : Imported}

theorem withImportSection_of_isSome {doc : Entries} (held : (doc.lookup side.key).isSome = true) :
    withImportSection doc side = doc := by
  unfold withImportSection
  apply if_neg
  rw [Option.isNone_iff_eq_none]
  intro absent
  rw [absent] at held
  cases held

/-- A second import reads the document that the first one printed, and prints it again. -/
theorem run_again {file : Option Text} {srcFile src doc doc' section_ imported : Entries}
    {kind : TableKind} {t : Table} (lawful : env.crate.Lawful)
    (run : ImportRun env old file side report text srcFile src doc kind section_ imported)
    (alike : (importedDocument doc side kind imported).Alike doc')
    (parsed : env.crate.parse after = .ok doc') (readable : env.crate.read after = .ok t)
    (loads : TableLoads env t) : ∃ kind' section_' report',
      ImportRun env old (some after) side report' (env.crate.print doc') srcFile src doc' kind'
        section_' section_' ∧ Repeats side src report report' := by
  have target : (importedDocument doc side kind imported).lookup side.key =
      some (.table kind imported) := by
    rw [importedDocument, Toml.lookup_insertKey, if_pos rfl]
  obtain ⟨kind', section_', held, -, inside⟩ := alike.table target
  obtain ⟨sourceText, -, parsedOld⟩ := run.parsed
  obtain ⟨outer, found⟩ := run.source
  have source := formed_of_lookup_table (lawful.wellFormed parsedOld) found
  have nodup : ∀ outer services, src.lookup "services" = some (.table outer services) →
      (services.map Prod.fst).Nodup := by
    intro outer services listed
    exact ((Toml.Entries.wellFormed_iff services).mp (formed_of_lookup_table source listed)).1
  obtain ⟨report', imports, repeats⟩ := importSection_twice nodup run.imports inside
  have own : (doc'.lookup side.key).isSome = true := by
    rw [held]
    rfl
  have other : doc'.lookup side.other.key = none := by
    rw [← Option.not_isSome_iff_eq_none, ← alike.lookup_isSome,
      (opens_importedDocument run).others _ (key_ne_of_ne (ServiceSide.other_ne side)),
      other_of_ensureRoleAllows run.allowed]
    exact Bool.false_ne_true
  have opened := withImportSection_of_isSome own
  have unchanged : importedDocument doc' side kind' section_' = doc' := by
    rw [importedDocument, opened, insertKey_of_lookup alike.formed' held]
  refine ⟨kind', section_', report', ?_, repeats⟩
  constructor
  · exact run.parsed
  · exact run.role
  · exact run.source
  · exact withContext_of_ok parsed
  · exact ensureRoleAllows_of_lookup own other
  · intro absent
    rw [held] at absent
    cases absent
  · rw [opened, held]
  · exact imports
  · obtain ⟨config, loaded⟩ := (loadable_iff _).mpr
      ⟨t, lawful.reprinted parsed readable, loads⟩
    rw [unchanged, validate, loaded]
    rfl
  · rw [unchanged]
    rfl

/-- An import keeps the entries that a configuration has and adds the ones that it reports as
applied; the same import again finds them all and changes nothing. -/
theorem import_repeats (lawful : env.crate.Lawful) (prints : env.crate.Prints)
    (styles : env.crate.Styles) (loadable : Loadable env text)
    (ran : runImport env source old (some text) = .ok (after, side, report)) :
    ∃ before t src, env.crate.read text = .ok before ∧ env.crate.read after = .ok t ∧
      IsSource env old side src ∧
      (∀ s, Grown Value.Same (if s = side then report.services else []) (entryAt before s)
        (entryAt t s)) ∧
      ∃ again report', runImport env source old (some after) = .ok (again, side, report') ∧
        env.crate.read again = .ok t ∧ Repeats side src report report' := by
  obtain ⟨srcFile, src, doc, kind, section_, imported, run⟩ := runImport_iff.mp ran
  obtain ⟨before, read, -⟩ := (loadable_iff text).mp loadable
  have formed := formed_of_loadDocument lawful run.loaded
  have formed' := formed_document.mp
    ((opens_importedDocument run).formed (formed_document.mpr formed))
  obtain ⟨config, loaded, -⟩ := map_ok run.valid
  obtain ⟨t, readable, loads⟩ := (loadable_iff _).mp ⟨config, loaded⟩
  obtain ⟨doc', parsed⟩ := prints.parsed formed' readable
  have alike := Toml.Crate.alike_of_parse lawful prints styles formed' readable parsed
  have printed : after = env.crate.print (importedDocument doc side kind imported) := run.text
  rw [← printed] at readable parsed
  obtain ⟨sourceText, readOld, parsedOld⟩ := run.parsed
  obtain ⟨outer, found⟩ := run.source
  obtain ⟨kind', section_', report', second, repeats⟩ :=
    run_again lawful run alike parsed readable loads
  refine ⟨before, t, src, read, readable, ⟨sourceText, srcFile, outer, readOld, parsedOld, found⟩,
    ?_, env.crate.print doc', report', ?_, lawful.reprinted parsed readable, repeats⟩
  · intro s
    have same : Table.Same t (importedDocument doc side kind imported).written := by
      rw [lawful.read parsed readable]
      exact alike.same.symm
    rw [lawful.read (withContext_ok run.loaded) read]
    exact grown_written formed formed' same (grown_of_run run s)
  · exact runImport_iff.mpr ⟨srcFile, src, doc', kind', section_', section_', second⟩

end Runs

theorem import_adds_web (order : HashOrder) : ∃ report, report.services = ["web"] ∧
    runImport (treeEnv order) "old.toml" (.ok (clientDocument secretWeb))
      (some (clientDocument [])) = .ok (clientDocument secretWeb, .client, report) := by
  have ran : ∃ report, report.services = ["web"] ∧
      runImport (treeEnv order) "old.toml" (.ok (clientDocument secretWeb))
        (some (clientDocument [])) =
        ((validate (treeEnv order) (clientDocument secretWeb) >>= fun _ =>
          .ok (clientDocument secretWeb)) >>= fun text => .ok (text, .client, report)) :=
    ⟨_, rfl, rfl⟩
  obtain ⟨report, services, ran⟩ := ran
  rw [validate_clientDocument order (Or.inr rfl)] at ran
  exact ⟨report, services, ran⟩

/-- The service `web` is added by the first import and exists for the second. -/
theorem web_imported_once : ∃ t again report,
    (treeEnv .some).crate.read (clientDocument secretWeb) = .ok t ∧
    runImport (treeEnv .some) "old.toml" (.ok (clientDocument secretWeb))
      (some (clientDocument secretWeb)) = .ok (again, .client, report) ∧
    (treeEnv .some).crate.read again = .ok t ∧
    report.services = [] ∧ "web" ∈ report.existingServices := by
  obtain ⟨report, services, ran⟩ := import_adds_web .some
  have loadable : Loadable (treeEnv .some) (clientDocument []) := by
    obtain ⟨config, loaded, -⟩ := map_ok (validate_clientDocument .some (Or.inl rfl))
    exact ⟨config, loaded⟩
  obtain ⟨before, t, src, -, read, -, -, again, report', second, same, repeats⟩ :=
    import_repeats Toml.Crate.tree_lawful Toml.Crate.tree_prints Toml.Crate.tree_styles loadable ran
  refine ⟨t, again, report', read, second, same, repeats.services, ?_⟩
  apply repeats.existing
  rw [services]
  exact List.mem_singleton_self _

end Rathole.ConfigEdit
