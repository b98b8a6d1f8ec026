import Rathole.ConfigTaken
import Rathole.TomlHeaders

set_option autoImplicit false

/- An import into a missing configuration makes a copy of the old one. -/
namespace Rathole.ConfigEdit

open Toml (Item Entries TableKind Table)

section Fields

variable {refusal : Refusal} {keys : ImportKeys} {src entries : Entries} {level : Level}
  {kind : TableKind} {key : String} {item : Item}

/-- The fields that are there are all taken. -/
def TakesAll (refusal : Refusal) (keys : ImportKeys) (src : Entries) : Prop :=
  ∀ field ∈ keys, ∀ item, src.lookup field.1 = some item → refusal field item = none

theorem Clean.takesAll (nodup : (keys.map Prod.fst).Nodup) (clean : Clean refusal keys src) :
    TakesAll refusal keys src := by
  intro field member item found
  obtain ⟨field', member', same, free⟩ := clean field.1 item found
  have own := List.inj_on_of_nodup_map nodup member' member same
  rw [← own]
  exact free

theorem refused_nil (takes : TakesAll refusal keys src) : refused refusal level src keys = [] := by
  apply List.filterMap_eq_nil_iff.mpr
  intro field member
  cases found : src.lookup field.1 with
  | none => rfl
  | some item => rw [Option.bind_some, takes field member item found, Option.map_none]

theorem unknown_nil {known : String → Bool}
    (all : ∀ key item, src.lookup key = some item → known key = true) :
    unknown known level src = [] := by
  unfold unknown
  rw [List.map_eq_nil_iff, List.filter_eq_nil_iff]
  intro e member
  obtain ⟨item, found⟩ := exists_lookup member
  simp [all e.1 item found]

/-- With every field taken, the copy has the fields of the source. -/
theorem lookup_extend_taken (nodup : (keys.map Prod.fst).Nodup)
    (scalar : ∀ {field item}, refusal field item = none → item.isScalar = true)
    (takes : TakesAll refusal keys src) (member : key ∈ keys.map Prod.fst)
    (absent : entries.lookup key = none) :
    (entries.extend kind (taken refusal src keys)).lookup key = src.lookup key := by
  obtain ⟨field, listed, rfl⟩ := List.mem_map.mp member
  cases found : src.lookup field.1 with
  | none =>
    rw [Toml.Entries.lookup_extend_of_not_mem, absent]
    intro listed'
    obtain ⟨e, held, same⟩ := List.mem_map.mp listed'
    obtain ⟨field', -, named, there, -⟩ := mem_taken.mp held
    rw [named, same, found] at there
    cases there
  | some item =>
    have free := takes field listed item found
    have held : (field.1, item) ∈ taken refusal src keys :=
      mem_taken.mpr ⟨field, listed, rfl, found, free⟩
    have distinct : ((taken refusal src keys).map Prod.fst).Nodup :=
      nodup.sublist (keys_taken keys)
    rw [Toml.Entries.lookup_extend_of_mem distinct held, Item.ite_intoValue (scalar free)]

theorem lookup_none_of_clean (clean : Clean refusal keys src) (other : key ∉ keys.map Prod.fst) :
    src.lookup key = none := by
  cases found : src.lookup key with
  | none => rfl
  | some item =>
    obtain ⟨field, listed, same, -⟩ := clean key item found
    exact absurd (same ▸ List.mem_map_of_mem listed) other

/-- A table of scalars is copied whole. -/
theorem mirrors_taken (nodup : (keys.map Prod.fst).Nodup)
    (scalar : ∀ {field item}, refusal field item = none → item.isScalar = true)
    (clean : Clean refusal keys src) :
    src.Mirrors (Toml.Entries.extend [] kind (taken refusal src keys)) := by
  apply Toml.Entries.mirrors_of_lookup
  · intro key
    by_cases member : key ∈ keys.map Prod.fst
    · exact lookup_extend_taken nodup scalar (clean.takesAll nodup) member rfl
    · rw [Toml.Entries.lookup_extend_of_not_mem (not_mem_taken member),
        lookup_none_of_clean clean member]
      rfl
  · intro key item found
    obtain ⟨field, -, -, free⟩ := clean key item found
    exact scalar free

end Fields

section Services

variable {side : ServiceSide} {token : Bool} {fields entry services : Entries}
  {name key : String} {kind : TableKind} {present : List String}

theorem scalar_importedEntry (made : importedEntry side token fields = .ok entry) :
    ∀ e ∈ entry, e.2.isScalar = true := by
  obtain ⟨type, first, made⟩ := bind_ok made
  obtain ⟨addr, second, made⟩ := bind_ok made
  obtain ⟨own, third, made⟩ := bind_ok made
  cases made
  have types : ∀ e ∈ type, e.2.isScalar = true := by
    unfold importedType at first
    split at first
    · cases first
      simp
    · obtain ⟨s, -, first⟩ := bind_ok first
      obtain ⟨-, -, first⟩ := bind_ok first
      cases first
      simp [Item.isScalar]
  have addrs : ∀ e ∈ addr, e.2.isScalar = true := by
    obtain ⟨a, -, second⟩ := bind_ok second
    obtain ⟨-, -, second⟩ := bind_ok second
    cases second
    simp [Item.isScalar]
  have tokens : ∀ e ∈ own, e.2.isScalar = true := by
    unfold importedToken at third
    split at third
    · obtain ⟨t, -, third⟩ := bind_ok third
      obtain ⟨-, -, third⟩ := bind_ok third
      cases third
      simp [Item.isScalar]
    · obtain ⟨-, -, third⟩ := bind_ok third
      cases third
      simp
  intro e member
  rcases List.mem_append.mp member with early | last
  · rcases List.mem_append.mp early with here | here
    · exact types e here
    · exact addrs e here
  · exact tokens e last

theorem takesAll_others (clean : CleanEntry side token fields) :
    TakesAll scalarRefusal (otherServiceKeys side) fields := by
  intro field member item found
  rcases clean.others field.1 item found with main | other
  · have apart := main_not_other side field.1 main
    rw [(has_iff _).mpr ⟨field, member, rfl⟩] at apart
    cases apart
  · obtain ⟨field', member', same, free⟩ := other
    have own := List.inj_on_of_nodup_map (nodup_otherServiceKeys side) member' member same
    rw [← own]
    exact free

/-- An entry is copied whole. -/
theorem mirrors_entry (made : importedEntry side token fields = .ok entry)
    (clean : CleanEntry side token fields) : fields.Mirrors
      (entry.extend .header (taken scalarRefusal fields (otherServiceKeys side))) := by
  have main := lookup_importedEntry made
  apply Toml.Entries.mirrors_of_lookup
  · intro key
    by_cases other : key ∈ (otherServiceKeys side).map Prod.fst
    · have absent : key ∉ mainServiceKeys side := by
        intro held
        have apart := main_not_other side key held
        rw [(has_iff_mem _).mpr other] at apart
        cases apart
      apply lookup_extend_taken (nodup_otherServiceKeys side) scalarRefusal_none
        (takesAll_others clean) other
      rw [main, if_neg absent]
    · rw [Toml.Entries.lookup_extend_of_not_mem (not_mem_taken other), main]
      by_cases held : key ∈ mainServiceKeys side
      · rw [if_pos held]
      · rw [if_neg held]
        cases found : fields.lookup key with
        | none => rfl
        | some item =>
          rcases clean.others key item found with here | here
          · exact absurd here held
          · obtain ⟨field, listed, same, -⟩ := here
            exact absurd (same ▸ List.mem_map_of_mem listed) other
  · intro key item found
    rcases clean.others key item found with here | here
    · have copied := main key
      rw [if_pos here, found] at copied
      exact scalar_importedEntry made (key, item) (Toml.mem_of_lookup copied)
    · obtain ⟨field, -, -, free⟩ := here
      exact scalarRefusal_none free

/-- An entry that an import takes is inserted, and nothing is reported of it. -/
theorem fate_of_clean (kind : TableKind) (absent : name ∉ present)
    (named : validateServiceName name = .ok ()) (clean : CleanEntry side token fields) :
    ∃ entry, importedEntry side token fields = .ok entry ∧
      serviceFate side present token (name, .table kind fields) =
        .applied (entry.extend .header (taken scalarRefusal fields (otherServiceKeys side))) [] := by
  obtain ⟨entry, made⟩ := clean.made
  have known : unknown side.serviceImportKeys.has (.service name) fields = [] := by
    apply unknown_nil
    intro key item found
    apply has_serviceImportKeys.mpr
    rcases clean.others key item found with main | other
    · exact Or.inl main
    · obtain ⟨field, listed, same, -⟩ := other
      exact Or.inr ((has_iff _).mpr ⟨field, listed, same⟩)
  refine ⟨entry, made, ?_⟩
  simp only [serviceFate, absent, if_false, named, Item.asTableLike, made, known, List.nil_append,
    refused_nil (takesAll_others clean)]

/-- A table of services is copied whole. -/
theorem mirrors_services {fate : String × Item → ServiceFate} (formed : services.wellFormed = true)
    (fresh : fate = serviceFate side [] token) (clean : CleanServices side token services) :
    services.Mirrors (Toml.Entries.extend [] .header (insertedServices fate services)) := by
  subst fresh
  have nodup := ((Toml.Entries.wellFormed_iff services).mp formed).1
  intro name
  cases found : services.lookup name with
  | none =>
    rw [Toml.Entries.lookup_extend_of_not_mem]
    · exact .none
    · intro member
      obtain ⟨e, listed, same⟩ := List.mem_map.mp member
      obtain ⟨e', held, made⟩ := List.mem_filterMap.mp listed
      obtain ⟨entry, -, made⟩ := Option.map_eq_some_iff.mp made
      cases made
      obtain ⟨item, there⟩ := exists_lookup held
      rw [show e'.1 = name from same, found] at there
      cases there
  | some item =>
    obtain ⟨named, kind, fields, rfl, inside⟩ := clean name item found
    obtain ⟨entry, made, same⟩ := fate_of_clean kind List.not_mem_nil named inside
    have given : (serviceFate side [] token (name, .table kind fields)).entry = some
        (entry.extend .header (taken scalarRefusal fields (otherServiceKeys side))) := by
      rw [same]
      rfl
    rw [lookup_extend_inserted [] rfl nodup found given]
    have copied : (entry.extend .header
        (taken scalarRefusal fields (otherServiceKeys side))).wellFormed = true := by
      apply Toml.Entries.wellFormed_extend (formed_document.mp (formed_importedEntry made))
      intro e listed
      exact Item.wellFormed_scalar (scalar_taken scalarRefusal_none e listed)
    have whole := Toml.Entries.wellFormed_of_lookup formed found
    exact .some (Toml.Entries.Mirrors.table whole copied (mirrors_entry made inside))

end Services

section Transport

variable {Text : Type} {env : Env Text} {table entries transport : Entries} {key : String}

theorem ensureTable_absent (absent : entries.lookup key = none) :
    ensureTable env .header entries key = .ok (.header, []) := by
  unfold ensureTable
  rw [absent]
  rfl

theorem lookup_takenType {e : String × Item} (member : e ∈ takenType table) :
    table.lookup e.1 = some e.2 := by
  unfold takenType at member
  split at member
  · next s str =>
    split at member
    · obtain ⟨item, found, same⟩ := Option.bind_eq_some_iff.mp str
      rw [List.mem_singleton.mp member, found]
      cases item with
      | string s' =>
        cases same
        rfl
      | _ => cases same
    · cases member
  · cases member

theorem not_mem_takenType (absent : table.lookup key = none) :
    key ∉ (takenType table).map Prod.fst := by
  intro member
  obtain ⟨e, held, rfl⟩ := List.mem_map.mp member
  rw [lookup_takenType held] at absent
  cases absent

theorem type_not_sub : "type" ∉ transportImportSubkeys.map Prod.fst := by decide

/-- The type of a transport that is copied whole. -/
theorem lookup_type (clean : CleanTransport table)
    (other : key ∉ transportImportSubkeys.map Prod.fst) :
    (Toml.Entries.extend [] .header (takenType table)).lookup key = table.lookup key := by
  cases found : table.lookup key with
  | none =>
    rw [Toml.Entries.lookup_extend_of_not_mem (not_mem_takenType found)]
    rfl
  | some item =>
    rcases clean key item found with ⟨rfl, taken⟩ | ⟨sub, listed, same, -⟩
    · rw [taken]
      rfl
    · exact absurd (same ▸ List.mem_map_of_mem listed) other

theorem absent_sub {sub : String × ImportKeys} (listed : sub ∈ transportImportSubkeys) :
    (Toml.Entries.extend [] .header (takenType table)).lookup sub.1 = none := by
  rw [Toml.Entries.lookup_extend_of_not_mem]
  · rfl
  · intro member
    obtain ⟨e, held, same⟩ := List.mem_map.mp member
    have type : e.1 = "type" := ((mem_takenType (lookup_takenType held)).mp held).1
    apply type_not_sub
    rw [← type, same]
    exact List.mem_map_of_mem listed

/-- A transport is copied whole. -/
theorem mirrors_transport (formed : table.wellFormed = true) (clean : CleanTransport table)
    (copied : ∀ sub ∈ transportImportSubkeys, Copied env table .header
      (Toml.Entries.extend [] .header (takenType table)) transport sub)
    (frame : ∀ key, key ∉ transportImportSubkeys.map Prod.fst → transport.lookup key =
      (Toml.Entries.extend [] .header (takenType table)).lookup key) :
    table.Mirrors transport := by
  intro key
  by_cases inside : key ∈ transportImportSubkeys.map Prod.fst
  · obtain ⟨sub, listed, rfl⟩ := List.mem_map.mp inside
    cases found : table.lookup sub.1 with
    | none =>
      rw [(copied sub listed).absent found, absent_sub listed]
      exact .none
    | some item =>
      rcases clean sub.1 item found with ⟨type, -⟩ | ⟨sub', listed', same, kind, fields, rfl, whole⟩
      · rw [type] at inside
        exact absurd inside type_not_sub
      · obtain rfl := sub_unique listed' listed same
        obtain ⟨inner, old, ensured, held⟩ := (copied sub' listed).table kind fields found
        rw [ensureTable_absent (absent_sub listed)] at ensured
        cases ensured
        rw [held]
        have source := Toml.Entries.wellFormed_of_lookup formed found
        have target : (Toml.Entries.extend [] .header
            (taken scalarRefusal fields sub'.2)).wellFormed = true := by
          apply Toml.Entries.wellFormed_extend rfl
          intro e member
          exact Item.wellFormed_scalar (scalar_taken scalarRefusal_none e member)
        exact .some (Toml.Entries.Mirrors.table source target
          (mirrors_taken (nodup_subkeys sub' listed) scalarRefusal_none whole))
  · rw [frame key inside, lookup_type clean inside]
    cases found : table.lookup key with
    | none => exact .none
    | some item =>
      rcases clean key item found with ⟨rfl, taken⟩ | ⟨sub, listed, same, -⟩
      · have scalar : item.isScalar = true := by
          have member : ("type", item) ∈ takenType table := by
            rw [taken]
            exact List.mem_singleton_self _
          exact scalar_takenType _ member
        exact .some (Item.mirror_scalar scalar)
      · exact absurd (same ▸ List.mem_map_of_mem listed) inside

theorem type_silent (clean : CleanTransport table) : typeNotices table = [] := by
  unfold typeNotices
  cases held : table.lookup "type" with
  | none => rfl
  | some item =>
    rcases clean "type" item held with ⟨-, taken⟩ | ⟨sub, listed, same, -⟩
    · unfold takenType at taken
      rw [held, Option.bind_some] at taken
      split at taken
      · next s str =>
        split at taken
        · next known => simp [str, known]
        · cases taken
      · cases taken
    · exact absurd (same ▸ List.mem_map_of_mem listed) type_not_sub

theorem sub_silent {sub : String × ImportKeys} (clean : CleanTransport table)
    (listed : sub ∈ transportImportSubkeys) : subNotices table sub = [] := by
  unfold subNotices tableNotices
  cases held : table.lookup sub.1 with
  | none => rfl
  | some item =>
    rcases clean sub.1 item held with ⟨type, -⟩ | ⟨sub', listed', same, kind, fields, rfl, inside⟩
    · exact absurd (type ▸ List.mem_map_of_mem listed) type_not_sub
    · obtain rfl := sub_unique listed' listed same
      have known : unknown sub'.2.has (.sub sub'.1) fields = [] := by
        apply unknown_nil
        intro key item there
        obtain ⟨field, member, own, -⟩ := inside key item there
        exact (has_iff _).mpr ⟨field, member, own⟩
      simp only [Item.asTableLike, known, List.nil_append]
      exact refused_nil (inside.takesAll (nodup_subkeys sub' listed))

/-- Nothing is reported of a transport that is copied whole. -/
theorem transport_silent {src : Entries} {side : ServiceSide} (clean : CleanSection side src) :
    transportNotices src = [] := by
  unfold transportNotices tableNotices
  cases found : src.lookup "transport" with
  | none => rfl
  | some item =>
    obtain ⟨kind, table, rfl, whole⟩ := clean.transport item found
    have known : unknown (fun k => decide (k ∈ transportImportKeys)) .transport table = [] := by
      apply unknown_nil
      intro key item held
      rw [decide_eq_true_eq, mem_transportImportKeys]
      rcases whole key item held with ⟨rfl, -⟩ | ⟨sub, listed, same, -⟩
      · exact Or.inl rfl
      · exact Or.inr (same ▸ List.mem_map_of_mem listed)
    have subs : transportImportSubkeys.flatMap (subNotices table) = [] :=
      List.flatMap_eq_nil_iff.mpr fun sub listed => sub_silent whole listed
    simp only [Item.asTableLike, known, type_silent whole, subs, List.append_nil]

end Transport

section Section_

variable {Text : Type} {env : Env Text} {side : ServiceSide} {src entries imported : Entries}
  {report : Imported}

/-- The section that an import starts from when the target has none. -/
def newSection : Entries := [("services", .table .header [])]

theorem importSubs_absent (env : Env Text) (side : ServiceSide) (src : Entries) (r : Imported)
    {subs : List (String × ImportKeys)} (nodup : (subs.map Prod.fst).Nodup)
    (absent : ∀ sub ∈ subs, entries.lookup sub.1 = none) : ∃ after report,
      subs.foldlM (importSub env (Level.label side .transport) src .header) (entries, r) =
        .ok (after, report) := by
  induction subs generalizing entries r with
  | nil => exact ⟨entries, r, rfl⟩
  | cons sub rest ih =>
    obtain ⟨fresh, later⟩ := List.nodup_cons.mp nodup
    rw [List.forall_mem_cons] at absent
    rw [List.foldlM_cons]
    cases found : src.lookup sub.1 with
    | none =>
      rw [importSub_absent found]
      exact ih _ later absent.2
    | some item =>
      cases like : item.asTableLike with
      | none =>
        rw [importSub_other found like]
        exact ih _ later absent.2
      | some pair =>
        obtain ⟨outer, table⟩ := pair
        rw [asTableLike_eq_some like] at found
        rw [importSub_table found (ensureTable_absent absent.1)]
        apply ih _ later
        intro s member
        have apart : s.1 ≠ sub.1 := fun met => fresh (met ▸ List.mem_map_of_mem member)
        rw [Toml.lookup_insertKey, if_neg apart]
        exact absent.2 s member

theorem importTransport_fresh (env : Env Text) (side : ServiceSide) (src : Entries) (r : Imported)
    (absent : entries.lookup "transport" = none) : ∃ after report,
    importTransport env side src .header (entries, r) = .ok (after, report) := by
  cases found : src.lookup "transport" with
  | none => exact ⟨_, _, importTransport_absent found⟩
  | some item =>
    cases like : item.asTableLike with
    | none => exact ⟨_, _, importTransport_other found like⟩
    | some pair =>
      obtain ⟨outer, table⟩ := pair
      rw [asTableLike_eq_some like] at found
      rw [importTransport_table found (ensureTable_absent absent)]
      have absents : ∀ sub ∈ transportImportSubkeys,
          (Toml.Entries.extend [] .header (takenType table)).lookup sub.1 = none :=
        fun sub listed => absent_sub listed
      obtain ⟨after, report, made⟩ := importSubs_absent env side table
        ({ r with transport := true }.note side
          (unknown (fun k => decide (k ∈ transportImportKeys)) .transport table ++
            typeNotices table)) (by decide) absents
      rw [made]
      exact ⟨_, _, rfl⟩

theorem importSection_new (env : Env Text) (side : ServiceSide) (src : Entries) : ∃ imported report,
    importSection env side src .header newSection = .ok (imported, report) := by
  unfold importSection
  rw [foldl_importGlobal]
  have free : ∀ key, key ∉ side.importGlobals.map Prod.fst →
      (newSection.extend .header (taken (globalRefusal side) src side.importGlobals)).lookup key =
        newSection.lookup key :=
    fun key other => Toml.Entries.lookup_extend_of_not_mem (not_mem_taken other)
  have absent := free "transport" (by cases side <;> decide)
  obtain ⟨after, report, transport⟩ := importTransport_fresh env side src
    (({ Imported.start with
      fields := Imported.start.fields ++
        (taken (globalRefusal side) src side.importGlobals).map Prod.fst }.note side
          (refused (globalRefusal side) .section_ src side.importGlobals)).ignoreUnknown
            (knownSectionKey side) (fun k => s!"{side.key}.{k}") src) absent
  have services := (importTransport_ok transport).2.2 "services" (by decide)
  rw [free "services" (by cases side <;> decide)] at services
  have ensured : ensureTable env .header after "services" = .ok (.header, []) := by
    unfold ensureTable
    rw [services]
    rfl
  dsimp only
  rw [transport]
  show ∃ imported report, importServices env side src .header (after, _) = .ok (imported, report)
  by_cases table : ∃ outer services, src.lookup "services" = some (.table outer services)
  · obtain ⟨outer, services, found⟩ := table
    exact ⟨_, _, importServices_table found ensured⟩
  · have other : ∀ outer services, src.lookup "services" ≠ some (.table outer services) :=
      fun outer services found => table ⟨outer, services, found⟩
    exact ⟨_, _, importServices_other other⟩

theorem not_global_services (side : ServiceSide) :
    "services" ∉ side.importGlobals.map Prod.fst := by
  cases side <;> decide

/-- The global fields of a section of which nothing is left out. -/
theorem lookup_newGlobals (clean : CleanSection side src) {key : String}
    (member : key ∈ side.importGlobals.map Prod.fst) :
    (withGlobals side src .header newSection).lookup key = src.lookup key := by
  apply lookup_extend_taken (nodup_globals side) globalRefusal_none clean.globals member
  have apart : key ≠ "services" := by
    intro same
    rw [same] at member
    exact not_global_services side member
  rw [newSection, Toml.lookup_cons_eq, if_neg apart]
  rfl

theorem sectionFate_new (clean : CleanSection side src) :
    sectionFate side (withGlobals side src .header newSection) =
      serviceFate side [] (hasDefaultToken src) := by
  have token : hasDefaultToken (withGlobals side src .header newSection) = hasDefaultToken src := by
    unfold hasDefaultToken
    rw [lookup_newGlobals clean (by cases side <;> decide)]
  have names : existingNames (withGlobals side src .header newSection) = [] := by
    unfold existingNames
    rw [lookup_withGlobals (not_global_services side)]
    rfl
  rw [sectionFate, token, names]

/-- The section that an import makes is a copy of the old one. -/
theorem mirrors_section (formed : src.wellFormed = true) (formed' : imported.wellFormed = true)
    (clean : CleanSection side src)
    (imports : SectionImported env side src .header newSection imported) : src.Mirrors imported := by
  intro key
  by_cases transport : key = "transport"
  · subst transport
    cases found : src.lookup "transport" with
    | none =>
      rw [imports.transport.other (by simp [found])]
      exact .none
    | some item =>
      obtain ⟨kind, table, rfl, whole⟩ := clean.transport item found
      obtain ⟨inner, old, copied, ensured, held, subs, frame⟩ :=
        imports.transport.table kind table found
      rw [ensureTable_absent rfl] at ensured
      cases ensured
      rw [held]
      exact .some (Toml.Entries.Mirrors.table (Toml.Entries.wellFormed_of_lookup formed found)
        (formed_of_lookup_table formed' held)
        (mirrors_transport (formed_of_lookup_table formed found) whole subs frame))
  by_cases services : key = "services"
  · subst services
    obtain ⟨kind, services, found, whole⟩ := clean.services
    obtain ⟨inner, old, ensured, held⟩ := imports.services.table kind services found
    have there : (withGlobals side src .header newSection).lookup "services" =
        some (.table .header []) := lookup_withGlobals (not_global_services side)
    cases ensured.symm.trans (ensureTable_of_lookup_table there rfl)
    have inside := formed_of_lookup_table formed found
    rw [found, held]
    exact .some (Toml.Entries.Mirrors.table (Toml.Entries.wellFormed_of_lookup formed found)
      (formed_of_lookup_table formed' held) (mirrors_services inside (sectionFate_new clean) whole))
  · have copied : imported.lookup key = src.lookup key := by
      rw [imports.others key transport services]
      by_cases member : key ∈ side.importGlobals.map Prod.fst
      · exact lookup_newGlobals clean member
      · rw [Toml.Entries.lookup_extend_of_not_mem (not_mem_taken member), newSection,
          Toml.lookup_cons_eq, if_neg services]
        cases found : src.lookup key with
        | none => rfl
        | some item =>
          rcases clean.known key item found with held | held | held
          · exact absurd held member
          · exact absurd held transport
          · exact absurd held services
    rw [copied]
    cases found : src.lookup key with
    | none => exact .none
    | some item =>
      have scalar : item.isScalar = true := by
        rcases clean.known key item found with held | held | held
        · obtain ⟨field, listed, rfl⟩ := List.mem_map.mp held
          exact globalRefusal_none (clean.globals field listed item found)
        · exact absurd held transport
        · exact absurd held services
      exact .some (Item.mirror_scalar scalar)

/-- An import that leaves nothing out reports nothing. -/
structure Imported.Silent (report : Imported) : Prop where
  ignored : report.ignored = []
  existing : report.existingServices = []
  invalid : report.invalidServices = []

theorem globals_silent (clean : CleanSection side src) : globalNotices side src = [] := by
  have known : unknown (knownSectionKey side) .section_ src = [] := by
    apply unknown_nil
    intro key item found
    unfold knownSectionKey
    rcases clean.known key item found with held | held | held
    · simp [(has_iff_mem _).mpr held]
    · simp [held]
    · simp [held]
  rw [globalNotices, refused_nil clean.globals, known, List.append_nil]

theorem silent_services {r : Imported} {services : Entries} {fate : String × Item → ServiceFate}
    (applied : ∀ e ∈ services, ∃ entry, fate e = .applied entry []) (silent : r.Silent) :
    (reportServices fate side services r).Silent := by
  have existing : (services.filter fun e => (fate e).isExisting) = [] := by
    rw [List.filter_eq_nil_iff]
    intro e member
    obtain ⟨entry, same⟩ := applied e member
    rw [same]
    exact Bool.false_ne_true
  have invalid : (services.filterMap fun e => (fate e).reason.map fun reason => (e.1, reason)) =
      [] := by
    rw [List.filterMap_eq_nil_iff]
    intro e member
    obtain ⟨entry, same⟩ := applied e member
    rw [same]
    rfl
  have notices : (services.flatMap fun e => (fate e).notices) = [] := by
    rw [List.flatMap_eq_nil_iff]
    intro e member
    obtain ⟨entry, same⟩ := applied e member
    rw [same]
    rfl
  constructor
  · simp [reportServices, notices, silent.ignored]
  · simp [reportServices, existing, silent.existing]
  · simp [reportServices, invalid, silent.invalid]

theorem section_silent (formed : src.wellFormed = true) (clean : CleanSection side src) :
    (servicesReport side src (withGlobals side src .header newSection)
      (headReport side src)).Silent := by
  obtain ⟨kind, services, found, whole⟩ := clean.services
  have head : (headReport side src).Silent := by
    constructor
    · simp [headReport, globals_silent clean, transport_silent clean]
    · rfl
    · rfl
  rw [servicesReport_table found, sectionFate_new clean]
  apply silent_services _ head
  intro e member
  have nodup := ((Toml.Entries.wellFormed_iff services).mp (formed_of_lookup_table formed found)).1
  obtain ⟨named, kind, fields, same, inside⟩ := whole e.1 e.2 (Toml.lookup_of_mem nodup member)
  obtain ⟨entry, -, fate⟩ := fate_of_clean kind List.not_mem_nil named inside
  rw [← same] at fate
  exact ⟨_, fate⟩

end Section_

/-- A configuration with one section, whose names and addresses the commands accept. -/
def Importable : ServiceSide → Config → Prop
  | .client, config => config.server = none ∧
      ∃ client, config.client = some client ∧ ClientNamed client
  | .server, config => config.client = none ∧
      ∃ server, config.server = some server ∧ ServerNamed server

section Source

variable {Text : Type} {env : Env Text} {text : Text} {config : Config} {side : ServiceSide}
  {doc : Entries} {key : String} {A : Type} {read : Toml.Value → Option A}

/-- The sections of a configuration are tables with tables for structures and strings for
enumerations. -/
def Plain (t : Toml.Table) : Prop :=
  ∀ side : ServiceSide, ∀ v, t.lookup side.key = some v → ∃ u, v = .table u ∧ PlainSection u

theorem section_of_read (side : ServiceSide) {a : A} (formed : doc.wellFormed = true)
    (plain : Plain doc.written) (found : Schema.optional doc.written side.key read = some (some a)) :
    ∃ (kind : TableKind) (src : Entries),
      doc.lookup side.key = some (.table kind src) ∧ src.wellFormed = true ∧
        PlainSection src.written ∧ read (.table src.written) = some a := by
  obtain ⟨v, there⟩ := Option.isSome_iff_exists.mp (optional_isSome found)
  obtain ⟨b, same, readable⟩ := optional_of_lookup found there
  cases same
  obtain ⟨u, rfl, inside⟩ := plain side v there
  obtain ⟨kind, src, held, rfl⟩ := Toml.Entries.table_of_written formed there
  exact ⟨kind, src, held, formed_of_lookup_table formed held, inside, readable⟩

theorem absent_of_read {a : Option A} (formed : doc.wellFormed = true)
    (found : Schema.optional doc.written key read = some a) (none : a.isNone = true) :
    doc.lookup key = Option.none := by
  rw [← Option.not_isSome_iff_eq_none, ← Toml.Entries.lookup_written_isSome formed,
    optional_isSome found, Option.isNone_iff_eq_none.mp none]
  exact Bool.false_ne_true

theorem clientNamed_iff {order : HashOrder} {before client : ClientConfig}
    (valid : Config.validateClientConfig order before = .ok client) :
    ClientNamed client ↔ ClientNamed before := by
  obtain ⟨-, same, fills⟩ := Config.validateClientConfig_iff.mp valid
  have addr : client.remoteAddr = before.remoteAddr := by rw [same]
  constructor
  · intro named
    have filled : ∀ name s, before.services.lookup name = some s →
        client.services.lookup name = some (Config.fillClient before name s) := by
      intro name s found
      rw [fills name, found]
      rfl
    refine ⟨addr ▸ named.addr, fun name s found => named.names name _ (filled name s found), ?_⟩
    intro name s found
    have host := named.hosts name _ (filled name s found)
    exact host
  · intro named
    refine ⟨addr ▸ named.addr, ?_, ?_⟩
    · intro name s found
      obtain ⟨own, held, -⟩ := Config.lookup_fills fills found
      exact named.names name own held
    · intro name s found
      obtain ⟨own, held, filled⟩ := Config.lookup_fills fills found
      rw [filled]
      exact named.hosts name own held

theorem serverNamed_iff {order : HashOrder} {before server : ServerConfig}
    (valid : Config.validateServerConfig order before = .ok server) :
    ServerNamed server ↔ ServerNamed before := by
  obtain ⟨-, same, fills⟩ := Config.validateServerConfig_iff.mp valid
  have addr : server.bindAddr = before.bindAddr := by rw [same]
  constructor
  · intro named
    have filled : ∀ name s, before.services.lookup name = some s →
        server.services.lookup name = some (Config.fillServer before.defaultToken name s) := by
      intro name s found
      rw [fills name, found]
      rfl
    refine ⟨addr ▸ named.addr, fun name s found => named.names name _ (filled name s found), ?_⟩
    intro name s found
    have host := named.hosts name _ (filled name s found)
    exact host
  · intro named
    refine ⟨addr ▸ named.addr, ?_, ?_⟩
    · intro name s found
      obtain ⟨own, held, -⟩ := Config.lookup_fills fills found
      exact named.names name own held
    · intro name s found
      obtain ⟨own, held, filled⟩ := Config.lookup_fills fills found
      rw [filled]
      exact named.hosts name own held

/-- A document with one section, of which an import leaves nothing out. -/
structure CleanDocument (side : ServiceSide) (doc : Entries) : Prop where
  formed : doc.wellFormed = true
  alone : ∀ key item, doc.lookup key = some item → key = side.key
  own : ∃ kind src, doc.lookup side.key = some (.table kind src) ∧ CleanSection side src

theorem clean_of_load (lawful : env.crate.Lawful) (loaded : load env text = .ok config)
    (importable : Importable side config) (parsed : env.crate.parse text = .ok doc)
    (plain : ∀ t, env.crate.read text = .ok t → Plain t) : CleanDocument side doc := by
  obtain ⟨t, own, readable, found, accepted⟩ := load_iff.mp loaded
  have formed := lawful.wellFormed parsed
  have plain := plain t readable
  obtain rfl := lawful.read parsed readable
  obtain ⟨known, serverRead, clientRead⟩ := (Schema.config_iff own).mp found
  obtain ⟨server, client, -⟩ := Config.validateSections_iff.mp accepted
  have sides : ∀ key item, doc.lookup key = some item → key = "server" ∨ key = "client" := by
    intro key item held
    obtain ⟨v, -, there⟩ := exists_written formed held
    have allowed := known (key, v) (Toml.mem_of_lookup there)
    simpa using allowed
  cases side with
  | client =>
    obtain ⟨none, valid, same, named⟩ := importable
    have absent := absent_of_read formed serverRead
      (by rw [← Config.mapM_isNone server, none]; rfl)
    rw [same] at client
    obtain ⟨before, held, checked⟩ := Config.mapM_ok client
    rw [held] at clientRead
    obtain ⟨kind, src, there, inside, tabular, read⟩ :=
      section_of_read .client formed plain clientRead
    have accepted := (Config.validateClientConfig_iff.mp checked).1
    refine ⟨formed, ?_, kind, src, there, clean_client inside tabular
      ((Schema.client_iff before).mp read) accepted ((clientNamed_iff checked).mp named)⟩
    intro key item held
    rcases sides key item held with rfl | rfl
    · cases absent.symm.trans held
    · rfl
  | server =>
    obtain ⟨none, valid, same, named⟩ := importable
    have absent := absent_of_read formed clientRead
      (by rw [← Config.mapM_isNone client, none]; rfl)
    rw [same] at server
    obtain ⟨before, held, checked⟩ := Config.mapM_ok server
    rw [held] at serverRead
    obtain ⟨kind, src, there, inside, tabular, read⟩ :=
      section_of_read .server formed plain serverRead
    have accepted := (Config.validateServerConfig_iff.mp checked).1
    refine ⟨formed, ?_, kind, src, there, clean_server inside tabular
      ((Schema.server_iff before).mp read) accepted ((serverNamed_iff checked).mp named)⟩
    intro key item held
    rcases sides key item held with rfl | rfl
    · rfl
    · cases absent.symm.trans held

theorem detectRole_of_alone (alone : ∀ key item, doc.lookup key = some item → key = side.key)
    (own : (doc.lookup side.key).isSome = true) :
    ∃ role : ServiceRole, detectRole doc = .ok role ∧ role.side = side := by
  have other : ∀ key, key ≠ side.key → (doc.lookup key).isSome = false := by
    intro key apart
    cases found : doc.lookup key with
    | none => rfl
    | some item => exact absurd (alone key item found) apart
  unfold detectRole
  cases side with
  | client =>
    rw [show (doc.lookup "client").isSome = true from own, other "server" (by decide)]
    exact ⟨.client, rfl, rfl⟩
  | server =>
    rw [show (doc.lookup "server").isSome = true from own, other "client" (by decide)]
    exact ⟨.server, rfl, rfl⟩

theorem lookup_newDocument (imported : Entries) (key : String) :
    (importedDocument [] side .header imported).lookup key =
      if key = side.key then some (.table .header imported) else none := by
  rw [importedDocument, Toml.lookup_insertKey]
  by_cases own : key = side.key
  · rw [if_pos own, if_pos own]
  · rw [if_neg own, if_neg own]
    show List.lookup key [(side.key, Item.table .header [("services", .table .header [])])] = none
    rw [Toml.lookup_cons_eq, if_neg own]
    rfl

/-- The document that an import makes of a missing configuration is a copy of the old one. -/
theorem mirrors_document {outer : TableKind} {src imported : Entries} (clean : CleanDocument side doc)
    (held : doc.lookup side.key = some (.table outer src)) (formed : imported.wellFormed = true)
    (mirrors : src.Mirrors imported) : doc.Mirrors (importedDocument [] side .header imported) := by
  intro key
  rw [lookup_newDocument]
  by_cases own : key = side.key
  · rw [if_pos own, own, held]
    exact .some (Toml.Entries.Mirrors.table (Toml.Entries.wellFormed_of_lookup clean.formed held)
      formed mirrors)
  · rw [if_neg own]
    cases found : doc.lookup key with
    | none => exact .none
    | some item => exact absurd (clean.alone key item found) own

/-- What a text is read as has every key once when it has a document. -/
theorem unique_of_parse {t : Toml.Table} (lawful : env.crate.Lawful)
    (parsed : env.crate.parse text = .ok doc) (readable : env.crate.read text = .ok t) :
    Toml.Table.Unique t := by
  rw [lawful.read parsed readable]
  exact Toml.Entries.unique_written doc (lawful.wellFormed parsed)

/-- A copy is written, and it loads as what it is a copy of. -/
theorem load_of_mirrors (lawful : env.crate.Lawful) (prints : env.crate.Prints)
    (writes : env.crate.Writes) (loaded : load env text = .ok config)
    (parsed : env.crate.parse text = .ok doc) {copy : Entries} (formed : copy.wellFormed = true)
    (mirrors : doc.Mirrors copy) (created : Bool) :
    load env (env.crate.print copy) = .ok config ∧
      load env (render env copy created) = .ok config := by
  obtain ⟨t, own, readable, found, accepted⟩ := load_iff.mp loaded
  have formedDoc := lawful.wellFormed parsed
  obtain ⟨t', readable'⟩ := writes.writes formed (mirrors.headed formed)
  obtain ⟨doc', parsed'⟩ := prints.parsed formed readable'
  have same : Table.Same t t' := by
    rw [lawful.read parsed readable]
    exact (mirrors.same formedDoc formed).trans (prints.printed formed readable').symm
  rw [Schema.config_same (unique_of_parse lawful parsed readable)
    (unique_of_parse lawful parsed' readable') same] at found
  constructor
  · exact load_iff.mpr ⟨t', own, readable', found, accepted⟩
  · exact load_iff.mpr ⟨t', own, read_render prints created readable', found, accepted⟩

/-- An import into a missing configuration takes all of the old one: nothing of it is reported, and
the new file loads as the old one does. -/
def ImportsWhole (env : Env Text) (source : String) (text : Text) (side : ServiceSide)
    (config : Config) : Prop :=
  ∃ after report, runImport env source (.ok text) none = .ok (after, side, report) ∧
    report.ignored = [] ∧ report.existingServices = [] ∧ report.invalidServices = [] ∧
    load env after = .ok config

/-- The structures of the old file are tables and its enumerations strings, and the parser takes it
as the loader does: then the import takes all of it. -/
theorem import_fresh (lawful : env.crate.Lawful) (prints : env.crate.Prints)
    (writes : env.crate.Writes) (source : String) (loaded : load env text = .ok config)
    (importable : Importable side config) (parses : ∃ doc, env.crate.parse text = .ok doc)
    (plain : ∀ t, env.crate.read text = .ok t → Plain t) :
    ImportsWhole env source text side config := by
  obtain ⟨doc, parsed⟩ := parses
  have clean := clean_of_load lawful loaded importable parsed plain
  obtain ⟨outer, src, held, whole⟩ := clean.own
  have inside := formed_of_lookup_table clean.formed held
  obtain ⟨imported, report, imports⟩ := importSection_new env side src
  obtain ⟨copied, reported⟩ := importSection_ok imports
  have formed : imported.wellFormed = true := formed_document.mp (formed_importSection rfl imports)
  have mirrors := mirrors_document clean held formed (mirrors_section inside formed whole copied)
  have made : (importedDocument [] side .header imported).wellFormed = true := by
    apply formed_document.mp
    apply Formed.insertKey
    · exact (opens_withImportSection [] side).formed rfl
    · exact formed_document.mpr formed
  obtain ⟨printed, written⟩ := load_of_mirrors lawful prints writes loaded parsed made mirrors true
  obtain ⟨role, detected, same⟩ := detectRole_of_alone clean.alone (by rw [held]; rfl)
  obtain ⟨a, address⟩ := whole.address
  have silent : report.Silent := by
    rw [reported]
    exact section_silent inside whole
  refine ⟨render env (importedDocument [] side .header imported) true, report,
    runImport_iff.mpr ⟨doc, src, [], .header, newSection, imported, ?_⟩, silent.ignored,
    silent.existing, silent.invalid, written⟩
  constructor
  · exact ⟨text, rfl, parsed⟩
  · exact ⟨role, detected, same⟩
  · exact ⟨outer, held⟩
  · rfl
  · cases side <;> rfl
  · intro _
    rw [address]
    rfl
  · cases side <;> rfl
  · exact imports
  · rw [validate, printed]
    rfl
  · rfl

end Source

def headersEnv (order : HashOrder) : Env Entries := ⟨.headers, fun _ => none, order, "client.toml"⟩

/-- The client with the service `web`, as the loader reads it. -/
def webClientConfig : ClientConfig where
  remoteAddr := "example.com:2333"
  defaultToken := none
  preferIpv6 := none
  services := Finmap.insert "web" ⟨.tcp, "", "127.0.0.1:80", false, some "secret", none, none⟩ ∅
  transport := .default
  heartbeatTimeout := defaultHeartbeatTimeout
  retryInterval := defaultClientRetryInterval

/-- A text that is read so loads, and what it loads as is importable. -/
theorem load_webClient {Text : Type} {env : Env Text} {text : Text} {t : Toml.Table}
    (transport : TransportConfig)
    (checked : Config.validateTransportConfig transport false = .ok ())
    (readable : env.crate.read text = .ok t) (read : Schema.config env.parseUrl t =
      some ⟨none, some { webClientConfig with transport := transport }⟩) :
    ∃ config, load env text = .ok config ∧ Importable .client config := by
  have valid : ∃ client, Config.validateClientConfig env.order
      { webClientConfig with transport := transport } = .ok client := by
    simp only [Config.validateClientConfig, webClientConfig, HashOrder.entries_single, checked]
    exact ⟨_, rfl⟩
  obtain ⟨client, valid⟩ := valid
  have named : ClientNamed { webClientConfig with transport := transport } := by
    have only : ∀ name s, webClientConfig.services.lookup name = some s →
        name = "web" ∧ s.localAddr = "127.0.0.1:80" := by
      intro name s found
      rw [webClientConfig, lookup_insert_eq] at found
      by_cases web : name = "web"
      · rw [if_pos web] at found
        cases found
        exact ⟨web, rfl⟩
      · rw [if_neg web] at found
        cases found
    constructor
    · show validateHostPort "example.com:2333" "remote_addr" = .ok ()
      rfl
    · intro name s found
      rw [(only name s found).1]
      rfl
    · intro name s found
      rw [(only name s found).2]
      rfl
  refine ⟨⟨none, some client⟩, load_iff.mpr ⟨t, _, readable, read, ?_⟩, rfl, client, rfl,
    (clientNamed_iff valid).mpr named⟩
  apply Config.validateSections_iff.mpr
  refine ⟨rfl, ?_, by simp⟩
  rw [Option.mapM_some, valid]
  rfl

theorem load_secretWeb (order : HashOrder) : ∃ config,
    load (headersEnv order) (clientDocument secretWeb) = .ok config ∧ Importable .client config :=
  load_webClient .default rfl rfl rfl

theorem plain_secretWeb : Plain (clientDocument secretWeb).written := by
  intro side v found
  cases side with
  | server => cases found
  | client =>
    cases found
    refine ⟨_, rfl, fun v there => ?_, fun services name v listed held => ?_⟩
    · cases there
    · cases listed
      change List.lookup name [("web", Toml.Value.table
        [("local_addr", .string "127.0.0.1:80"), ("token", .string "secret")])] = some v at held
      rw [Toml.lookup_cons_eq] at held
      split at held
      · cases held
        exact ⟨_, rfl, fun w typed => by cases typed⟩
      · cases held

/-- A client with the service `web` is imported whole. -/
theorem web_imported_fresh : ∃ config,
    load (headersEnv .some) (clientDocument secretWeb) = .ok config ∧
    ImportsWhole (headersEnv .some) "old.toml" (clientDocument secretWeb) .client config := by
  obtain ⟨config, loaded, importable⟩ := load_secretWeb .some
  refine ⟨config, loaded, import_fresh Toml.Crate.headers_lawful Toml.Crate.headers_prints
    Toml.Crate.headers_writes "old.toml" loaded importable ⟨clientDocument secretWeb, rfl⟩ ?_⟩
  intro t readable
  cases readable
  exact plain_secretWeb

/-- The client with the service `web`, and a structure of its transport as an array. -/
def arrayDocument : Entries :=
  [("client", .table .header [("remote_addr", .string "example.com:2333"),
    ("services", .table .header secretWeb),
    ("transport", .table .header [("type", .string "tcp"), ("websocket", .array [.boolean true])])])]

theorem array_ignored (order : HashOrder) {after : Entries} {side : ServiceSide}
    {report : Imported} (ran : runImport (treeEnv order) "old.toml" (.ok arrayDocument) none =
      .ok (after, side, report)) : report.ignored ≠ [] := by
  have made : ∃ (text : Except String Entries) (own : Imported), own.ignored ≠ [] ∧
      runImport (treeEnv order) "old.toml" (.ok arrayDocument) none =
        (text >>= fun text => .ok (text, .client, own)) := by
    refine ⟨_, _, ?_, rfl⟩
    decide
  obtain ⟨text, own, listed, made⟩ := made
  obtain ⟨written, -, same⟩ := bind_ok (made.symm.trans ran)
  cases same
  exact listed

/-- A structure that is an array is reported as ignored, and a text that the parser does not take is
not imported at all. -/
theorem not_imported_whole :
    (¬ ∀ (env : Env Entries) (text : Entries) (config : Config) (side : ServiceSide),
      env.crate.Lawful → env.crate.Prints → env.crate.Writes → load env text = .ok config →
      Importable side config → (∃ doc, env.crate.parse text = .ok doc) →
      ImportsWhole env "old.toml" text side config) ∧
    ¬ ∀ (env : Env (Entries × Bool)) (text : Entries × Bool) (config : Config)
      (side : ServiceSide), env.crate.Lawful → env.crate.Prints → env.crate.Writes →
      load env text = .ok config → Importable side config →
      (∀ t, env.crate.read text = .ok t → Plain t) →
      ImportsWhole env "old.toml" text side config := by
  constructor
  · intro whole
    obtain ⟨config, loaded, importable⟩ : ∃ config,
        load (treeEnv .some) arrayDocument = .ok config ∧ Importable .client config :=
      load_webClient ⟨.tcp, .default, none, none, some ⟨true⟩⟩ rfl rfl rfl
    obtain ⟨after, report, ran, ignored, -⟩ := whole _ _ _ _ Toml.Crate.tree_lawful
      Toml.Crate.tree_prints Toml.Crate.tree_writes loaded importable ⟨arrayDocument, rfl⟩
    exact array_ignored .some ran ignored
  · intro whole
    let env : Env (Entries × Bool) := ⟨.commented, fun _ => none, .some, "client.toml"⟩
    obtain ⟨config, loaded, importable⟩ : ∃ config,
        load env (clientDocument secretWeb, true) = .ok config ∧ Importable .client config :=
      load_webClient .default rfl rfl rfl
    obtain ⟨after, report, ran, -⟩ := whole env _ _ _ Toml.Crate.commented_lawful
      Toml.Crate.commented_prints Toml.Crate.commented_writes loaded importable (by
        intro t readable
        cases readable
        exact plain_secretWeb)
    cases ran

end Rathole.ConfigEdit
