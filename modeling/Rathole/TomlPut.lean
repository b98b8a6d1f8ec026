import Rathole.TomlSame

set_option autoImplicit false

/- Values put at paths of a table, and the same done to a document. -/
namespace Toml

/-- The table at a key, an empty one when there is none. -/
def Table.inner (t : Table) (key : String) : Table :=
  match t.lookup key with
  | some (.table u) => u
  | _ => []

/-- A value at a path, in tables that are made where there are none. -/
def Table.put : Table → List String → Value → Table
  | t, [], _ => t
  | t, [key], v => insertKey t key v
  | t, key :: step :: path, v => insertKey t key (.table (put (t.inner key) (step :: path) v))

/-- One value after the other. -/
def Table.puts (t : Table) (values : List (List String × Value)) : Table :=
  values.foldl (fun t a => t.put a.1 a.2) t

/-- The values, in the table at a key. -/
def under (key : String) (values : List (List String × Value)) : List (List String × Value) :=
  values.map fun a => (key :: a.1, a.2)

/-- The entries as values of the table that they stand in. -/
def fieldsOf (items : Entries) : List (List String × Value) :=
  items.written.map fun e => ([e.1], e.2)

section Put

variable {t : Table} {key : String} {values : List (List String × Value)}

theorem puts_append (t : Table) (first second : List (List String × Value)) :
    t.puts (first ++ second) = (t.puts first).puts second := by
  unfold Table.puts
  rw [List.foldl_append]

theorem put_cons {path : List String} (deep : path ≠ []) (v : Value) :
    t.put (key :: path) v = insertKey t key (.table ((t.inner key).put path v)) := by
  cases path with
  | nil => exact absurd rfl deep
  | cons step path => rfl

theorem inner_insertKey (t u : Table) (key : String) :
    Table.inner (insertKey t key (.table u)) key = u := by
  simp [Table.inner, lookup_insertKey]

/-- Two keys deep. -/
theorem follow_inner (t : Table) (key other : String) :
    (Value.table t).follow [key, other] = (t.inner key).lookup other := by
  show (t.lookup key).bind (fun v => (v.child (.key other)).bind some) = _
  unfold Table.inner
  cases t.lookup key with
  | none => rfl
  | some v =>
    rw [Option.bind_some, Option.bind_fun_some]
    cases v <;> rfl

theorem insertKey_twice (t : Table) (key : String) (v w : Value) :
    insertKey (insertKey t key v) key w = insertKey t key w := by
  by_cases held : key ∈ t.map Prod.fst
  · have kept : key ∈ (insertKey t key v).map Prod.fst := by
      rw [map_fst_insertKey, if_pos held]
      exact held
    unfold insertKey at kept ⊢
    rw [if_pos held] at kept ⊢
    rw [if_pos kept, if_pos held, List.map_map]
    apply List.map_congr_left
    intro e _
    by_cases here : e.1 = key
    · simp [here]
    · simp [here]
  · have made : key ∈ (t ++ [(key, v)]).map Prod.fst := by simp
    unfold insertKey
    rw [if_neg held, if_pos made, if_neg held, List.map_append]
    have apart : t.map (fun e => if e.1 = key then (key, w) else e) = t.map id := by
      apply List.map_congr_left
      intro e there
      apply if_neg
      intro same
      exact held (same ▸ List.mem_map_of_mem there)
    rw [apart, List.map_id]
    simp

/-- Values in the table at one key. -/
theorem puts_under (filled : values ≠ []) (deep : ∀ a ∈ values, a.1 ≠ []) :
    t.puts (under key values) = insertKey t key (.table ((t.inner key).puts values)) := by
  induction values generalizing t with
  | nil => exact absurd rfl filled
  | cons a rest ih =>
    have first : t.put (key :: a.1) a.2 = insertKey t key (.table ((t.inner key).put a.1 a.2)) :=
      put_cons (deep a List.mem_cons_self) a.2
    show (t.put (key :: a.1) a.2).puts (under key rest) = _
    rw [first]
    by_cases last : rest = []
    · rw [last]
      rfl
    · rw [ih last fun b there => deep b (List.mem_cons_of_mem a there), inner_insertKey,
        insertKey_twice]
      rfl

/-- The other keys stay as they are. -/
theorem lookup_puts_other {other : String} (apart : ∀ a ∈ values, a.1.head? ≠ some other) :
    (t.puts values).lookup other = t.lookup other := by
  induction values generalizing t with
  | nil => rfl
  | cons a rest ih =>
    have first : (t.put a.1 a.2).lookup other = t.lookup other := by
      have here := apart a List.mem_cons_self
      obtain ⟨path, v⟩ := a
      cases path with
      | nil => rfl
      | cons step path =>
        have different : other ≠ step := by
          intro same
          rw [same] at here
          exact here rfl
        cases path with
        | nil => exact (lookup_insertKey t step other v).trans (if_neg different)
        | cons next path => exact (lookup_insertKey t step other _).trans (if_neg different)
    exact (ih fun b there => apart b (List.mem_cons_of_mem a there)).trans first

theorem fieldsOf_deep (items : Entries) : ∀ a ∈ fieldsOf items, a.1 ≠ [] := by
  intro a there
  obtain ⟨e, _, same⟩ := List.mem_map.mp there
  rw [← same]
  exact List.cons_ne_nil _ _

/-- Every field is one of the entries. -/
theorem path_fieldsOf {items : Entries} {a : List String × Value} (there : a ∈ fieldsOf items) :
    ∃ key ∈ items.map Prod.fst, a.1 = [key] := by
  obtain ⟨e, written, same⟩ := List.mem_map.mp there
  refine ⟨e.1, ?_, by rw [← same]⟩
  clear same there
  induction items with
  | nil => cases written
  | cons first rest ih =>
    rw [Entries.written_cons first.1 first.2] at written
    rw [List.map_cons, List.mem_cons]
    split at written
    · cases List.mem_cons.mp written with
      | inl here => exact Or.inl (congrArg Prod.fst here)
      | inr later => exact Or.inr (ih later)
    · exact Or.inr (ih written)

theorem under_deep (key : String) (values : List (List String × Value)) :
    ∀ a ∈ under key values, a.1 ≠ [] := by
  intro a there
  obtain ⟨b, _, same⟩ := List.mem_map.mp there
  rw [← same]
  exact List.cons_ne_nil _ _

end Put

namespace Table.Same

variable {t u : Table}

theorem inner (same : Table.Same t u) (key : String) : Table.Same (t.inner key) (u.inner key) := by
  intro other
  rw [← follow_inner, ← follow_inner]
  exact (same_table.mpr same).follow [key, other]

theorem insertKey (same : Table.Same t u) (key : String) {v w : Value} (equal : v.Same w) :
    Table.Same (Toml.insertKey t key v) (Toml.insertKey u key w) := by
  intro other
  rw [lookup_insertKey, lookup_insertKey]
  by_cases here : other = key
  · rw [if_pos here, if_pos here]
    exact .some equal
  · rw [if_neg here, if_neg here]
    exact same other

theorem removeKey (same : Table.Same t u) (key : String) :
    Table.Same (Toml.removeKey t key) (Toml.removeKey u key) := by
  intro other
  rw [lookup_removeKey, lookup_removeKey]
  by_cases here : other = key
  · rw [if_pos here, if_pos here]
    exact .none
  · rw [if_neg here, if_neg here]
    exact same other

theorem put (same : Table.Same t u) (path : List String) {v w : Value} (equal : v.Same w) :
    Table.Same (t.put path v) (u.put path w) := by
  induction path generalizing t u with
  | nil => exact same
  | cons key path ih =>
    by_cases last : path = []
    · rw [last]
      exact same.insertKey key equal
    · rw [put_cons last, put_cons last]
      exact same.insertKey key (same_table.mpr (ih (same.inner key)))

end Table.Same

/-- A new key goes out as it came in. -/
theorem removeKey_insertKey {t : Table} {key : String} (absent : t.lookup key = none) (v : Value) :
    Table.Same (removeKey (insertKey t key v) key) t := by
  intro other
  rw [lookup_removeKey, lookup_insertKey]
  by_cases here : other = key
  · rw [if_pos here, here, absent]
    exact .none
  · rw [if_neg here, if_neg here]
    exact .refl _

/-- A table that is put where it was. -/
theorem put_back {t u inside : Table} {key other : String} (held : t.lookup key = some (.table u))
    (found : u.lookup other = some (.table inside)) {v : Table} (same : Table.Same v inside) :
    Table.Same (t.put [key, other] (.table v)) t := by
  have back : ∀ {t u v : Table} {key : String}, t.lookup key = some (.table u) → Table.Same v u →
      Table.Same (insertKey t key (.table v)) t := by
    intro t u v key held same other
    rw [lookup_insertKey]
    by_cases here : other = key
    · rw [if_pos here, here, held]
      exact .some (same_table.mpr same)
    · rw [if_neg here]
      exact .refl _
  apply back held
  rw [Table.inner, held]
  exact back found same

/-- A new value goes out of the table that it was put into, and the rest is as it was. -/
theorem put_removed {t t' u inside : Table} {key other last : String} {v : Value}
    (held : t.lookup key = some (.table u)) (found : u.lookup other = some (.table inside))
    (absent : inside.lookup last = none) (same : Table.Same t' (t.put [key, other, last] v)) :
    Table.Same
      (t'.put [key, other] (.table (removeKey ((t'.inner key).inner other) last))) t := by
  have old : (t.inner key).inner other = inside := by
    rw [Table.inner, Table.inner, held]
    simp only [found]
  have put : t.put [key, other, last] v = insertKey t key (.table (insertKey (t.inner key) other
      (.table (insertKey inside last v)))) := by
    rw [← old]
    rfl
  have inner : ((t.put [key, other, last] v).inner key).inner other = insertKey inside last v := by
    rw [put, inner_insertKey, inner_insertKey]
  have gone : Table.Same (removeKey ((t'.inner key).inner other) last) inside := by
    apply ((same.inner key |>.inner other).removeKey last).trans
    rw [inner]
    exact removeKey_insertKey absent v
  apply (same.put [key, other] (same_table.mpr gone)).trans
  rw [put, Table.put, Table.put, inner_insertKey, insertKey_twice, insertKey_twice]
  exact put_back held found (.refl inside)

namespace Entries

variable {entries table : Entries} {t u : Table} {key : String} {kind : TableKind}

/-- An entry of the document is put at its key. -/
theorem same_insertKey {item : Item} {v w : Value} (formed : entries.wellFormed = true)
    (here : item.wellFormed = true) (shown : item.written = some v) (equal : v.Same w)
    (same : Table.Same entries.written t) :
    Table.Same (written (insertKey entries key item)) (insertKey t key w) := by
  intro other
  rw [lookup_written (wellFormed_insertKey formed here), lookup_insertKey, lookup_insertKey]
  by_cases this : other = key
  · rw [if_pos this, if_pos this, Option.bind_some, shown]
    exact .some equal
  · rw [if_neg this, if_neg this, ← lookup_written formed]
    exact same other

theorem scalar_written {item : Item} (scalar : item.isScalar = true) :
    ∃ v, item.written = some v :=
  Option.isSome_iff_exists.mp (written_isSome item (Item.wellFormed_scalar scalar))

theorem same_insert {item : Item} {v : Value} (kind : TableKind)
    (formed : entries.wellFormed = true) (scalar : item.isScalar = true)
    (shown : item.written = some v) (same : Table.Same entries.written t) :
    Table.Same (entries.insert kind key item).written (insertKey t key v) := by
  unfold insert
  rw [Item.ite_intoValue scalar]
  exact same_insertKey formed (Item.wellFormed_scalar scalar) shown (.refl v) same

/-- Scalars are put one after the other. -/
theorem same_extend {items : Entries} (kind : TableKind) (formed : entries.wellFormed = true)
    (scalar : ∀ e ∈ items, e.2.isScalar = true) (same : Table.Same entries.written t) :
    Table.Same (entries.extend kind items).written (t.puts (fieldsOf items)) := by
  induction items generalizing entries t with
  | nil => exact same
  | cons e rest ih =>
    have here := scalar e List.mem_cons_self
    obtain ⟨v, shown⟩ := scalar_written here
    have fields : fieldsOf (e :: rest) = ([e.1], v) :: fieldsOf rest := by
      unfold fieldsOf
      rw [written_cons e.1 e.2 rest, shown]
      rfl
    rw [extend_cons, fields]
    apply ih
    · exact wellFormed_insert formed (Item.wellFormed_scalar here)
    · exact fun e' there => scalar e' (List.mem_cons_of_mem e there)
    · exact same_insert kind formed here shown same

/-- A table of the document is put at its key. -/
theorem same_insertKey_table (formed : entries.wellFormed = true)
    (here : (Item.table kind table).wellFormed = true) (inside : Table.Same table.written u)
    (same : Table.Same entries.written t) :
    Table.Same (written (insertKey entries key (.table kind table)))
      (insertKey t key (.table u)) := by
  have visible := written_isSome _ here
  have shown : (Item.table kind table).written = some (.table table.written) := by
    rw [written_table] at visible ⊢
    split at visible
    · next clear => rw [if_pos clear]
    · cases visible
  exact same_insertKey formed here shown (same_table.mpr inside) same

/-- A table of the text is one of the document. -/
theorem table_of_written (formed : entries.wellFormed = true)
    (found : entries.written.lookup key = some (.table u)) :
    ∃ (kind : TableKind) (inner : Entries),
      entries.lookup key = some (.table kind inner) ∧ u = inner.written := by
  rw [lookup_written formed] at found
  obtain ⟨item, held, shown⟩ := Option.bind_eq_some_iff.mp found
  cases item with
  | table kind inner =>
    rw [written_table] at shown
    split at shown
    · cases shown
      exact ⟨kind, inner, held, rfl⟩
    · cases shown
  | _ => cases shown

/-- What is put into a table of the document is put under its key. -/
theorem same_under {values : List (List String × Value)} (formed : entries.wellFormed = true)
    (here : (Item.table kind table).wellFormed = true) (filled : values ≠ [])
    (deep : ∀ a ∈ values, a.1 ≠ []) (inside : Table.Same table.written ((t.inner key).puts values))
    (same : Table.Same entries.written t) :
    Table.Same (written (insertKey entries key (.table kind table)))
      (t.puts (under key values)) := by
  rw [puts_under filled deep]
  exact same_insertKey_table formed here inside same

/-- The table that is there, or a new one. -/
theorem same_opened (made : TableKind) (formed : entries.wellFormed = true)
    (same : Table.Same entries.written t)
    (found : (entries.lookup key).getD (.table made []) = .table kind table) :
    Table.Same table.written (t.inner key) := by
  have here := same key
  rw [lookup_written formed] at here
  cases held : entries.lookup key with
  | none =>
    rw [held] at found here
    cases found
    rw [Table.inner]
    cases absent : t.lookup key with
    | none => exact .refl _
    | some v =>
      rw [absent] at here
      cases here
  | some item =>
    rw [held] at found
    have item : item = .table kind table := found
    rw [item] at held
    obtain ⟨u, found', inside⟩ := same.table (lookup_written_table formed held)
    rw [Table.inner, found']
    exact inside

end Entries

/-- A table that is printed when it is empty is such a table still when it is parsed again. -/
structure Crate.Stands {Text : Type} (crate : Crate Text) : Prop where
  stands : ∀ {doc doc' : Entries} {t : Table}, doc.wellFormed = true →
    crate.read (crate.print doc) = .ok t → crate.parse (crate.print doc) = .ok doc' →
    ∀ {path : List String} {kind : TableKind} {entries : Entries},
    (Item.table .header doc).follow path = some (.table kind entries) → kind.written = true →
    ∃ kind' entries', (Item.table .header doc').follow path = some (.table kind' entries') ∧
      kind'.written = true

theorem Crate.tree_stands : Crate.tree.Stands := by
  constructor
  intro doc doc' t formed readable parsed path kind entries found written
  have same : (if doc.wellFormed then Except.ok doc else Except.error "malformed") =
      Except.ok doc' := parsed
  rw [if_pos formed] at same
  cases same
  exact ⟨kind, entries, found, written⟩

end Toml
