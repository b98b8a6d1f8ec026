import Mathlib.Data.Fintype.EquivFin
import Rathole.Toml

set_option autoImplicit false

/- Values with the same keys and the same scalars, whatever the order of the keys, and what a
printed document is read as. -/
namespace Toml

inductive Step
  | key (name : String)
  | item (index : Nat)
  deriving DecidableEq

/-- What is seen of a value without going into it. -/
inductive Leaf
  | string (s : String)
  | integer (i : Int)
  | float (text : String)
  | boolean (b : Bool)
  | datetime (text : String)
  | array (length : Nat)
  | table
  deriving DecidableEq

namespace Value

def leaf : Value → Leaf
  | string s => .string s
  | integer i => .integer i
  | float text => .float text
  | boolean b => .boolean b
  | datetime text => .datetime text
  | array values => .array values.length
  | table _ => .table

def child : Value → Step → Option Value
  | array values, .item index => values[index]?
  | table entries, .key name => entries.lookup name
  | _, _ => none

def probe (v : Value) : List Step → Option Leaf
  | [] => some v.leaf
  | step :: path => (v.child step).bind fun w => w.probe path

/-- The same scalars at the same paths. -/
def Same (v w : Value) : Prop := ∀ path, v.probe path = w.probe path

theorem Same.refl (v : Value) : Same v v := fun _ => rfl

theorem Same.symm {v w : Value} (same : Same v w) : Same w v := fun path => (same path).symm

theorem Same.trans {u v w : Value} (first : Same u v) (second : Same v w) : Same u w :=
  fun path => (first path).trans (second path)

theorem Same.leaf {v w : Value} (same : Same v w) : v.leaf = w.leaf :=
  Option.some.inj (same [])

theorem Same.string {s : String} {v : Value} (same : Same (.string s) v) : v = .string s := by
  have leaf := same.leaf
  cases v <;> cases leaf
  rfl

theorem Same.integer {i : Int} {v : Value} (same : Same (.integer i) v) : v = .integer i := by
  have leaf := same.leaf
  cases v <;> cases leaf
  rfl

theorem Same.boolean {b : Bool} {v : Value} (same : Same (.boolean b) v) : v = .boolean b := by
  have leaf := same.leaf
  cases v <;> cases leaf
  rfl

theorem Same.exists_table {t : Table} {v : Value} (same : Same (.table t) v) :
    ∃ u, v = .table u := by
  have leaf := same.leaf
  cases v with
  | table u => exact ⟨u, rfl⟩
  | _ => cases leaf

end Value

/-- Nothing at either place, or the same. -/
abbrev SameAt : Option Value → Option Value → Prop := Option.Rel Value.Same

namespace SameAt

variable {x y z : Option Value}

theorem refl (x : Option Value) : SameAt x x := by
  cases x with
  | none => exact .none
  | some v => exact .some (.refl v)

theorem symm (same : SameAt x y) : SameAt y x := by
  cases same with
  | none => exact .none
  | some same => exact .some same.symm

theorem trans (first : SameAt x y) (second : SameAt y z) : SameAt x z := by
  cases first with
  | none => exact second
  | some first =>
    cases second with
    | some second => exact .some (first.trans second)

theorem isSome (same : SameAt x y) : x.isSome = y.isSome := by
  cases same <;> rfl

theorem leaf (same : SameAt x y) : x.map Value.leaf = y.map Value.leaf := by
  cases same with
  | none => rfl
  | some same => exact congrArg some same.leaf

theorem probe (same : SameAt x y) (path : List Step) :
    (x.bind fun v => v.probe path) = y.bind fun v => v.probe path := by
  cases same with
  | none => rfl
  | some same => exact same path

theorem bind {f g : Value → Option Value} (same : SameAt x y)
    (each : ∀ v w, v.Same w → SameAt (f v) (g w)) : SameAt (x.bind f) (y.bind g) := by
  cases same with
  | none => exact .none
  | some same => exact each _ _ same

theorem of_probe (same : ∀ path, (x.bind fun v => v.probe path) = y.bind fun v => v.probe path) :
    SameAt x y := by
  cases x with
  | none =>
    cases y with
    | none => exact .none
    | some w => cases same []
  | some v =>
    cases y with
    | none => cases same []
    | some w => exact .some same

end SameAt

/-- The same keys with the same values. -/
def Table.Same (t u : Table) : Prop := ∀ key, SameAt (t.lookup key) (u.lookup key)

theorem same_table {t u : Table} : (Value.table t).Same (.table u) ↔ Table.Same t u := by
  constructor
  · intro same key
    exact .of_probe fun path => same (.key key :: path)
  · intro same path
    cases path with
    | nil => rfl
    | cons step path =>
      cases step with
      | key name => exact (same name).probe path
      | item index => rfl

namespace Table.Same

variable {t u v : Table}

theorem refl (t : Table) : Table.Same t t := fun _ => .refl _

theorem symm (same : Table.Same t u) : Table.Same u t := fun key => (same key).symm

theorem trans (first : Table.Same t u) (second : Table.Same u v) : Table.Same t v :=
  fun key => (first key).trans (second key)

theorem string (same : Table.Same t u) {key s : String} (found : t.lookup key = some (.string s)) :
    u.lookup key = some (.string s) := by
  have at_key := same key
  rw [found] at at_key
  cases held : u.lookup key with
  | none =>
    rw [held] at at_key
    cases at_key
  | some w =>
    rw [held] at at_key
    cases at_key with
    | some here => rw [here.string]

theorem table (same : Table.Same t u) {key : String} {inner : Table}
    (found : t.lookup key = some (.table inner)) :
    ∃ other, u.lookup key = some (.table other) ∧ Table.Same inner other := by
  have at_key := same key
  rw [found] at at_key
  cases held : u.lookup key with
  | none =>
    rw [held] at at_key
    cases at_key
  | some w =>
    rw [held] at at_key
    cases at_key with
    | some here =>
      obtain ⟨other, rfl⟩ := here.exists_table
      exact ⟨other, rfl, same_table.mp here⟩

end Table.Same

theorem map_fst_insertKey {V : Type} (entries : List (String × V)) (key : String) (v : V) :
    (insertKey entries key v).map Prod.fst =
      if key ∈ entries.map Prod.fst then entries.map Prod.fst
      else entries.map Prod.fst ++ [key] := by
  unfold insertKey
  split
  · rw [List.map_map]
    apply List.map_congr_left
    intro e _
    by_cases same : e.1 = key
    · simp [same]
    · simp [same]
  · rw [List.map_append]
    rfl

theorem nodup_insertKey {V : Type} {entries : List (String × V)}
    (nodup : (entries.map Prod.fst).Nodup) (key : String) (v : V) :
    ((insertKey entries key v).map Prod.fst).Nodup := by
  rw [map_fst_insertKey]
  split
  · exact nodup
  · next absent =>
    rw [List.nodup_append]
    refine ⟨nodup, List.nodup_singleton _, ?_⟩
    intro a member b last same
    rw [List.mem_singleton.mp last] at same
    exact absent (same ▸ member)

theorem lookup_map_replace {V : Type} (entries : List (String × V)) (key other : String) (v : V) :
    (entries.map fun e => if e.1 = key then (key, v) else e).lookup other =
      if other = key then (if key ∈ entries.map Prod.fst then some v else none)
      else entries.lookup other := by
  induction entries with
  | nil => simp
  | cons e rest ih =>
    rw [List.map_cons, lookup_cons_eq, lookup_cons_eq, List.map_cons, ih]
    by_cases here : e.1 = key
    · rw [if_pos here, here, if_pos List.mem_cons_self]
      by_cases same : other = key
      · rw [if_pos same, if_pos same]
      · rw [if_neg same, if_neg same, if_neg same, if_neg same]
    · have keys : key ∈ e.1 :: rest.map Prod.fst ↔ key ∈ rest.map Prod.fst := by
        rw [List.mem_cons, or_iff_right (Ne.symm here)]
      rw [if_neg here]
      simp only [keys]
      by_cases same : other = key
      · have apart : other ≠ e.1 := fun met => here (met.symm.trans same)
        rw [if_neg apart, if_pos same, if_pos same]
      · rw [if_neg same, if_neg same]

theorem lookup_insertKey {V : Type} (entries : List (String × V)) (key other : String) (v : V) :
    (insertKey entries key v).lookup other =
      if other = key then some v else entries.lookup other := by
  unfold insertKey
  by_cases held : key ∈ entries.map Prod.fst
  · rw [if_pos held, lookup_map_replace, if_pos held]
  · rw [if_neg held, List.lookup_append, lookup_cons_eq, List.lookup_nil]
    by_cases same : other = key
    · have absent : entries.lookup key = none := by
        rw [← Option.not_isSome_iff_eq_none, lookup_isSome]
        exact held
      simp [same, absent]
    · rw [if_neg same, if_neg same, Option.or_none]

/-- An entry that is there already stays as it is. -/
theorem insertKey_self {V : Type} {entries : List (String × V)} {key : String} {v : V}
    (nodup : (entries.map Prod.fst).Nodup) (found : entries.lookup key = some v) :
    insertKey entries key v = entries := by
  unfold insertKey
  rw [if_pos (mem_keys_of_lookup found)]
  induction entries with
  | nil => rfl
  | cons e rest ih =>
    obtain ⟨fresh, later⟩ := List.nodup_cons.mp nodup
    rw [lookup_cons_eq] at found
    rw [List.map_cons]
    by_cases here : key = e.1
    · rw [if_pos here] at found
      cases found
      rw [if_pos here.symm]
      have unchanged : rest.map (fun x => if x.1 = key then (key, e.2) else x) = rest.map id := by
        apply List.map_congr_left
        intro x member
        apply if_neg
        intro same
        exact fresh (here ▸ same ▸ List.mem_map_of_mem member)
      rw [unchanged, List.map_id, here]
    · rw [if_neg here] at found
      rw [if_neg (Ne.symm here), ih later found]

theorem lookup_of_mem {V : Type} {entries : List (String × V)}
    (nodup : (entries.map Prod.fst).Nodup) {e : String × V} (member : e ∈ entries) :
    entries.lookup e.1 = some e.2 := by
  obtain ⟨v, found⟩ := Option.isSome_iff_exists.mp
    ((lookup_isSome entries e.1).mpr (List.mem_map_of_mem member))
  have same : (e.1, v) = e :=
    List.inj_on_of_nodup_map nodup (mem_of_lookup found) member rfl
  rw [found, ← same]

namespace Entries

theorem wellFormed_iff (entries : Entries) : wellFormed entries = true ↔
    (entries.map Prod.fst).Nodup ∧ ∀ e ∈ entries, e.2.wellFormed = true := by
  induction entries with
  | nil => simp [wellFormed, Item.wellFormed.wellFormedEntries]
  | cons e rest ih =>
    rw [wellFormed_cons e.1 e.2, ih, List.map_cons, List.nodup_cons, List.forall_mem_cons]
    tauto

theorem wellFormed_insertKey {entries : Entries} {key : String} {item : Item}
    (formed : entries.wellFormed = true) (here : item.wellFormed = true) :
    Entries.wellFormed (insertKey entries key item) = true := by
  rw [wellFormed_iff] at formed ⊢
  obtain ⟨nodup, each⟩ := formed
  constructor
  · exact nodup_insertKey nodup key item
  · intro e member
    unfold insertKey at member
    split at member
    · obtain ⟨x, listed, rfl⟩ := List.mem_map.mp member
      by_cases same : x.1 = key
      · rw [if_pos same]
        exact here
      · rw [if_neg same]
        exact each x listed
    · rcases List.mem_append.mp member with early | last
      · exact each e early
      · rw [List.mem_singleton.mp last]
        exact here

theorem insertKey_ne_nil (entries : Entries) (key : String) (item : Item) :
    insertKey entries key item ≠ [] := by
  rw [ne_nil_iff_lookup]
  refine ⟨key, ?_⟩
  rw [lookup_insertKey, if_pos rfl]
  rfl

theorem keys_intoEntries (entries : Entries) :
    (Item.intoValue.intoEntries entries).map Prod.fst = entries.map Prod.fst := by
  induction entries with
  | nil => rfl
  | cons e rest ih =>
    show e.1 :: (Item.intoValue.intoEntries rest).map Prod.fst = e.1 :: rest.map Prod.fst
    rw [ih]

mutual

theorem wellFormed_intoValue (item : Item) (formed : item.wellFormed = true) :
    item.intoValue.wellFormed = true := by
  cases item with
  | table kind entries =>
    have inner := ((wellFormed_table kind entries).mp formed).2
    exact (wellFormed_table .inline _).mpr ⟨Or.inl rfl, wellFormed_intoEntries entries inner⟩
  | array items => exact wellFormed_intoItems items formed
  | _ => rfl

theorem wellFormed_intoItems (items : List Item)
    (formed : Item.wellFormed.wellFormedItems items = true) :
    Item.wellFormed.wellFormedItems (Item.intoValue.intoItems items) = true := by
  cases items with
  | nil => rfl
  | cons item rest =>
    have both : (item.wellFormed && Item.wellFormed.wellFormedItems rest) = true := formed
    rw [Bool.and_eq_true] at both
    show (item.intoValue.wellFormed && Item.wellFormed.wellFormedItems _) = true
    rw [wellFormed_intoValue item both.1, wellFormed_intoItems rest both.2]
    rfl

theorem wellFormed_intoEntries (entries : Entries) (formed : Entries.wellFormed entries = true) :
    Entries.wellFormed (Item.intoValue.intoEntries entries) = true := by
  cases entries with
  | nil => rfl
  | cons e rest =>
    obtain ⟨fresh, here, later⟩ := (wellFormed_cons e.1 e.2 rest).mp formed
    apply (wellFormed_cons e.1 e.2.intoValue (Item.intoValue.intoEntries rest)).mpr
    rw [keys_intoEntries]
    exact ⟨fresh, wellFormed_intoValue e.2 here, wellFormed_intoEntries rest later⟩

end

theorem wellFormed_insert {entries : Entries} {kind : TableKind} {key : String} {item : Item}
    (formed : entries.wellFormed = true) (here : item.wellFormed = true) :
    (entries.insert kind key item).wellFormed = true := by
  apply wellFormed_insertKey formed
  split
  · exact wellFormed_intoValue item here
  · exact here

/-- One entry after the other. -/
def extend (entries : Entries) (kind : TableKind) (news : Entries) : Entries :=
  news.foldl (fun entries e => entries.insert kind e.1 e.2) entries

theorem extend_cons (entries : Entries) (kind : TableKind) (e : String × Item) (news : Entries) :
    entries.extend kind (e :: news) = (entries.insert kind e.1 e.2).extend kind news := rfl

theorem wellFormed_extend {entries news : Entries} {kind : TableKind}
    (formed : entries.wellFormed = true) (each : ∀ e ∈ news, e.2.wellFormed = true) :
    (entries.extend kind news).wellFormed = true := by
  induction news generalizing entries with
  | nil => exact formed
  | cons e news ih =>
    rw [List.forall_mem_cons] at each
    exact ih (wellFormed_insert formed each.1) each.2

theorem lookup_insert (entries : Entries) (kind : TableKind) (key other : String) (item : Item) :
    (entries.insert kind key item).lookup other =
      if other = key then some (if kind.isInline then item.intoValue else item)
      else entries.lookup other :=
  lookup_insertKey entries key other _

theorem lookup_extend_of_not_mem {entries news : Entries} {kind : TableKind} {key : String}
    (absent : key ∉ news.map Prod.fst) :
    (entries.extend kind news).lookup key = entries.lookup key := by
  induction news generalizing entries with
  | nil => rfl
  | cons e news ih =>
    rw [List.map_cons, List.mem_cons, not_or] at absent
    rw [extend_cons, ih absent.2, lookup_insert, if_neg absent.1]

/-- With distinct keys, what is inserted stays. -/
theorem lookup_extend_of_mem {entries news : Entries} {kind : TableKind} {key : String}
    {item : Item} (nodup : (news.map Prod.fst).Nodup) (member : (key, item) ∈ news) :
    (entries.extend kind news).lookup key =
      some (if kind.isInline then item.intoValue else item) := by
  induction news generalizing entries with
  | nil => cases member
  | cons e news ih =>
    obtain ⟨fresh, later⟩ := List.nodup_cons.mp nodup
    rw [extend_cons]
    rcases List.mem_cons.mp member with rfl | member
    · rw [lookup_extend_of_not_mem fresh, lookup_insert, if_pos rfl]
    · exact ih later member

theorem isSome_lookup_extend {entries news : Entries} {kind : TableKind} {key : String} :
    ((entries.extend kind news).lookup key).isSome = true ↔
      (entries.lookup key).isSome = true ∨ key ∈ news.map Prod.fst := by
  induction news generalizing entries with
  | nil => simp [extend]
  | cons e news ih =>
    rw [extend_cons, ih, lookup_insert, List.map_cons, List.mem_cons]
    by_cases same : key = e.1
    · simp [same]
    · simp [same]

/-- Entries that are there already change nothing. -/
theorem extend_self {entries news : Entries} {kind : TableKind}
    (nodup : (entries.map Prod.fst).Nodup)
    (there : ∀ e ∈ news, entries.lookup e.1 =
      some (if kind.isInline then e.2.intoValue else e.2)) :
    entries.extend kind news = entries := by
  induction news with
  | nil => rfl
  | cons e news ih =>
    rw [extend_cons, insert, insertKey_self nodup (there e List.mem_cons_self)]
    exact ih fun e member => there e (.tail _ member)

end Entries

/-- What is at the end of a path of keys. -/
def Value.follow : List String → Value → Option Value
  | [], v => some v
  | key :: path, v => (v.child (.key key)).bind (follow path)

def Item.follow : List String → Item → Option Item
  | [], item => some item
  | key :: path, item => (item.get key).bind (follow path)

theorem Value.Same.follow {v w : Value} (same : Same v w) (path : List String) :
    SameAt (v.follow path) (w.follow path) := by
  induction path generalizing v w with
  | nil => exact .some same
  | cons key path ih =>
    have children : SameAt (v.child (.key key)) (w.child (.key key)) :=
      .of_probe fun path => same (.key key :: path)
    exact children.bind fun _ _ same => ih same

namespace Item

theorem child_written {item : Item} {v : Value} (formed : item.wellFormed = true)
    (shown : item.written = some v) (key : String) :
    v.child (.key key) = (item.get key).bind Item.written := by
  cases item with
  | table kind entries =>
    rw [Entries.written_table] at shown
    split at shown
    · cases shown
      exact Entries.lookup_written ((Entries.wellFormed_table kind entries).mp formed).2 key
    · cases shown
  | _ =>
    cases shown
    rfl

theorem wellFormed_of_get {item inner : Item} {key : String} (formed : item.wellFormed = true)
    (found : item.get key = some inner) : inner.wellFormed = true := by
  cases item with
  | table kind entries =>
    exact Entries.wellFormed_of_lookup ((Entries.wellFormed_table kind entries).mp formed).2 found
  | _ => cases found

theorem wellFormed_of_follow {item inner : Item} {path : List String}
    (formed : item.wellFormed = true) (found : item.follow path = some inner) :
    inner.wellFormed = true := by
  induction path generalizing item with
  | nil =>
    cases found
    exact formed
  | cons key path ih =>
    obtain ⟨next, here, later⟩ := Option.bind_eq_some_iff.mp found
    exact ih (wellFormed_of_get formed here) later

/-- A path leads to the same place in the text and in the document. -/
theorem follow_written {item : Item} {v : Value} (formed : item.wellFormed = true)
    (shown : item.written = some v) (path : List String) :
    v.follow path = (item.follow path).bind Item.written := by
  induction path generalizing item v with
  | nil => exact shown.symm
  | cons key path ih =>
    show (v.child (.key key)).bind _ = ((item.get key).bind _).bind Item.written
    rw [child_written formed shown]
    cases found : item.get key with
    | none => rfl
    | some inner =>
      have inside := wellFormed_of_get formed found
      obtain ⟨w, print⟩ := Option.isSome_iff_exists.mp (Entries.written_isSome inner inside)
      rw [Option.bind_some, Option.bind_some, print]
      exact ih inside print

theorem isSome_follow_written {item : Item} {v : Value} (formed : item.wellFormed = true)
    (shown : item.written = some v) (path : List String) :
    (v.follow path).isSome = (item.follow path).isSome := by
  rw [follow_written formed shown]
  cases found : item.follow path with
  | none => rfl
  | some inner => exact Entries.written_isSome inner (wellFormed_of_follow formed found)

def isScalar : Item → Bool
  | string _ | integer _ | float _ | boolean _ | datetime _ => true
  | array _ | table _ _ => false

theorem wellFormed_scalar {item : Item} (scalar : item.isScalar = true) :
    item.wellFormed = true := by
  cases item <;> first | rfl | cases scalar

theorem intoValue_scalar {item : Item} (scalar : item.isScalar = true) : item.intoValue = item := by
  cases item <;> first | rfl | cases scalar

theorem ite_intoValue {item : Item} (scalar : item.isScalar = true) (c : Prop) [Decidable c] :
    (if c then item.intoValue else item) = item := by
  rw [intoValue_scalar scalar, ite_self]

/-- A scalar is known by what it denotes. -/
theorem eq_of_written {item item' : Item} {v v' : Value} (scalar : item.isScalar = true)
    (shown : item.written = some v) (shown' : item'.written = some v') (same : v.Same v') :
    item' = item := by
  have leaf := same.leaf
  cases item with
  | table kind entries => cases scalar
  | array items => cases scalar
  | _ =>
    cases shown
    cases item' with
    | table kind entries =>
      rw [Entries.written_table] at shown'
      split at shown'
      · cases shown'
        cases leaf
      · cases shown'
    | _ =>
      cases shown'
      cases leaf <;> rfl

/-- Whether a table is in braces. -/
def inBraces (item : Item) : Option Bool := item.asTableLike.map fun table => table.1.isInline

end Item

/-- Two documents of the same text: the keys, the scalars, and where there are braces. -/
structure Entries.Alike (doc doc' : Entries) : Prop where
  formed : doc.wellFormed = true
  formed' : doc'.wellFormed = true
  same : Table.Same doc.written doc'.written
  braces : ∀ key path, (doc.lookup key).bind (fun item => (item.follow path).bind Item.inBraces) =
    (doc'.lookup key).bind fun item => (item.follow path).bind Item.inBraces

namespace Entries.Alike

variable {doc doc' : Entries} {key : String}

theorem symm (alike : Alike doc doc') : Alike doc' doc :=
  ⟨alike.formed', alike.formed, alike.same.symm, fun key path => (alike.braces key path).symm⟩

theorem sameAt (alike : Alike doc doc') (key : String) :
    SameAt ((doc.lookup key).bind Item.written) ((doc'.lookup key).bind Item.written) := by
  rw [← lookup_written alike.formed, ← lookup_written alike.formed']
  exact alike.same key

theorem lookup_isSome (alike : Alike doc doc') (key : String) :
    (doc.lookup key).isSome = (doc'.lookup key).isSome := by
  rw [← lookup_written_isSome alike.formed, ← lookup_written_isSome alike.formed']
  exact (alike.same key).isSome

theorem isSome_follow (alike : Alike doc doc') {kind kind' : TableKind} (key : String)
    (path : List String) : ((Item.table kind doc).follow (key :: path)).isSome =
      ((Item.table kind' doc').follow (key :: path)).isSome := by
  have shown : ∀ {entries : Entries}, entries.wellFormed = true →
      (Item.table .header entries).wellFormed = true :=
    fun formed => (wellFormed_table .header _).mpr ⟨Or.inl rfl, formed⟩
  have text := Item.isSome_follow_written (shown alike.formed) rfl (key :: path)
  have text' := Item.isSome_follow_written (shown alike.formed') rfl (key :: path)
  have same := ((same_table.mpr alike.same).follow (key :: path)).isSome
  exact text.symm.trans (same.trans text')

theorem scalar (alike : Alike doc doc') {item : Item} (found : doc.lookup key = some item)
    (scalar : item.isScalar = true) : doc'.lookup key = some item := by
  have present : (doc'.lookup key).isSome = true := by
    rw [← alike.lookup_isSome, found]
    rfl
  obtain ⟨item', found'⟩ := Option.isSome_iff_exists.mp present
  have here := alike.sameAt key
  have shown := written_isSome item (wellFormed_of_lookup alike.formed found)
  have shown' := written_isSome item' (wellFormed_of_lookup alike.formed' found')
  obtain ⟨v, print⟩ := Option.isSome_iff_exists.mp shown
  obtain ⟨v', print'⟩ := Option.isSome_iff_exists.mp shown'
  rw [found, found', Option.bind_some, Option.bind_some, print, print'] at here
  cases here with
  | some same => rw [found', Item.eq_of_written scalar print print' same]

theorem bind_asStr (alike : Alike doc doc') (key : String) :
    (doc.lookup key).bind Item.asStr = (doc'.lookup key).bind Item.asStr := by
  have seen : ∀ {doc doc' : Entries} {s : String}, Alike doc doc' →
      (doc.lookup key).bind Item.asStr = some s → (doc'.lookup key).bind Item.asStr = some s := by
    intro doc doc' s alike found
    obtain ⟨item, held, str⟩ := Option.bind_eq_some_iff.mp found
    cases item with
    | string s' =>
      rw [alike.scalar held rfl]
      exact str
    | _ => cases str
  apply Option.ext
  intro s
  exact ⟨seen alike, seen alike.symm⟩

theorem table (alike : Alike doc doc') {kind : TableKind} {inner : Entries}
    (found : doc.lookup key = some (.table kind inner)) : ∃ kind' inner',
      doc'.lookup key = some (.table kind' inner') ∧ kind'.isInline = kind.isInline ∧
        Alike inner inner' := by
  have formed := ((wellFormed_table kind inner).mp (wellFormed_of_lookup alike.formed found)).2
  have braces := alike.braces key []
  rw [found] at braces
  cases found' : doc'.lookup key with
  | none =>
    rw [found'] at braces
    cases braces
  | some item =>
    rw [found'] at braces
    cases item with
    | table kind' inner' =>
      have formed' := ((wellFormed_table kind' inner').mp
        (wellFormed_of_lookup alike.formed' found')).2
      refine ⟨kind', inner', rfl, (Option.some.inj braces).symm, formed, formed', ?_, ?_⟩
      · obtain ⟨other, there, same⟩ := alike.same.table (lookup_written_table alike.formed found)
        rw [lookup_written_table alike.formed' found'] at there
        cases there
        exact same
      · intro name path
        have inside := alike.braces key (name :: path)
        rw [found, found'] at inside
        show ((inner.lookup name).bind fun item => (item.follow path).bind Item.inBraces) =
          (inner'.lookup name).bind fun item => (item.follow path).bind Item.inBraces
        rw [← Option.bind_assoc, ← Option.bind_assoc]
        exact inside
    | _ => cases braces

end Entries.Alike

/-- A line with nothing but a comment in it. -/
def isComment (line : String) : Bool :=
  match line.toList with
  | '#' :: rest => rest.all fun c => decide (' ' ≤ c ∧ c ≠ '\x7f')
  | _ => false

/-- A printed document with nothing hidden that is read at all is read as what it denotes, up to the
order of the keys, and parses; it is read alike with comments in front of it. -/
structure Crate.Prints {Text : Type} (crate : Crate Text) : Prop where
  printed : ∀ {doc : Entries} {t : Table}, doc.wellFormed = true →
    crate.read (crate.print doc) = .ok t → Table.Same t doc.written
  parsed : ∀ {doc : Entries} {t : Table}, doc.wellFormed = true →
    crate.read (crate.print doc) = .ok t → ∃ doc', crate.parse (crate.print doc) = .ok doc'
  comments : ∀ {lines : List String}, (∀ line ∈ lines, isComment line = true) →
    ∀ {doc : Entries} {t : Table}, crate.read (crate.print doc) = .ok t →
    crate.read (crate.prepend (String.join (lines.map (· ++ "\n"))) (crate.print doc)) = .ok t

/-- A document that is printed and parsed again keeps its braces. -/
structure Crate.Styles {Text : Type} (crate : Crate Text) : Prop where
  braces : ∀ {doc doc' : Entries} {t : Table}, doc.wellFormed = true →
    crate.read (crate.print doc) = .ok t → crate.parse (crate.print doc) = .ok doc' →
    ∀ path, ((Item.table .header doc).follow path).bind Item.inBraces =
      ((Item.table .header doc').follow path).bind Item.inBraces

/-- A text that is parsed and printed is read as before. -/
theorem Crate.Lawful.reprinted {Text : Type} {crate : Crate Text} (lawful : crate.Lawful)
    {text : Text} {doc : Entries} {t : Table} (parsed : crate.parse text = .ok doc)
    (readable : crate.read text = .ok t) : crate.read (crate.print doc) = .ok t := by
  obtain ⟨key, fresh⟩ := Infinite.exists_notMem_finset (doc.map Prod.fst).toFinset
  rw [List.mem_toFinset] at fresh
  have same : doc.removeAt key [] = doc := by
    apply List.filter_eq_self.mpr
    intro e member
    rw [decide_eq_true_eq]
    intro met
    exact fresh (met ▸ List.mem_map_of_mem member)
  have removed := lawful.removed parsed readable [] key
  rw [same] at removed
  rw [removed, lawful.read parsed readable]

/-- The document of a text that was printed. -/
theorem Crate.alike_of_parse {Text : Type} {crate : Crate Text} (lawful : crate.Lawful)
    (prints : crate.Prints) (styles : crate.Styles) {doc doc' : Entries} {t : Table}
    (formed : doc.wellFormed = true) (readable : crate.read (crate.print doc) = .ok t)
    (parsed : crate.parse (crate.print doc) = .ok doc') : Entries.Alike doc doc' := by
  refine ⟨formed, lawful.wellFormed parsed, ?_, ?_⟩
  · rw [← lawful.read parsed readable]
    exact (prints.printed formed readable).symm
  · intro key path
    have braces := styles.braces formed readable parsed (key :: path)
    rw [← Option.bind_assoc, ← Option.bind_assoc]
    exact braces

theorem Crate.tree_styles : Crate.tree.Styles := by
  constructor
  intro doc doc' t formed readable parsed path
  cases (if_pos formed).symm.trans parsed
  rfl

theorem Crate.tree_prints : Crate.tree.Prints := by
  constructor
  · intro doc t formed readable
    rw [← Except.ok.inj readable]
    exact .refl _
  · intro doc t formed readable
    exact ⟨doc, if_pos formed⟩
  · intro lines comments doc t readable
    exact readable

end Toml
