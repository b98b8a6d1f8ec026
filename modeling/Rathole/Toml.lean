import Mathlib.Data.List.Nodup

set_option autoImplicit false

/- A TOML document as a format-preserving editor holds it. Beside its entries every table
remembers how it was written, because that decides whether it is printed once it is empty. -/
namespace Toml

/-- A table has its own header, exists through a deeper header or through a dotted key, or is
written in braces, there again directly or through a dotted key. -/
inductive TableKind
  | header | implicit | dotted | inline | inlineDotted
  deriving DecidableEq

namespace TableKind

/-- The table is printed even when nothing is in it. -/
def written : TableKind → Bool
  | header | inline => true
  | implicit | dotted | inlineDotted => false

def isInline : TableKind → Bool
  | inline | inlineDotted => true
  | header | implicit | dotted => false

end TableKind

/-- Arrays of values and arrays of tables are not told apart. -/
inductive Item
  | string (s : String)
  | integer (i : Int)
  | float (text : String)
  | boolean (b : Bool)
  | datetime (text : String)
  | array (items : List Item)
  | table (kind : TableKind) (entries : List (String × Item))

/-- What a text denotes, with no trace of how it is written. -/
inductive Value
  | string (s : String)
  | integer (i : Int)
  | float (text : String)
  | boolean (b : Bool)
  | datetime (text : String)
  | array (values : List Value)
  | table (entries : List (String × Value))

/-- Entries in the order of the text. -/
abbrev Entries := List (String × Item)

abbrev Table := List (String × Value)

section Keyed

variable {V : Type}

/-- A key that is there keeps its place; a new one goes to the end. -/
def insertKey (entries : List (String × V)) (key : String) (v : V) : List (String × V) :=
  if key ∈ entries.map Prod.fst then entries.map fun e => if e.1 = key then (key, v) else e
  else entries ++ [(key, v)]

def removeKey (entries : List (String × V)) (key : String) : List (String × V) :=
  entries.filter fun e => e.1 ≠ key

theorem lookup_cons_eq (e : String × V) (entries : List (String × V)) (key : String) :
    (e :: entries).lookup key = if key = e.1 then some e.2 else entries.lookup key := by
  rw [List.lookup_cons]
  by_cases same : key = e.1
  · rw [beq_iff_eq.mpr same, if_pos same]
  · rw [beq_eq_false_iff_ne.mpr same, if_neg same]

theorem mem_of_lookup {entries : List (String × V)} {key : String} {v : V}
    (found : entries.lookup key = some v) : (key, v) ∈ entries := by
  induction entries with
  | nil => cases found
  | cons e entries ih =>
    rw [lookup_cons_eq] at found
    split at found
    · next same =>
      cases found
      rw [same]
      exact List.mem_cons_self
    · exact List.mem_cons_of_mem _ (ih found)

theorem mem_keys_of_lookup {entries : List (String × V)} {key : String} {v : V}
    (found : entries.lookup key = some v) : key ∈ entries.map Prod.fst :=
  List.mem_map_of_mem (mem_of_lookup found)

theorem lookup_isSome (entries : List (String × V)) (key : String) :
    (entries.lookup key).isSome ↔ key ∈ entries.map Prod.fst := by
  induction entries with
  | nil => simp
  | cons e entries ih =>
    rw [lookup_cons_eq, List.map_cons, List.mem_cons]
    by_cases same : key = e.1
    · simp [same]
    · rw [if_neg same, ih]
      simp [same]

theorem ne_nil_iff_lookup (entries : List (String × V)) :
    entries ≠ [] ↔ ∃ key, (entries.lookup key).isSome := by
  cases entries with
  | nil => simp
  | cons e entries =>
    apply iff_of_true (List.cons_ne_nil _ _)
    refine ⟨e.1, ?_⟩
    rw [lookup_cons_eq, if_pos rfl]
    rfl

theorem lookup_removeKey (entries : List (String × V)) (key other : String) :
    (removeKey entries key).lookup other =
      if other = key then none else entries.lookup other := by
  induction entries with
  | nil => simp [removeKey]
  | cons e entries ih =>
    rw [removeKey] at ih ⊢
    by_cases gone : e.1 = key
    · rw [List.filter_cons_of_neg (by simpa using gone), ih, lookup_cons_eq, gone]
      by_cases same : other = key
      · rw [if_pos same, if_pos same]
      · rw [if_neg same, if_neg same, if_neg same]
    · rw [List.filter_cons_of_pos (by simpa using gone), lookup_cons_eq, lookup_cons_eq, ih]
      by_cases here : other = e.1
      · have apart : other ≠ key := fun met => gone (here.symm.trans met)
        rw [if_pos here, if_neg apart, if_pos here]
      · rw [if_neg here, if_neg here]

end Keyed

namespace Item

/-- Every table of the tree has each of its keys once, and without a header of its own it has
some key. -/
def wellFormed : Item → Bool
  | .string _ | .integer _ | .float _ | .boolean _ | .datetime _ => true
  | .array items => wellFormedItems items
  | .table kind entries => (kind.written || !entries.isEmpty) && wellFormedEntries entries
where
  wellFormedItems : List Item → Bool
    | [] => true
    | item :: rest => item.wellFormed && wellFormedItems rest
  wellFormedEntries : List (String × Item) → Bool
    | [] => true
    | (key, item) :: rest =>
      decide (key ∉ rest.map Prod.fst) && item.wellFormed && wellFormedEntries rest

/-- What the printed item denotes. Without a header of its own, an empty table is not printed. -/
def written : Item → Option Value
  | .string s => some (.string s)
  | .integer i => some (.integer i)
  | .float text => some (.float text)
  | .boolean b => some (.boolean b)
  | .datetime text => some (.datetime text)
  | .array items => some (.array (writtenItems items))
  | .table kind entries =>
    let entries := writtenEntries entries
    if kind.written || !entries.isEmpty then some (.table entries) else none
where
  writtenItems : List Item → List Value
    | [] => []
    | item :: rest =>
      match item.written with
      | some v => v :: writtenItems rest
      | none => writtenItems rest
  writtenEntries : List (String × Item) → Table
    | [] => []
    | (key, item) :: rest =>
      match item.written with
      | some v => (key, v) :: writtenEntries rest
      | none => writtenEntries rest

/-- `Item::into_value`: what goes into braces is in braces itself. -/
def intoValue : Item → Item
  | .table _ entries => .table .inline (intoEntries entries)
  | .array items => .array (intoItems items)
  | item => item
where
  intoItems : List Item → List Item
    | [] => []
    | item :: rest => item.intoValue :: intoItems rest
  intoEntries : List (String × Item) → List (String × Item)
    | [] => []
    | (key, item) :: rest => (key, item.intoValue) :: intoEntries rest

def asStr : Item → Option String
  | .string s => some s
  | _ => none

def asInteger : Item → Option Int
  | .integer i => some i
  | _ => none

def asTableLike : Item → Option (TableKind × Entries)
  | .table kind entries => some (kind, entries)
  | _ => none

/-- Tables in braces are values, and no tables in this sense. -/
def asTable : Item → Option (TableKind × Entries)
  | .table kind entries => if kind.isInline then none else some (kind, entries)
  | _ => none

def get (item : Item) (key : String) : Option Item :=
  item.asTableLike.bind fun table => table.2.lookup key

end Item

namespace Entries

def wellFormed (entries : Entries) : Bool := Item.wellFormed.wellFormedEntries entries

def written (entries : Entries) : Table := Item.written.writtenEntries entries

/-- `TableLike::insert`, for a table of this kind. -/
def insert (entries : Entries) (kind : TableKind) (key : String) (item : Item) : Entries :=
  insertKey entries key (if kind.isInline then item.intoValue else item)

/-- The document without an entry of the table at the path. -/
def removeAt (key : String) : List String → Entries → Entries
  | [], entries => removeKey entries key
  | step :: path, entries =>
    match entries.lookup step with
    | some (.table kind inner) => insertKey entries step (.table kind (removeAt key path inner))
    | _ => entries

@[simp] theorem written_nil : written [] = [] := rfl

theorem written_cons (key : String) (item : Item) (rest : Entries) :
    written ((key, item) :: rest) =
      match item.written with
      | some v => (key, v) :: written rest
      | none => written rest := rfl

theorem wellFormed_cons (key : String) (item : Item) (rest : Entries) :
    wellFormed ((key, item) :: rest) = true ↔
      key ∉ rest.map Prod.fst ∧ item.wellFormed = true ∧ wellFormed rest = true := by
  show (decide (key ∉ rest.map Prod.fst) && item.wellFormed && wellFormed rest) = true ↔ _
  rw [Bool.and_eq_true, Bool.and_eq_true, decide_eq_true_eq, and_assoc]

theorem wellFormed_table (kind : TableKind) (entries : Entries) :
    (Item.table kind entries).wellFormed = true ↔
      (kind.written = true ∨ entries ≠ []) ∧ wellFormed entries = true := by
  show ((kind.written || !entries.isEmpty) && wellFormed entries) = true ↔ _
  simp only [Bool.and_eq_true, Bool.or_eq_true, Bool.not_eq_true', List.isEmpty_eq_false_iff]

theorem wellFormed_of_lookup {entries : Entries} {key : String} {item : Item}
    (formed : wellFormed entries = true) (found : entries.lookup key = some item) :
    item.wellFormed = true := by
  induction entries with
  | nil => cases found
  | cons e rest ih =>
    obtain ⟨-, here, later⟩ := (wellFormed_cons e.1 e.2 rest).mp formed
    rw [lookup_cons_eq] at found
    split at found
    · cases found
      exact here
    · exact ih later found

/-- With distinct keys, a key of the text is the key of the document. -/
theorem lookup_written {entries : Entries} (formed : wellFormed entries = true) (key : String) :
    (written entries).lookup key = (entries.lookup key).bind Item.written := by
  induction entries with
  | nil => rfl
  | cons e rest ih =>
    obtain ⟨fresh, -, later⟩ := (wellFormed_cons e.1 e.2 rest).mp formed
    rw [written_cons e.1 e.2, lookup_cons_eq e rest]
    by_cases same : key = e.1
    · rw [if_pos same, Option.bind_some]
      cases print : e.2.written with
      | none =>
        show (written rest).lookup key = none
        rw [ih later, same]
        have absent : rest.lookup e.1 = none := by
          rw [← Option.not_isSome_iff_eq_none, lookup_isSome]
          exact fresh
        rw [absent, Option.bind_none]
      | some v => exact (lookup_cons_eq (e.1, v) _ key).trans (if_pos same)
    · rw [if_neg same, ← ih later]
      cases print : e.2.written with
      | none => rfl
      | some v => exact (lookup_cons_eq (e.1, v) _ key).trans (if_neg same)

theorem written_removeKey (entries : Entries) (key : String) :
    written (removeKey entries key) = removeKey (written entries) key := by
  induction entries with
  | nil => rfl
  | cons e rest ih =>
    rw [removeKey] at ih
    rw [removeKey, written_cons e.1 e.2]
    by_cases gone : e.1 = key
    · rw [List.filter_cons_of_neg (by simpa using gone), ih]
      cases e.2.written with
      | none => rfl
      | some v => rw [removeKey, removeKey, List.filter_cons_of_neg (by simpa using gone)]
    · rw [List.filter_cons_of_pos (by simpa using gone), written_cons e.1 e.2, ih]
      cases e.2.written with
      | none => rfl
      | some v => rw [removeKey, removeKey, List.filter_cons_of_pos (by simpa using gone)]

theorem written_table (kind : TableKind) (entries : Entries) :
    (Item.table kind entries).written =
      if kind.written = true ∨ written entries ≠ [] then some (.table (written entries))
      else none := by
  show (if (kind.written || !(written entries).isEmpty) = true then _ else _) = _
  simp only [Bool.or_eq_true, Bool.not_eq_true', List.isEmpty_eq_false_iff]
  rfl

mutual

/-- Nothing of a well-formed tree is hidden. -/
theorem written_isSome (item : Item) (formed : item.wellFormed = true) :
    item.written.isSome = true := by
  cases item with
  | table kind entries =>
    obtain ⟨visible, inner⟩ := (wellFormed_table kind entries).mp formed
    have shown : kind.written = true ∨ written entries ≠ [] := by
      rcases visible with header | filled
      · exact Or.inl header
      · exact Or.inr (written_ne_nil entries inner filled)
    rw [written_table, if_pos shown]
    rfl
  | _ => rfl

theorem written_ne_nil (entries : Entries) (formed : wellFormed entries = true)
    (filled : entries ≠ []) : written entries ≠ [] := by
  cases entries with
  | nil => exact absurd rfl filled
  | cons e rest =>
    obtain ⟨key, item⟩ := e
    obtain ⟨-, here, -⟩ := (wellFormed_cons key item rest).mp formed
    have shown := written_isSome item here
    rw [written_cons]
    cases print : item.written with
    | none =>
      rw [print] at shown
      cases shown
    | some v => exact List.cons_ne_nil _ _

end

theorem lookup_written_table {entries inner : Entries} {key : String} {kind : TableKind}
    (formed : wellFormed entries = true) (found : entries.lookup key = some (.table kind inner)) :
    (written entries).lookup key = some (.table (written inner)) := by
  have shown := written_isSome _ (wellFormed_of_lookup formed found)
  rw [lookup_written formed, found, Option.bind_some]
  rw [written_table] at shown ⊢
  split at shown
  · next visible => rw [if_pos visible]
  · cases shown

theorem lookup_written_isSome {entries : Entries} (formed : wellFormed entries = true)
    (key : String) : ((written entries).lookup key).isSome = (entries.lookup key).isSome := by
  rw [lookup_written formed]
  cases found : entries.lookup key with
  | none => rfl
  | some item => exact written_isSome item (wellFormed_of_lookup formed found)

/-- An item in the place of another one. -/
theorem lookup_written_map (entries : Entries) (key : String) (item : Item) (other : String) :
    (written (entries.map fun e => if e.1 = key then (key, item) else e)).lookup other =
      if other = key then (if key ∈ entries.map Prod.fst then item.written else none)
      else (written entries).lookup other := by
  induction entries with
  | nil => simp
  | cons e rest ih =>
    rw [List.map_cons, List.map_cons, written_cons e.1 e.2 rest]
    by_cases here : e.1 = key
    · have held : key ∈ e.1 :: rest.map Prod.fst := here ▸ List.mem_cons_self
      rw [if_pos here, if_pos held, written_cons]
      cases print : item.written with
      | none =>
        rw [print] at ih
        by_cases same : other = key
        · rw [ih, if_pos same, if_pos same, ite_self]
        · rw [ih, if_neg same, if_neg same]
          cases e.2.written with
          | none => rfl
          | some v => rw [lookup_cons_eq, here, if_neg same]
      | some v =>
        rw [print] at ih
        rw [lookup_cons_eq]
        by_cases same : other = key
        · rw [if_pos same, if_pos same]
        · rw [if_neg same, if_neg same, ih, if_neg same]
          cases e.2.written with
          | none => rfl
          | some w => rw [lookup_cons_eq, here, if_neg same]
    · have keys : key ∈ e.1 :: rest.map Prod.fst ↔ key ∈ rest.map Prod.fst := by
        rw [List.mem_cons, or_iff_right (Ne.symm here)]
      rw [if_neg here, written_cons e.1 e.2]
      simp only [keys]
      cases e.2.written with
      | none => exact ih
      | some v =>
        rw [lookup_cons_eq, lookup_cons_eq, ih]
        by_cases same : other = key
        · have apart : other ≠ e.1 := fun met => here (met.symm.trans same)
          rw [if_neg apart, if_pos same, if_pos same]
        · rw [if_neg same, if_neg same]

theorem lookup_written_insertKey {entries : Entries} {key : String}
    (held : key ∈ entries.map Prod.fst) (item : Item) (other : String) :
    (written (insertKey entries key item)).lookup other =
      if other = key then item.written else (written entries).lookup other := by
  rw [insertKey, if_pos held, lookup_written_map, if_pos held]

end Entries

/-- The parsers and the printer. `prepend` puts a string and a line break before a text, and
`mismatch` is the message for a text that is TOML and yet no value of the type it is read
into. -/
structure Crate (Text : Type) where
  parse : Text → Except String Entries
  print : Entries → Text
  prepend : String → Text → Text
  read : Text → Except String Table
  mismatch : Text → String

/-- A text is read as what its document denotes, also after an entry is taken out of it. -/
structure Crate.Lawful {Text : Type} (crate : Crate Text) : Prop where
  wellFormed : ∀ {text : Text} {doc : Entries}, crate.parse text = .ok doc →
    doc.wellFormed = true
  read : ∀ {text : Text} {doc : Entries} {t : Table}, crate.parse text = .ok doc →
    crate.read text = .ok t → t = doc.written
  removed : ∀ {text : Text} {doc : Entries} {t : Table}, crate.parse text = .ok doc →
    crate.read text = .ok t → ∀ (path : List String) (key : String),
    crate.read (crate.print (doc.removeAt key path)) = .ok (Entries.removeAt key path doc).written

/-- Texts that are their own trees, without comments. -/
def Crate.tree : Crate Entries where
  parse doc := if doc.wellFormed then .ok doc else .error "malformed"
  print doc := doc
  prepend _ doc := doc
  read doc := .ok doc.written
  mismatch _ := "mismatch"

theorem Crate.tree_lawful : Crate.tree.Lawful := by
  have parsed : ∀ {text doc : Entries}, Crate.tree.parse text = .ok doc →
      text.wellFormed = true ∧ text = doc := by
    intro text doc accepted
    have checked : (if text.wellFormed then Except.ok text else Except.error "malformed") =
      Except.ok doc := accepted
    by_cases formed : text.wellFormed = true
    · rw [if_pos formed] at checked
      exact ⟨formed, Except.ok.inj checked⟩
    · rw [if_neg formed] at checked
      cases checked
  constructor
  · intro text doc accepted
    obtain ⟨formed, same⟩ := parsed accepted
    exact same ▸ formed
  · intro text doc t accepted readable
    obtain ⟨-, same⟩ := parsed accepted
    rw [← same]
    exact (Except.ok.inj readable).symm
  · intro text doc t _ _ path key
    rfl

end Toml
