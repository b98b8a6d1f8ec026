import Rathole.TomlPut

set_option autoImplicit false

/- Documents of scalars and of tables with headers, and what is copied into them. -/
namespace Toml

namespace Item

/-- A scalar, or a table in which every table has a header of its own. -/
def headed : Item → Bool
  | .table kind entries => decide (kind = .header) && headedEntries entries
  | .array _ => false
  | _ => true
where
  headedEntries : List (String × Item) → Bool
    | [] => true
    | (_, item) :: rest => item.headed && headedEntries rest

theorem headed_scalar {item : Item} (scalar : item.isScalar = true) : item.headed = true := by
  cases item <;> first | rfl | cases scalar

end Item

namespace Entries

def headed (entries : Entries) : Bool := Item.headed.headedEntries entries

variable {entries : Entries} {key : String} {item : Item}

theorem headed_iff (entries : Entries) :
    headed entries = true ↔ ∀ e ∈ entries, e.2.headed = true := by
  induction entries with
  | nil => simp [headed, Item.headed.headedEntries]
  | cons e rest ih =>
    rw [List.forall_mem_cons, ← ih]
    show (e.2.headed && headed rest) = true ↔ _
    rw [Bool.and_eq_true]

theorem headed_table (entries : Entries) :
    (Item.table .header entries).headed = headed entries := by
  show (decide (TableKind.header = .header) && headed entries) = headed entries
  simp

theorem headed_of_table {kind : TableKind} (headed : (Item.table kind entries).headed = true) :
    kind = .header ∧ entries.headed = true := by
  have both : (decide (kind = .header) && entries.headed) = true := headed
  rw [Bool.and_eq_true, decide_eq_true_eq] at both
  exact both

theorem headed_insertKey (headed : entries.headed = true) (here : item.headed = true) :
    Entries.headed (insertKey entries key item) = true := by
  rw [headed_iff] at headed ⊢
  intro e member
  unfold insertKey at member
  split at member
  · obtain ⟨x, listed, rfl⟩ := List.mem_map.mp member
    by_cases same : x.1 = key
    · rw [if_pos same]
      exact here
    · rw [if_neg same]
      exact headed x listed
  · rcases List.mem_append.mp member with early | last
    · exact headed e early
    · rw [List.mem_singleton.mp last]
      exact here

theorem wellFormed_removeKey (formed : entries.wellFormed = true) :
    Entries.wellFormed (removeKey entries key) = true := by
  rw [wellFormed_iff] at formed ⊢
  have kept : (removeKey entries key).Sublist entries := List.filter_sublist
  constructor
  · exact formed.1.sublist (kept.map _)
  · intro e member
    exact formed.2 e (kept.subset member)

theorem headed_removeKey (headed : entries.headed = true) :
    Entries.headed (removeKey entries key) = true := by
  rw [headed_iff] at headed ⊢
  intro e member
  exact headed e (List.mem_of_mem_filter member)

/-- A table with a header stays in the text when it gets empty. -/
theorem removeAt_headed (key : String) (path : List String) (formed : entries.wellFormed = true)
    (headed : entries.headed = true) : (entries.removeAt key path).wellFormed = true ∧
      (entries.removeAt key path).headed = true := by
  induction path generalizing entries with
  | nil => exact ⟨wellFormed_removeKey formed, headed_removeKey headed⟩
  | cons step path ih =>
    rw [removeAt]
    split
    · next kind inner found =>
      have here := (headed_iff entries).mp headed _ (mem_of_lookup found)
      obtain ⟨rfl, inside⟩ := headed_of_table here
      obtain ⟨formedInner, headedInner⟩ := ih
        ((wellFormed_table .header inner).mp (wellFormed_of_lookup formed found)).2 inside
      constructor
      · exact wellFormed_insertKey formed ((wellFormed_table .header _).mpr ⟨Or.inl rfl, formedInner⟩)
      · exact headed_insertKey headed ((headed_table _).trans headedInner)
    · exact ⟨formed, headed⟩

end Entries

/-- A copy has the same value, and every table in it has a header. -/
structure Item.Mirror (item copy : Item) : Prop where
  same : SameAt item.written copy.written
  headed : copy.headed = true

theorem Item.mirror_scalar {item : Item} (scalar : item.isScalar = true) : Item.Mirror item item :=
  ⟨.refl _, Item.headed_scalar scalar⟩

/-- A table copied key by key. -/
def Entries.Mirrors (src dst : Entries) : Prop :=
  ∀ key, Option.Rel Item.Mirror (src.lookup key) (dst.lookup key)

namespace Entries

variable {src dst : Entries}

theorem Mirrors.headed (formed : dst.wellFormed = true) (mirrors : Mirrors src dst) :
    dst.headed = true := by
  rw [headed_iff]
  intro e member
  have here := mirrors e.1
  rw [lookup_of_mem ((wellFormed_iff dst).mp formed).1 member] at here
  generalize src.lookup e.1 = x at here
  cases here with
  | some mirror => exact mirror.headed

theorem Mirrors.same (formed : src.wellFormed = true) (formed' : dst.wellFormed = true)
    (mirrors : Mirrors src dst) : Table.Same src.written dst.written := by
  intro key
  have here := mirrors key
  rw [lookup_written formed, lookup_written formed']
  generalize src.lookup key = x at here ⊢
  generalize dst.lookup key = y at here ⊢
  cases here with
  | none => exact .none
  | some mirror => exact mirror.same

/-- The same scalars. -/
theorem mirrors_of_lookup (copied : ∀ key, dst.lookup key = src.lookup key)
    (scalar : ∀ key item, src.lookup key = some item → item.isScalar = true) : Mirrors src dst := by
  intro key
  rw [copied key]
  cases found : src.lookup key with
  | none => exact .none
  | some item => exact .some (Item.mirror_scalar (scalar key item found))

/-- A copy of a table has a header of its own. -/
theorem Mirrors.table {kind : TableKind} (formed : (Item.table kind src).wellFormed = true)
    (formed' : dst.wellFormed = true) (mirrors : Mirrors src dst) :
    Item.Mirror (.table kind src) (.table .header dst) := by
  have shown := written_isSome _ formed
  constructor
  · rw [written_table] at shown ⊢
    rw [written_table,
      if_pos (show TableKind.header.written = true ∨ dst.written ≠ [] from Or.inl rfl)]
    split at shown
    · next visible =>
      rw [if_pos visible]
      exact .some (same_table.mpr
        (mirrors.same ((wellFormed_table kind src).mp formed).2 formed'))
    · cases shown
  · rw [headed_table]
    exact mirrors.headed formed'

end Entries

/-- A document of scalars and of tables with headers is printed as a text that can be read. -/
structure Crate.Writes {Text : Type} (crate : Crate Text) : Prop where
  writes : ∀ {doc : Entries}, doc.wellFormed = true → doc.headed = true →
    ∃ t, crate.read (crate.print doc) = .ok t

/-- Texts that are their own trees, with scalars and tables with headers only. -/
def Crate.headers : Crate Entries where
  parse doc := if doc.wellFormed && doc.headed then .ok doc else .error "malformed"
  print doc := doc
  prepend _ doc := doc
  read doc := if doc.wellFormed && doc.headed then .ok doc.written else .error "malformed"
  mismatch _ := "mismatch"

namespace Crate

variable {text doc : Entries} {t : Table}

theorem headers_ok (formed : doc.wellFormed = true) (headed : doc.headed = true) :
    headers.parse doc = .ok doc ∧ headers.read doc = .ok doc.written := by
  have both : (doc.wellFormed && doc.headed) = true := by rw [formed, headed]; rfl
  exact ⟨if_pos both, if_pos both⟩

theorem headers_parsed (parsed : headers.parse text = .ok doc) :
    text = doc ∧ doc.wellFormed = true ∧ doc.headed = true := by
  have checked : (if text.wellFormed && text.headed then Except.ok text else .error "malformed") =
    Except.ok doc := parsed
  split at checked
  · next both =>
    rw [Bool.and_eq_true] at both
    cases checked
    exact ⟨rfl, both⟩
  · cases checked

theorem headers_read (readable : headers.read doc = .ok t) :
    t = doc.written ∧ doc.wellFormed = true ∧ doc.headed = true := by
  have checked : (if doc.wellFormed && doc.headed then Except.ok doc.written
    else .error "malformed") = Except.ok t := readable
  split at checked
  · next both =>
    rw [Bool.and_eq_true] at both
    cases checked
    exact ⟨rfl, both⟩
  · cases checked

theorem headers_lawful : headers.Lawful := by
  constructor
  · intro text doc parsed
    exact (headers_parsed parsed).2.1
  · intro text doc t parsed readable
    rw [← (headers_parsed parsed).1]
    exact (headers_read readable).1
  · intro text doc t parsed readable path key
    obtain ⟨-, formed, headed⟩ := headers_parsed parsed
    obtain ⟨formed', headed'⟩ := Entries.removeAt_headed key path formed headed
    exact (headers_ok formed' headed').2

theorem headers_prints : headers.Prints := by
  constructor
  · intro doc t formed readable
    rw [(headers_read readable).1]
    exact .refl _
  · intro doc t formed readable
    exact ⟨doc, (headers_ok formed (headers_read readable).2.2).1⟩
  · intro lines comments doc t readable
    exact readable

theorem headers_writes : headers.Writes := by
  constructor
  intro doc formed headed
  exact ⟨doc.written, (headers_ok formed headed).2⟩

theorem tree_writes : tree.Writes := by
  constructor
  intro doc _ _
  exact ⟨doc.written, rfl⟩

theorem headers_styles : headers.Styles := by
  constructor
  intro doc doc' t formed readable parsed path
  cases (headers_parsed parsed).1
  rfl

theorem headers_stands : headers.Stands := by
  constructor
  intro doc doc' t formed readable parsed path kind entries found written
  cases (headers_parsed parsed).1
  exact ⟨kind, entries, found, written⟩

/-- Trees, and whether there is a comment in the text that the parser refuses and the reader does
not. -/
def commented : Crate (Entries × Bool) where
  parse text := if text.2 then .error "invalid comment" else tree.parse text.1
  print doc := (doc, false)
  prepend _ text := text
  read text := tree.read text.1
  mismatch _ := "mismatch"

theorem commented_parsed {text : Entries × Bool} (parsed : commented.parse text = .ok doc) :
    tree.parse text.1 = .ok doc := by
  have checked : (if text.2 then .error "invalid comment" else tree.parse text.1) = Except.ok doc :=
    parsed
  split at checked
  · cases checked
  · exact checked

theorem commented_lawful : commented.Lawful := by
  constructor
  · intro text doc parsed
    exact tree_lawful.wellFormed (commented_parsed parsed)
  · intro text doc t parsed readable
    exact tree_lawful.read (commented_parsed parsed) readable
  · intro text doc t parsed readable path key
    exact tree_lawful.removed (commented_parsed parsed) readable path key

theorem commented_prints : commented.Prints := by
  constructor
  · intro doc t formed readable
    exact tree_prints.printed formed readable
  · intro doc t formed readable
    exact tree_prints.parsed formed readable
  · intro lines comments doc t readable
    exact readable

theorem commented_writes : commented.Writes := ⟨tree_writes.writes⟩

end Crate

end Toml
