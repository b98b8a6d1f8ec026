import Rathole.TomlPut

set_option autoImplicit false

/- Values in which every table has each of its keys once. -/
namespace Toml

inductive Value.Unique : Value → Prop
  | string (s : String) : Unique (.string s)
  | integer (i : Int) : Unique (.integer i)
  | float (text : String) : Unique (.float text)
  | boolean (b : Bool) : Unique (.boolean b)
  | datetime (text : String) : Unique (.datetime text)
  | array {values : List Value} (inside : ∀ v ∈ values, Unique v) : Unique (.array values)
  | table {t : List (String × Value)} (nodup : (t.map Prod.fst).Nodup)
      (inside : ∀ e ∈ t, Unique e.2) : Unique (.table t)

namespace Table

/-- The table itself, and every table in it. -/
def Unique (t : Table) : Prop := Value.Unique (.table t)

variable {t u : Table} {key : String} {v : Value}

theorem unique_iff : Unique t ↔ (t.map Prod.fst).Nodup ∧ ∀ e ∈ t, e.2.Unique := by
  constructor
  · intro unique
    cases unique with
    | table nodup inside => exact ⟨nodup, inside⟩
  · intro both
    exact .table both.1 both.2

theorem Unique.nodup (unique : Unique t) : (t.map Prod.fst).Nodup := (unique_iff.mp unique).1

theorem Unique.lookup (unique : Unique t) (found : t.lookup key = some v) : v.Unique :=
  (unique_iff.mp unique).2 (key, v) (mem_of_lookup found)

theorem unique_nil : Unique [] :=
  .table List.nodup_nil fun _ member => absurd member List.not_mem_nil

theorem Unique.insertKey (unique : Unique t) (here : v.Unique) : Unique (insertKey t key v) := by
  have nodup := nodup_insertKey unique.nodup key v
  refine .table nodup fun e member => ?_
  have found := lookup_of_mem nodup member
  rw [lookup_insertKey] at found
  split at found
  · cases found
    exact here
  · exact unique.lookup found

theorem Unique.removeKey (unique : Unique t) : Unique (removeKey t key) := by
  obtain ⟨nodup, inside⟩ := unique_iff.mp unique
  apply Value.Unique.table
  · exact nodup.sublist (List.filter_sublist.map _)
  · intro e member
    exact inside e (List.mem_of_mem_filter member)

theorem Unique.inner (unique : Unique t) (key : String) : Unique (t.inner key) := by
  unfold Table.inner
  split
  · next u found => exact unique.lookup found
  · exact unique_nil

theorem Unique.put (unique : Unique t) (here : v.Unique) (path : List String) :
    Unique (t.put path v) := by
  induction path generalizing t with
  | nil => exact unique
  | cons key path ih =>
    cases path with
    | nil => exact unique.insertKey here
    | cons step path => exact unique.insertKey (ih (unique.inner key))

theorem Unique.puts {values : List (List String × Value)} (unique : Unique t)
    (inside : ∀ a ∈ values, a.2.Unique) : Unique (t.puts values) := by
  induction values generalizing t with
  | nil => exact unique
  | cons a values ih =>
    rw [List.forall_mem_cons] at inside
    exact ih (unique.put inside.1 a.1) inside.2

theorem keys_zip_sublist (names : List String) (values : List Value) :
    ((names.zip values).map Prod.fst).Sublist names := by
  induction names generalizing values with
  | nil => exact .slnil
  | cons name names ih =>
    cases values with
    | nil => exact List.nil_sublist _
    | cons v values => exact (ih values).cons_cons name

/-- Names for the elements of an array. -/
theorem unique_zip {names : List String} {values : List Value} (nodup : names.Nodup)
    (inside : ∀ v ∈ values, v.Unique) : Unique (names.zip values) :=
  .table (nodup.sublist (keys_zip_sublist names values))
    fun _ member => inside _ (List.of_mem_zip member).2

end Table

theorem Entries.keys_written_sublist (entries : Entries) :
    (entries.written.map Prod.fst).Sublist (entries.map Prod.fst) := by
  induction entries with
  | nil => exact .slnil
  | cons e rest ih =>
    rw [Entries.written_cons e.1 e.2]
    cases e.2.written with
    | none => exact .cons _ ih
    | some v => exact .cons_cons _ ih

mutual

/-- What a document denotes has every key once. -/
theorem Item.unique_written (item : Item) (formed : item.wellFormed = true) {v : Value}
    (shown : item.written = some v) : v.Unique := by
  cases item with
  | array items =>
    cases shown
    exact .array (Item.unique_writtenItems items formed)
  | table kind entries =>
    rw [Entries.written_table] at shown
    split at shown
    · cases shown
      exact Entries.unique_written entries ((Entries.wellFormed_table kind entries).mp formed).2
    · cases shown
  | _ =>
    cases shown
    constructor

theorem Item.unique_writtenItems (items : List Item)
    (formed : Item.wellFormed.wellFormedItems items = true) :
    ∀ v ∈ Item.written.writtenItems items, v.Unique := by
  cases items with
  | nil => exact fun _ member => absurd member List.not_mem_nil
  | cons item rest =>
    have both : (item.wellFormed && Item.wellFormed.wellFormedItems rest) = true := formed
    rw [Bool.and_eq_true] at both
    have later := Item.unique_writtenItems rest both.2
    intro v member
    rw [Item.written.writtenItems] at member
    cases shown : item.written with
    | none =>
      rw [shown] at member
      exact later v member
    | some w =>
      rw [shown] at member
      rcases List.mem_cons.mp member with rfl | member
      · exact Item.unique_written item both.1 shown
      · exact later v member

theorem Entries.unique_written (entries : Entries) (formed : entries.wellFormed = true) :
    Table.Unique entries.written := by
  cases entries with
  | nil => exact Table.unique_nil
  | cons e rest =>
    obtain ⟨fresh, here, later⟩ := (Entries.wellFormed_cons e.1 e.2 rest).mp formed
    have below := Entries.unique_written rest later
    rw [Entries.written_cons e.1 e.2]
    cases shown : e.2.written with
    | none => exact below
    | some v =>
      obtain ⟨nodup, inside⟩ := Table.unique_iff.mp below
      refine .table (List.nodup_cons.mpr ⟨?_, nodup⟩) ?_
      · exact fun listed => fresh ((Entries.keys_written_sublist rest).subset listed)
      · rw [List.forall_mem_cons]
        exact ⟨Item.unique_written e.2 here shown, inside⟩

end

end Toml
