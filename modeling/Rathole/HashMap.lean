import Mathlib.Data.Finmap

set_option autoImplicit false

namespace Rathole

/-- `std::collections::HashMap`: equality and lookup do not see an iteration order. -/
abbrev HashMap (K V : Type) := Finmap fun _ : K => V

/-- `l` lists every entry of the map exactly once. -/
structure Enumerates {V : Type} (l : List (String × V)) (m : HashMap String V) : Prop where
  nodup : (l.map Prod.fst).Nodup
  mem_iff : ∀ k v, (k, v) ∈ l ↔ m.lookup k = some v

/-- The order in which a program run iterates over its hash maps. It is chosen
by the hasher's random state, so every result below holds for all of them. -/
structure HashOrder where
  entries : {V : Type} → HashMap String V → List (String × V)
  enumerates : ∀ {V : Type} (m : HashMap String V), Enumerates (entries m) m

namespace HashOrder

variable {V : Type} (order : HashOrder)

theorem mem_entries (m : HashMap String V) (k : String) (v : V) :
    (k, v) ∈ order.entries m ↔ m.lookup k = some v :=
  (order.enumerates m).mem_iff k v

def keys (m : HashMap String V) : List String := (order.entries m).map Prod.fst

theorem mem_keys (m : HashMap String V) (k : String) : k ∈ order.keys m ↔ k ∈ m := by
  rw [keys, List.mem_map, ← Finmap.lookup_isSome, Option.isSome_iff_exists]
  constructor
  · rintro ⟨⟨name, v⟩, member, rfl⟩
    exact ⟨v, (order.mem_entries m name v).mp member⟩
  · rintro ⟨v, found⟩
    exact ⟨(k, v), (order.mem_entries m k v).mpr found, rfl⟩

theorem nodup_keys (m : HashMap String V) : (order.keys m).Nodup := (order.enumerates m).nodup

end HashOrder

private theorem enumerates_toList {V : Type} (m : HashMap String V) :
    Enumerates (m.entries.toList.map fun s => (s.1, s.2)) m := by
  constructor
  · have nodup := m.nodupKeys
    rw [← Multiset.coe_toList m.entries, Multiset.coe_nodupKeys] at nodup
    change (m.entries.toList.map Sigma.fst).Nodup at nodup
    simpa only [List.map_map, Function.comp_def] using nodup
  · intro k v
    rw [← Option.mem_def, Finmap.mem_lookup_iff, List.mem_map]
    constructor
    · rintro ⟨⟨name, value⟩, member, same⟩
      cases same
      exact Multiset.mem_toList.mp member
    · intro member
      exact ⟨⟨k, v⟩, Multiset.mem_toList.mpr member, rfl⟩

/-- Some iteration order exists; which one is left open. -/
noncomputable def HashOrder.some : HashOrder where
  entries m := m.entries.toList.map fun s => (s.1, s.2)
  enumerates := enumerates_toList

theorem lookup_single {V : Type} {name k : String} {v w : V}
    (found : ((∅ : HashMap String V).insert name v).lookup k = some w) : k = name ∧ w = v := by
  by_cases same : k = name
  · subst same
    rw [Finmap.lookup_insert] at found
    exact ⟨rfl, (Option.some.inj found).symm⟩
  · rw [Finmap.lookup_insert_of_ne _ same, Finmap.lookup_empty] at found
    cases found

theorem enumerates_single {V : Type} (name : String) (v : V) :
    Enumerates [(name, v)] ((∅ : HashMap String V).insert name v) := by
  refine ⟨List.nodup_singleton _, fun k w => ?_⟩
  by_cases same : k = name
  · subst same
    simp [Finmap.lookup_insert, eq_comm]
  · simp [Finmap.lookup_insert_of_ne _ same, same]

theorem HashOrder.entries_empty {V : Type} (order : HashOrder) :
    order.entries (∅ : HashMap String V) = [] := by
  rw [List.eq_nil_iff_forall_not_mem]
  rintro ⟨k, v⟩ member
  rw [order.mem_entries, Finmap.lookup_empty] at member
  cases member

theorem HashOrder.entries_single {V : Type} (order : HashOrder) (name : String) (v : V) :
    order.entries ((∅ : HashMap String V).insert name v) = [(name, v)] := by
  have listed := order.enumerates ((∅ : HashMap String V).insert name v)
  have single := enumerates_single name v
  apply List.perm_singleton.mp
  rw [List.perm_ext_iff_of_nodup listed.nodup.of_map (List.nodup_singleton _)]
  rintro ⟨k, w⟩
  rw [listed.mem_iff, single.mem_iff]

/-- `get_mut` followed by a write through the reference. -/
def HashMap.modify {K V : Type} [DecidableEq K] (m : HashMap K V) (k : K) (f : V → V) :
    HashMap K V :=
  match m.lookup k with
  | none => m
  | Option.some v => m.insert k (f v)

section Lookup

variable {K V : Type} [DecidableEq K]

theorem lookup_insert_eq (m : HashMap K V) (k k' : K) (v : V) :
    (m.insert k v).lookup k' = if k' = k then Option.some v else m.lookup k' := by
  split
  · next same => rw [same, Finmap.lookup_insert]
  · next other => exact Finmap.lookup_insert_of_ne m other

theorem lookup_erase_eq (m : HashMap K V) (k k' : K) :
    (m.erase k).lookup k' = if k' = k then none else m.lookup k' := by
  split
  · next same => rw [same, Finmap.lookup_erase]
  · next other => exact Finmap.lookup_erase_ne other

theorem lookup_modify_eq (m : HashMap K V) (k k' : K) (f : V → V) :
    (HashMap.modify m k f).lookup k' =
      if k' = k then (m.lookup k).map f else m.lookup k' := by
  unfold HashMap.modify
  split
  · next absent =>
    split
    · next same => rw [same, absent, Option.map_none]
    · rfl
  · next v found => rw [lookup_insert_eq, found, Option.map_some]

theorem keys_insert_of_mem {m : HashMap K V} {k : K} (held : k ∈ m) (v : V) :
    (m.insert k v).keys = m.keys := by
  apply Finset.ext
  intro k'
  rw [Finmap.mem_keys, Finmap.mem_keys, Finmap.mem_insert]
  constructor
  · rintro (rfl | member)
    · exact held
    · exact member
  · exact .inr

/-- The keys of a table filled by a loop of insertions. -/
theorem mem_foldl_insert {A : Type} (f : A → K) (g : A → V) (xs : List A) (m : HashMap K V)
    (k : K) : k ∈ xs.foldl (fun m x => m.insert (f x) (g x)) m ↔ k ∈ m ∨ k ∈ xs.map f := by
  induction xs generalizing m with
  | nil => simp
  | cons x xs ih =>
    rw [List.foldl_cons, ih, Finmap.mem_insert, List.map_cons, List.mem_cons]
    tauto

end Lookup

end Rathole
