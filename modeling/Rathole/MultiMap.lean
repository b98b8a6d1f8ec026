import Rathole.HashMap

set_option autoImplicit false

/- A map with two keys for each item. The source keeps two hash maps of pointers
to one boxed item; here both maps hold the item itself. -/
namespace Rathole

variable {K₁ K₂ V : Type} [DecidableEq K₁] [DecidableEq K₂]

structure MultiMap (K₁ K₂ V : Type) [DecidableEq K₁] [DecidableEq K₂] where
  map1 : HashMap K₁ (K₁ × K₂ × V)
  map2 : HashMap K₂ (K₁ × K₂ × V)
  indexed1 : ∀ k item, map1.lookup k = some item → item.1 = k ∧ map2.lookup item.2.1 = some item
  indexed2 : ∀ k item, map2.lookup k = some item → item.2.1 = k ∧ map1.lookup item.1 = some item

namespace MultiMap

def new : MultiMap K₁ K₂ V where
  map1 := ∅
  map2 := ∅
  indexed1 k item found := absurd found (by simp)
  indexed2 k item found := absurd found (by simp)

def get1 (m : MultiMap K₁ K₂ V) (k : K₁) : Option V := (m.map1.lookup k).map (·.2.2)

def get2 (m : MultiMap K₁ K₂ V) (k : K₂) : Option V := (m.map2.lookup k).map (·.2.2)

/-- A key that is in use on either side makes the insertion fail. -/
def insert (m : MultiMap K₁ K₂ V) (k1 : K₁) (k2 : K₂) (v : V) :
    Except (K₁ × K₂ × V) (MultiMap K₁ K₂ V) :=
  if free : m.map1.lookup k1 = none ∧ m.map2.lookup k2 = none then
    .ok {
      map1 := m.map1.insert k1 (k1, k2, v)
      map2 := m.map2.insert k2 (k1, k2, v)
      indexed1 := by
        intro k item found
        rw [lookup_insert_eq] at found ⊢
        split at found
        · next same =>
          cases found
          exact ⟨same.symm, if_pos rfl⟩
        · obtain ⟨key, other⟩ := m.indexed1 k item found
          refine ⟨key, ?_⟩
          rw [if_neg, other]
          intro same
          rw [same, free.2] at other
          cases other
      indexed2 := by
        intro k item found
        rw [lookup_insert_eq] at found ⊢
        split at found
        · next same =>
          cases found
          exact ⟨same.symm, if_pos rfl⟩
        · obtain ⟨key, other⟩ := m.indexed2 k item found
          refine ⟨key, ?_⟩
          rw [if_neg, other]
          intro same
          rw [same, free.1] at other
          cases other }
  else .error (k1, k2, v)

/-- The map without an item it holds. -/
private def drop (m : MultiMap K₁ K₂ V) (item : K₁ × K₂ × V)
    (held : m.map1.lookup item.1 = some item) : MultiMap K₁ K₂ V where
  map1 := m.map1.erase item.1
  map2 := m.map2.erase item.2.1
  indexed1 := by
    intro k other found
    rw [lookup_erase_eq] at found ⊢
    split at found
    · cases found
    · next different =>
      obtain ⟨key, linked⟩ := m.indexed1 k other found
      refine ⟨key, ?_⟩
      rw [if_neg, linked]
      intro same
      rw [same, (m.indexed1 _ _ held).2] at linked
      cases linked
      exact different key.symm
  indexed2 := by
    intro k other found
    rw [lookup_erase_eq] at found ⊢
    split at found
    · cases found
    · next different =>
      obtain ⟨key, linked⟩ := m.indexed2 k other found
      refine ⟨key, ?_⟩
      rw [if_neg, linked]
      intro same
      rw [same, held] at linked
      cases linked
      exact different key.symm

def remove1 (m : MultiMap K₁ K₂ V) (k1 : K₁) : Option V × MultiMap K₁ K₂ V :=
  match found : m.map1.lookup k1 with
  | none => (none, m)
  | some item => (some item.2.2, m.drop item ((m.indexed1 k1 item found).1 ▸ found))

def remove2 (m : MultiMap K₁ K₂ V) (k2 : K₂) : Option V × MultiMap K₁ K₂ V :=
  match found : m.map2.lookup k2 with
  | none => (none, m)
  | some item => (some item.2.2, m.drop item (m.indexed2 k2 item found).2)

@[simp] theorem get1_new (k : K₁) : (new : MultiMap K₁ K₂ V).get1 k = none := by
  simp [get1, new]

theorem lookup_map1_remove1 (m : MultiMap K₁ K₂ V) (k k1 : K₁) :
    (m.remove1 k1).2.map1.lookup k = if k = k1 then none else m.map1.lookup k := by
  unfold remove1
  split
  · next absent =>
    split
    · next same => rw [same, absent]
    · rfl
  · next item found =>
    obtain ⟨rfl, -⟩ := m.indexed1 k1 item found
    exact lookup_erase_eq m.map1 item.1 k

theorem get1_remove1 (m : MultiMap K₁ K₂ V) (k k1 : K₁) :
    (m.remove1 k1).2.get1 k = if k = k1 then none else m.get1 k := by
  rw [get1, lookup_map1_remove1]
  split <;> rfl

theorem remove1_value (m : MultiMap K₁ K₂ V) (k1 : K₁) : (m.remove1 k1).1 = m.get1 k1 := by
  unfold remove1
  split
  · next absent => simp [get1, absent]
  · next item found => simp [get1, found]

/-- Removing by the first key frees exactly the second key of the item removed. -/
theorem lookup_map2_remove1 (m : MultiMap K₁ K₂ V) (k1 : K₁) (k : K₂) :
    (m.remove1 k1).2.map2.lookup k =
      (m.map2.lookup k).filter fun item => decide (item.1 ≠ k1) := by
  unfold remove1
  split
  · next absent =>
    cases held : m.map2.lookup k with
    | none => rfl
    | some item =>
      have linked := (m.indexed2 k item held).2
      have other : item.1 ≠ k1 := by
        rintro rfl
        rw [absent] at linked
        cases linked
      simp [Option.filter, other]
  · next item found =>
    obtain ⟨rfl, linked⟩ := m.indexed1 k1 item found
    simp only [drop, lookup_erase_eq]
    split
    · next same => rw [same, linked]; simp [Option.filter]
    · next different =>
      cases held : m.map2.lookup k with
      | none => rfl
      | some other =>
        have back := m.indexed2 k other held
        have distinct : other.1 ≠ item.1 := by
          intro same
          rw [same, found] at back
          obtain ⟨key, ⟨⟩⟩ := back
          exact different key.symm
        simp [Option.filter, distinct]

theorem get2_remove1_of_free {m : MultiMap K₁ K₂ V} {k1 : K₁} {k : K₂}
    (free : ∀ item, m.map2.lookup k = some item → item.1 = k1) :
    (m.remove1 k1).2.map2.lookup k = none := by
  rw [lookup_map2_remove1]
  cases held : m.map2.lookup k with
  | none => rfl
  | some item => simp [Option.filter, free item held]

theorem insert_ok {m : MultiMap K₁ K₂ V} {k1 : K₁} {k2 : K₂} (v : V)
    (free1 : m.get1 k1 = none) (free2 : m.map2.lookup k2 = none) :
    ∃ m', m.insert k1 k2 v = .ok m' ∧
      ∀ k, m'.get1 k = if k = k1 then some v else m.get1 k := by
  have vacant : m.map1.lookup k1 = none := by simpa [get1] using free1
  refine ⟨_, dif_pos ⟨vacant, free2⟩, fun k => ?_⟩
  simp only [get1, lookup_insert_eq]
  split <;> rfl

theorem lookup_map1_insert {m m' : MultiMap K₁ K₂ V} {k1 : K₁} {k2 : K₂} {v : V}
    (inserted : m.insert k1 k2 v = .ok m') (k : K₁) :
    m'.map1.lookup k = if k = k1 then some (k1, k2, v) else m.map1.lookup k := by
  unfold insert at inserted
  split at inserted
  · cases inserted
    exact lookup_insert_eq m.map1 k1 k (k1, k2, v)
  · cases inserted

theorem get1_insert {m m' : MultiMap K₁ K₂ V} {k1 : K₁} {k2 : K₂} {v : V}
    (inserted : m.insert k1 k2 v = .ok m') (k : K₁) :
    m'.get1 k = if k = k1 then some v else m.get1 k := by
  rw [get1, lookup_map1_insert inserted]
  split <;> rfl

end MultiMap

end Rathole
