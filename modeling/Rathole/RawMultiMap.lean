import Rathole.MultiMap

set_option autoImplicit false

/- The map with two keys as the source has it: two tables of pointers into boxed items, over a
heap. A key is hashed and compared through its pointer, so a table whose keys are not all in
live items must not be touched. -/
namespace Rathole

inductive MemoryFault
  /-- A pointer to a freed item is read. -/
  | dangling
  /-- An item is freed for the second time. -/
  | doubleFree
  deriving DecidableEq

/-- The boxes that are allocated, each under an address of its own, and those that were freed,
the last one first. -/
structure Heap (A : Type) where
  live : HashMap Nat A
  next : Nat
  freed : List Nat

namespace Heap

variable {A : Type}

def empty : Heap A := ⟨∅, 0, []⟩

/-- `Box::new`. -/
def box (h : Heap A) (x : A) : Heap A := ⟨h.live.insert h.next x, h.next + 1, h.freed⟩

def read (h : Heap A) (a : Nat) : Except MemoryFault A :=
  match h.live.lookup a with
  | some x => .ok x
  | none => .error .dangling

/-- A write through a pointer. -/
def write (h : Heap A) (a : Nat) (f : A → A) : Except MemoryFault (Heap A) := do
  let x ← h.read a
  .ok { h with live := h.live.insert a (f x) }

/-- The end of a box. -/
def free (h : Heap A) (a : Nat) : Except MemoryFault (Heap A) :=
  if (h.live.lookup a).isSome then .ok ⟨h.live.erase a, h.next, a :: h.freed⟩
  else .error .doubleFree

end Heap

/-- An entry of a table: the item that its `Key` points into, and its `RawItem`. -/
structure Bucket where
  key : Nat
  item : Nat
  deriving DecidableEq

/-- A `HashMap` from `Key`s to `RawItem`s. `field` is the part of an item that the keys point
to. Any key of the table may be read on the way to the one that is sought. -/
abbrev KeyTable := List Bucket

namespace KeyTable

variable {A K : Type} [DecidableEq K] (h : Heap A) (field : A → K)

def find : KeyTable → K → Except MemoryFault (Option Bucket)
  | [], _ => .ok none
  | b :: rest, k => do
    let own ← h.read b.key
    let found ← find rest k
    .ok (if field own = k then some b else found)

def get (t : KeyTable) (k : K) : Except MemoryFault (Option Nat) := do
  let found ← t.find h field k
  .ok (found.map Bucket.item)

/-- An equal key that the table already has stays there. -/
def insert (t : KeyTable) (key item : Nat) : Except MemoryFault KeyTable := do
  let own ← h.read key
  let found ← t.find h field (field own)
  .ok (found.elim (⟨key, item⟩ :: t) fun b => t.replace b ⟨b.key, item⟩)

def remove (t : KeyTable) (k : K) : Except MemoryFault (Option Nat × KeyTable) := do
  let found ← t.find h field k
  .ok (found.map Bucket.item, found.elim t t.erase)

/-- `clear`, of a table whose keys are still there. -/
def clear (t : KeyTable) : Except MemoryFault KeyTable := do
  t.forM fun b => (h.read b.key).map fun _ => ()
  .ok []

end KeyTable

/-- `MultiMap`, with the heap of its items. -/
structure RawMultiMap (K₁ K₂ V : Type) where
  heap : Heap (K₁ × K₂ × V)
  map1 : KeyTable
  map2 : KeyTable

namespace RawMultiMap

variable {K₁ K₂ V : Type} [DecidableEq K₁] [DecidableEq K₂]

def new : RawMultiMap K₁ K₂ V := ⟨.empty, [], []⟩

def key1 (t : K₁ × K₂ × V) : K₁ := t.1

def key2 (t : K₁ × K₂ × V) : K₂ := t.2.1

def insert (m : RawMultiMap K₁ K₂ V) (k1 : K₁) (k2 : K₂) (v : V) :
    Except MemoryFault (Except (K₁ × K₂ × V) Unit × RawMultiMap K₁ K₂ V) := do
  let taken1 ← m.map1.get m.heap key1 k1
  if taken1.isSome then .ok (.error (k1, k2, v), m)
  else
    let taken2 ← m.map2.get m.heap key2 k2
    if taken2.isSome then .ok (.error (k1, k2, v), m)
    else
      let heap := m.heap.box (k1, k2, v)
      let map1 ← m.map1.insert heap key1 m.heap.next m.heap.next
      let map2 ← m.map2.insert heap key2 m.heap.next m.heap.next
      .ok (.ok (), ⟨heap, map1, map2⟩)

/-- The value of an item that a table has found. -/
def valueAt (m : RawMultiMap K₁ K₂ V) : Option Nat → Except MemoryFault (Option V)
  | none => .ok none
  | some item => do
    let t ← m.heap.read item
    .ok (some t.2.2)

/-- What a caller does to a value through a reference that it was given. -/
def writeAt (m : RawMultiMap K₁ K₂ V) (f : V → V) :
    Option Nat → Except MemoryFault (Option V × RawMultiMap K₁ K₂ V)
  | none => .ok (none, m)
  | some item => do
    let t ← m.heap.read item
    let heap ← m.heap.write item fun t => (t.1, t.2.1, f t.2.2)
    .ok (some t.2.2, { m with heap := heap })

def get1 (m : RawMultiMap K₁ K₂ V) (k1 : K₁) : Except MemoryFault (Option V) := do
  let item ← m.map1.get m.heap key1 k1
  m.valueAt item

def get1Mut (m : RawMultiMap K₁ K₂ V) (k1 : K₁) (f : V → V) :
    Except MemoryFault (Option V × RawMultiMap K₁ K₂ V) := do
  let item ← m.map1.get m.heap key1 k1
  m.writeAt f item

def get2 (m : RawMultiMap K₁ K₂ V) (k2 : K₂) : Except MemoryFault (Option V) := do
  let item ← m.map2.get m.heap key2 k2
  m.valueAt item

def getMut2 (m : RawMultiMap K₁ K₂ V) (k2 : K₂) (f : V → V) :
    Except MemoryFault (Option V × RawMultiMap K₁ K₂ V) := do
  let item ← m.map2.get m.heap key2 k2
  m.writeAt f item

/-- The removal by either key. The item is there until the other table has lost its key. -/
def removeBy {A K K' : Type} [DecidableEq K] [DecidableEq K'] (field : A → K) (field' : A → K')
    (h : Heap A) (own other : KeyTable) (k : K) :
    Except MemoryFault (Option A × Heap A × KeyTable × KeyTable) := do
  let (item, own) ← own.remove h field k
  match item with
  | none => .ok (none, h, own, other)
  | some item =>
    let t ← h.read item
    let (_, other) ← other.remove h field' (field' t)
    let h ← h.free item
    .ok (some t, h, own, other)

def remove1 (m : RawMultiMap K₁ K₂ V) (k1 : K₁) :
    Except MemoryFault (Option V × RawMultiMap K₁ K₂ V) := do
  let (t, heap, map1, map2) ← removeBy key1 key2 m.heap m.map1 m.map2 k1
  .ok (t.map (·.2.2), ⟨heap, map1, map2⟩)

def remove2 (m : RawMultiMap K₁ K₂ V) (k2 : K₂) :
    Except MemoryFault (Option V × RawMultiMap K₁ K₂ V) := do
  let (t, heap, map2, map1) ← removeBy key2 key1 m.heap m.map2 m.map1 k2
  .ok (t.map (·.2.2), ⟨heap, map1, map2⟩)

/-- `drain`, each item of which is freed when it is out of the table. -/
def drain : Heap (K₁ × K₂ × V) → KeyTable → Except MemoryFault (Heap (K₁ × K₂ × V))
  | h, [] => .ok h
  | h, b :: rest => do
    (b :: rest).forM fun b => (h.read b.key).map fun _ => ()
    let h ← h.free b.item
    drain h rest

def drop (m : RawMultiMap K₁ K₂ V) : Except MemoryFault (RawMultiMap K₁ K₂ V) := do
  let map1 ← m.map1.clear m.heap
  let heap ← drain m.heap m.map2
  .ok ⟨heap, map1, []⟩

/-- The operations, with what a caller writes through a reference. -/
inductive Op (K₁ K₂ V : Type)
  | insert (k1 : K₁) (k2 : K₂) (v : V)
  | get1 (k1 : K₁)
  | get1Mut (k1 : K₁) (f : V → V)
  | get2 (k2 : K₂)
  | getMut2 (k2 : K₂) (f : V → V)
  | remove1 (k1 : K₁)
  | remove2 (k2 : K₂)

inductive Answer (K₁ K₂ V : Type)
  | inserted (result : Except (K₁ × K₂ × V) Unit)
  | value (result : Option V)

def answered (result : Option V × RawMultiMap K₁ K₂ V) :
    Answer K₁ K₂ V × RawMultiMap K₁ K₂ V := (.value result.1, result.2)

def step (m : RawMultiMap K₁ K₂ V) :
    Op K₁ K₂ V → Except MemoryFault (Answer K₁ K₂ V × RawMultiMap K₁ K₂ V)
  | .insert k1 k2 v => (m.insert k1 k2 v).map fun result => (.inserted result.1, result.2)
  | .get1 k1 => (m.get1 k1).map fun result => (.value result, m)
  | .get1Mut k1 f => (m.get1Mut k1 f).map answered
  | .get2 k2 => (m.get2 k2).map fun result => (.value result, m)
  | .getMut2 k2 f => (m.getMut2 k2 f).map answered
  | .remove1 k1 => (m.remove1 k1).map answered
  | .remove2 k2 => (m.remove2 k2).map answered

def run (m : RawMultiMap K₁ K₂ V) :
    List (Op K₁ K₂ V) → Except MemoryFault (List (Answer K₁ K₂ V) × RawMultiMap K₁ K₂ V)
  | [] => .ok ([], m)
  | op :: rest => do
    let (answer, m) ← m.step op
    let (answers, m) ← run m rest
    .ok (answer :: answers, m)

/-- A table has one entry for each live item, under a key of that item. -/
structure Indexes {A : Type} (h : Heap A) (t : KeyTable) : Prop where
  nodup : t.Nodup
  mem : ∀ b, b ∈ t ↔ b.key = b.item ∧ b.item ∈ h.live

/-- No two live items have the same key. -/
def Distinct {A K : Type} (h : Heap A) (field : A → K) : Prop :=
  ∀ a a' x x', h.live.lookup a = some x → h.live.lookup a' = some x' → field x = field x' → a = a'

/-- Every item that was ever allocated is live or was freed once. -/
structure Accounted {A : Type} (h : Heap A) : Prop where
  known : ∀ a, a < h.next ↔ a ∈ h.live ∨ a ∈ h.freed
  apart : ∀ a ∈ h.freed, a ∉ h.live
  once : h.freed.Nodup

/-- What the operations keep of the map. -/
structure WellFormed (m : RawMultiMap K₁ K₂ V) : Prop where
  index1 : Indexes m.heap m.map1
  index2 : Indexes m.heap m.map2
  distinct1 : Distinct m.heap key1
  distinct2 : Distinct m.heap key2
  accounted : Accounted m.heap

/-- The triples that a map holds. -/
def triples (m : RawMultiMap K₁ K₂ V) : Set (K₁ × K₂ × V) :=
  {t | ∃ a, m.heap.live.lookup a = some t}

/-- No two triples share a key. -/
structure UniqueKeys (T : Set (K₁ × K₂ × V)) : Prop where
  first : ∀ t ∈ T, ∀ t' ∈ T, key1 t = key1 t' → t = t'
  second : ∀ t ∈ T, ∀ t' ∈ T, key2 t = key2 t' → t = t'

/-- The values of the triples that a key selects. -/
def Selects (T : Set (K₁ × K₂ × V)) (chosen : K₁ × K₂ × V → Prop) (result : Option V) : Prop :=
  ∀ v, result = some v ↔ ∃ t ∈ T, chosen t ∧ t.2.2 = v

/-- The triples after a write to the value of those that are selected. -/
def rewritten (T : Set (K₁ × K₂ × V)) (chosen : K₁ × K₂ × V → Prop) (f : V → V) :
    Set (K₁ × K₂ × V) :=
  {t | (t ∈ T ∧ ¬ chosen t) ∨ ∃ t' ∈ T, chosen t' ∧ t = (t'.1, t'.2.1, f t'.2.2)}

/-- What an operation does to a set of triples. -/
def OnTriples (T : Set (K₁ × K₂ × V)) :
    Op K₁ K₂ V → Answer K₁ K₂ V → Set (K₁ × K₂ × V) → Prop
  | .insert k1 k2 v, .inserted result, T' =>
    ((∃ t ∈ T, key1 t = k1 ∨ key2 t = k2) → result = .error (k1, k2, v) ∧ T' = T) ∧
      (¬ (∃ t ∈ T, key1 t = k1 ∨ key2 t = k2) →
        result = .ok () ∧ T' = T ∪ {(k1, k2, v)})
  | .get1 k1, .value result, T' => Selects T (fun t => key1 t = k1) result ∧ T' = T
  | .get2 k2, .value result, T' => Selects T (fun t => key2 t = k2) result ∧ T' = T
  | .get1Mut k1 f, .value result, T' => Selects T (fun t => key1 t = k1) result ∧
      T' = rewritten T (fun t => key1 t = k1) f
  | .getMut2 k2 f, .value result, T' => Selects T (fun t => key2 t = k2) result ∧
      T' = rewritten T (fun t => key2 t = k2) f
  | .remove1 k1, .value result, T' => Selects T (fun t => key1 t = k1) result ∧
      T' = {t ∈ T | key1 t ≠ k1}
  | .remove2 k2, .value result, T' => Selects T (fun t => key2 t = k2) result ∧
      T' = {t ∈ T | key2 t ≠ k2}
  | _, _, _ => False

omit [DecidableEq K₁] [DecidableEq K₂] in
theorem Selects.unique {T : Set (K₁ × K₂ × V)} {chosen : K₁ × K₂ × V → Prop}
    {result result' : Option V} (one : Selects T chosen result) (two : Selects T chosen result') :
    result = result' :=
  Option.ext fun v => (one v).trans (two v).symm

omit [DecidableEq K₁] [DecidableEq K₂] in
/-- An operation on a set of triples has one answer and one result. -/
theorem onTriples_unique {T T₁ T₂ : Set (K₁ × K₂ × V)} {op : Op K₁ K₂ V}
    {answer answer' : Answer K₁ K₂ V} (one : OnTriples T op answer T₁)
    (two : OnTriples T op answer' T₂) : answer = answer' ∧ T₁ = T₂ := by
  cases op with
  | insert k1 k2 v =>
    cases answer <;> cases answer'
    · by_cases taken : ∃ t ∈ T, key1 t = k1 ∨ key2 t = k2
      · obtain ⟨rfl, rfl⟩ := one.1 taken
        obtain ⟨rfl, rfl⟩ := two.1 taken
        exact ⟨rfl, rfl⟩
      · obtain ⟨rfl, rfl⟩ := one.2 taken
        obtain ⟨rfl, rfl⟩ := two.2 taken
        exact ⟨rfl, rfl⟩
    · exact two.elim
    · exact one.elim
    · exact one.elim
  | _ =>
    cases answer <;> cases answer'
    · exact one.elim
    · exact one.elim
    · exact two.elim
    · obtain ⟨selects, rfl⟩ := one
      obtain ⟨selects', rfl⟩ := two
      exact ⟨congrArg Answer.value (selects.unique selects'), rfl⟩

/-- What a sequence of operations does to a set of triples. -/
def OnRun : Set (K₁ × K₂ × V) → List (Op K₁ K₂ V) → List (Answer K₁ K₂ V) →
    Set (K₁ × K₂ × V) → Prop
  | T, [], [], T' => T' = T
  | T, op :: ops, answer :: answers, T' =>
    ∃ between, OnTriples T op answer between ∧ OnRun between ops answers T'
  | _, _, _, _ => False

/-- The keys by which an operation removes. -/
def Op.removes : Op K₁ K₂ V → K₁ × K₂ × V → Prop
  | .remove1 k1, t => key1 t = k1
  | .remove2 k2, t => key2 t = k2
  | _, _ => False

/-- One operation: it touches no freed item, and does to the triples what it should. An item that
it removes is freed, and no other; a refused insertion changes nothing at all. -/
structure Steps (m : RawMultiMap K₁ K₂ V) (op : Op K₁ K₂ V) (answer : Answer K₁ K₂ V)
    (m' : RawMultiMap K₁ K₂ V) : Prop where
  ran : m.step op = .ok (answer, m')
  onTriples : OnTriples m.triples op answer m'.triples
  frees : ∀ a, a ∈ m'.heap.freed ↔
    a ∈ m.heap.freed ∨ ∃ t, m.heap.live.lookup a = some t ∧ op.removes t
  refused : ∀ arguments, answer = .inserted (.error arguments) → m' = m

/-- The end of a map: every item that was ever allocated has been freed, each of them once. -/
structure Dropped (m : RawMultiMap K₁ K₂ V) : Prop where
  empty : m.heap.live = ∅ ∧ m.map1 = [] ∧ m.map2 = []
  freed : ∀ a, m.heap.freed.count a = if a < m.heap.next then 1 else 0

section Find

variable {A K : Type} [DecidableEq K] {h : Heap A} {field : A → K} {t : KeyTable} {k : K} {a : Nat}
  {x : A}

theorem read_live (held : h.live.lookup a = some x) : h.read a = .ok x := by
  simp [Heap.read, held]

theorem mem_live : a ∈ h.live ↔ ∃ x, h.live.lookup a = some x := by
  rw [← Finmap.lookup_isSome, Option.isSome_iff_exists]

/-- A search reads live keys only, and finds an entry when there is one. -/
theorem find_spec (field : A → K) (keys : ∀ b ∈ t, b.key ∈ h.live) (k : K) :
    ∃ found, t.find h field k = .ok found ∧
      (∀ b, found = some b → b ∈ t ∧ ∃ x, h.live.lookup b.key = some x ∧ field x = k) ∧
      (found = none → ∀ b ∈ t, ∀ x, h.live.lookup b.key = some x → field x ≠ k) := by
  induction t with
  | nil => exact ⟨none, rfl, by simp, by simp⟩
  | cons b rest ih =>
    obtain ⟨found, ran, some', none'⟩ := ih fun c there => keys c (List.mem_cons_of_mem b there)
    obtain ⟨x, held⟩ := mem_live.mp (keys b List.mem_cons_self)
    have step : KeyTable.find h field (b :: rest) k =
        .ok (if field x = k then some b else found) := by
      simp [KeyTable.find, read_live held, ran, bind, Except.bind]
    refine ⟨_, step, ?_, ?_⟩
    · intro c chosen
      by_cases same : field x = k
      · rw [if_pos same] at chosen
        cases chosen
        exact ⟨List.mem_cons_self, x, held, same⟩
      · rw [if_neg same] at chosen
        obtain ⟨there, rest⟩ := some' c chosen
        exact ⟨List.mem_cons_of_mem b there, rest⟩
    · intro without c there y held'
      by_cases same : field x = k
      · simp [same] at without
      · rw [if_neg same] at without
        cases List.mem_cons.mp there with
        | inl first =>
          subst first
          rw [held] at held'
          cases held'
          exact same
        | inr later => exact none' without c later y held'

theorem find_none (keys : ∀ b ∈ t, b.key ∈ h.live)
    (free : ∀ b ∈ t, ∀ x, h.live.lookup b.key = some x → field x ≠ k) :
    t.find h field k = .ok none := by
  obtain ⟨found, ran, some', -⟩ := find_spec field keys k
  cases found with
  | none => exact ran
  | some b =>
    obtain ⟨there, x, held, same⟩ := some' b rfl
    exact absurd same (free b there x held)

theorem Indexes.keys (indexes : Indexes h t) (b : Bucket) (there : b ∈ t) : b.key ∈ h.live := by
  obtain ⟨own, live⟩ := (indexes.mem b).mp there
  rw [own]
  exact live

theorem find_held (indexes : Indexes h t) (distinct : Distinct h field)
    (held : h.live.lookup a = some x) : t.find h field (field x) = .ok (some ⟨a, a⟩) := by
  obtain ⟨found, ran, some', none'⟩ := find_spec field indexes.keys (field x)
  cases found with
  | none =>
    have there : (⟨a, a⟩ : Bucket) ∈ t := (indexes.mem _).mpr ⟨rfl, mem_live.mpr ⟨x, held⟩⟩
    exact absurd rfl (none' rfl _ there x held)
  | some b =>
    obtain ⟨there, y, held', same⟩ := some' b rfl
    obtain ⟨key, item⟩ := b
    have own : key = item := ((indexes.mem _).mp there).1
    have here : key = a := distinct _ _ _ _ held' held same
    rw [ran, ← own, here]

theorem find_free (indexes : Indexes h t)
    (free : ∀ a x, h.live.lookup a = some x → field x ≠ k) : t.find h field k = .ok none :=
  find_none indexes.keys fun b _ => free b.key

theorem get_held (indexes : Indexes h t) (distinct : Distinct h field)
    (held : h.live.lookup a = some x) : t.get h field (field x) = .ok (some a) := by
  simp [KeyTable.get, find_held indexes distinct held, bind, Except.bind]

theorem get_free (indexes : Indexes h t)
    (free : ∀ a x, h.live.lookup a = some x → field x ≠ k) : t.get h field k = .ok none := by
  simp [KeyTable.get, find_free indexes free, bind, Except.bind]

theorem remove_held (indexes : Indexes h t) (distinct : Distinct h field)
    (held : h.live.lookup a = some x) :
    t.remove h field (field x) = .ok (some a, t.erase ⟨a, a⟩) := by
  simp [KeyTable.remove, find_held indexes distinct held, bind, Except.bind]

theorem remove_free (indexes : Indexes h t)
    (free : ∀ a x, h.live.lookup a = some x → field x ≠ k) :
    t.remove h field k = .ok (none, t) := by
  simp [KeyTable.remove, find_free indexes free, bind, Except.bind]

end Find

section Heap

variable {A K : Type} {h : Heap A} {field : A → K} {t : KeyTable} {a : Nat} {x : A}

theorem Accounted.fresh (accounted : Accounted h) : h.next ∉ h.live := by
  intro live
  have := (accounted.known h.next).mpr (.inl live)
  omega

theorem lookup_box (h : Heap A) (x : A) (a : Nat) :
    (h.box x).live.lookup a = if a = h.next then some x else h.live.lookup a :=
  lookup_insert_eq h.live h.next a x

theorem mem_box : a ∈ (h.box x).live ↔ a = h.next ∨ a ∈ h.live := Finmap.mem_insert

theorem Indexes.box (indexes : Indexes h t) (accounted : Accounted h) (x : A) :
    Indexes (h.box x) (⟨h.next, h.next⟩ :: t) := by
  constructor
  · refine List.nodup_cons.mpr ⟨?_, indexes.nodup⟩
    intro there
    exact accounted.fresh ((indexes.mem _).mp there).2
  · intro b
    rw [List.mem_cons, indexes.mem, mem_box]
    obtain ⟨key, item⟩ := b
    simp only [Bucket.mk.injEq]
    constructor
    · intro either
      cases either with
      | inl here => exact ⟨here.1.trans here.2.symm, .inl here.2⟩
      | inr there => exact ⟨there.1, .inr there.2⟩
    · intro ⟨own, live⟩
      cases live with
      | inl here => exact .inl ⟨own.trans here, here⟩
      | inr there => exact .inr ⟨own, there⟩

theorem Distinct.box (distinct : Distinct h field)
    (free : ∀ a y, h.live.lookup a = some y → field y ≠ field x) : Distinct (h.box x) field := by
  intro a a' y y' held held' same
  rw [lookup_box] at held held'
  by_cases here : a = h.next
  · rw [if_pos here] at held
    cases held
    by_cases here' : a' = h.next
    · rw [here, here']
    · rw [if_neg here'] at held'
      exact absurd same.symm (free a' y' held')
  · rw [if_neg here] at held
    by_cases here' : a' = h.next
    · rw [if_pos here'] at held'
      cases held'
      exact absurd same (free a y held)
    · rw [if_neg here'] at held'
      exact distinct a a' y y' held held' same

theorem Accounted.box (accounted : Accounted h) (x : A) : Accounted (h.box x) := by
  have freed : (h.box x).freed = h.freed := rfl
  refine ⟨?_, ?_, accounted.once⟩
  · intro a
    have next : (h.box x).next = h.next + 1 := rfl
    have known := accounted.known a
    rw [freed, next, mem_box, Nat.lt_succ_iff_lt_or_eq, known]
    tauto
  · intro a gone
    rw [mem_box, not_or]
    refine ⟨?_, accounted.apart a gone⟩
    have := (accounted.known a).mpr (.inr gone)
    omega

/-- What is left of the heap when an item is freed. -/
def freeing (h : Heap A) (a : Nat) : Heap A := ⟨h.live.erase a, h.next, a :: h.freed⟩

theorem free_live (held : h.live.lookup a = some x) : h.free a = .ok (freeing h a) := by
  simp [Heap.free, held, freeing]

theorem mem_freeing {b : Nat} : b ∈ (freeing h a).live ↔ b ≠ a ∧ b ∈ h.live := Finmap.mem_erase

theorem Indexes.freeing (indexes : Indexes h t) (a : Nat) :
    Indexes (freeing h a) (t.erase ⟨a, a⟩) := by
  refine ⟨indexes.nodup.erase _, ?_⟩
  intro b
  rw [indexes.nodup.mem_erase_iff, indexes.mem, mem_freeing]
  obtain ⟨key, item⟩ := b
  simp only [ne_eq, Bucket.mk.injEq]
  constructor
  · intro ⟨other, own, live⟩
    refine ⟨own, ?_, live⟩
    intro here
    exact other ⟨own.trans here, here⟩
  · intro ⟨own, other, live⟩
    exact ⟨fun both => other both.2, own, live⟩

theorem Distinct.freeing (distinct : Distinct h field) (a : Nat) :
    Distinct (freeing h a) field := by
  have kept {b : Nat} {y : A} (held : (RawMultiMap.freeing h a).live.lookup b = some y) :
      h.live.lookup b = some y := by
    have erased := lookup_erase_eq h.live a b
    change (h.live.erase a).lookup b = some y at held
    rw [erased] at held
    by_cases here : b = a
    · simp [here] at held
    · simpa [here] using held
  intro b b' y y' held held' same
  exact distinct b b' y y' (kept held) (kept held') same

theorem Accounted.freeing (accounted : Accounted h) (live : a ∈ h.live) :
    Accounted (freeing h a) := by
  refine ⟨?_, ?_, ?_⟩
  · intro b
    have known := accounted.known b
    rw [mem_freeing]
    change b < h.next ↔ _ ∨ b ∈ a :: h.freed
    rw [known, List.mem_cons]
    by_cases here : b = a
    · simp [here, live]
    · simp [here]
  · intro b gone
    rw [mem_freeing]
    intro ⟨other, live'⟩
    cases List.mem_cons.mp gone with
    | inl here => exact other here
    | inr before => exact accounted.apart b before live'
  · refine List.nodup_cons.mpr ⟨?_, accounted.once⟩
    intro before
    exact accounted.apart a before live

/-- The heap after a write to an item. -/
def writing (h : Heap A) (a : Nat) (y : A) : Heap A := ⟨h.live.insert a y, h.next, h.freed⟩

theorem write_live (held : h.live.lookup a = some x) (f : A → A) :
    h.write a f = .ok (writing h a (f x)) := by
  simp [Heap.write, read_live held, bind, Except.bind, writing]

theorem mem_writing {y : A} (live : a ∈ h.live) {b : Nat} : b ∈ (writing h a y).live ↔ b ∈ h.live := by
  have inserted : b ∈ (writing h a y).live ↔ b = a ∨ b ∈ h.live := Finmap.mem_insert
  rw [inserted]
  constructor
  · intro either
    cases either with
    | inl here =>
      rw [here]
      exact live
    | inr there => exact there
  · exact .inr

theorem lookup_writing (h : Heap A) (a b : Nat) (y : A) :
    (writing h a y).live.lookup b = if b = a then some y else h.live.lookup b :=
  lookup_insert_eq h.live a b y

theorem Indexes.writing (indexes : Indexes h t) (live : a ∈ h.live) (y : A) :
    Indexes (writing h a y) t := by
  refine ⟨indexes.nodup, ?_⟩
  intro b
  rw [indexes.mem, mem_writing live]

theorem Distinct.writing (distinct : Distinct h field) (held : h.live.lookup a = some x) {y : A}
    (same : field y = field x) : Distinct (writing h a y) field := by
  have before {b : Nat} {z : A} (held' : (RawMultiMap.writing h a y).live.lookup b = some z) :
      ∃ z', h.live.lookup b = some z' ∧ field z' = field z := by
    rw [lookup_writing] at held'
    by_cases here : b = a
    · rw [if_pos here] at held'
      cases held'
      rw [here]
      exact ⟨x, held, same.symm⟩
    · rw [if_neg here] at held'
      exact ⟨z, held', rfl⟩
  intro b b' z z' held' held'' equal
  obtain ⟨w, first, here⟩ := before held'
  obtain ⟨w', second, here'⟩ := before held''
  apply distinct b b' w w' first second
  rw [here, here', equal]

theorem Accounted.writing (accounted : Accounted h) (live : a ∈ h.live) (y : A) :
    Accounted (writing h a y) := by
  refine ⟨?_, ?_, accounted.once⟩
  · intro b
    rw [mem_writing live]
    exact accounted.known b
  · intro b gone
    rw [mem_writing live]
    exact accounted.apart b gone

end Heap

section Selects

omit [DecidableEq K₁] [DecidableEq K₂]

variable {K : Type} {m : RawMultiMap K₁ K₂ V} {field : K₁ × K₂ × V → K} {k : K} {a : Nat}
  {t : K₁ × K₂ × V}

theorem selects_held (distinct : Distinct m.heap field) (held : m.heap.live.lookup a = some t) :
    Selects m.triples (fun t' => field t' = field t) (some t.2.2) := by
  intro v
  constructor
  · intro same
    cases same
    exact ⟨t, ⟨a, held⟩, rfl, rfl⟩
  · intro ⟨t', ⟨a', held'⟩, same, value⟩
    have here := distinct a' a t' t held' held same
    rw [here, held] at held'
    cases held'
    rw [value]

theorem selects_free (free : ∀ a x, m.heap.live.lookup a = some x → field x ≠ k) :
    Selects m.triples (fun t' => field t' = k) none := by
  intro v
  constructor
  · intro same
    cases same
  · intro ⟨t', ⟨a', held'⟩, same, _⟩
    exact absurd same (free a' t' held')

/-- Either one live item has the key, or none has it. -/
theorem held_or_free (h : Heap (K₁ × K₂ × V)) (field : K₁ × K₂ × V → K) (k : K) :
    (∃ a t, h.live.lookup a = some t ∧ field t = k) ∨
      ∀ a x, h.live.lookup a = some x → field x ≠ k := by
  by_cases held : ∃ a t, h.live.lookup a = some t ∧ field t = k
  · exact .inl held
  · right
    intro a x held' same
    exact held ⟨a, x, held', same⟩

theorem triples_freeing (distinct : Distinct m.heap field)
    (held : m.heap.live.lookup a = some t) (map1 map2 : KeyTable) :
    triples ⟨freeing m.heap a, map1, map2⟩ = {t' ∈ m.triples | field t' ≠ field t} := by
  apply Set.ext
  intro t'
  constructor
  · intro ⟨a', held'⟩
    change (m.heap.live.erase a).lookup a' = some t' at held'
    rw [lookup_erase_eq] at held'
    by_cases here : a' = a
    · simp [here] at held'
    · rw [if_neg here] at held'
      exact ⟨⟨a', held'⟩, fun same => here (distinct a' a t' t held' held same)⟩
  · intro ⟨⟨a', held'⟩, other⟩
    refine ⟨a', ?_⟩
    change (m.heap.live.erase a).lookup a' = some t'
    rw [lookup_erase_eq, if_neg, held']
    intro here
    rw [here, held] at held'
    cases held'
    exact other rfl

theorem triples_box (accounted : Accounted m.heap) (t : K₁ × K₂ × V) (map1 map2 : KeyTable) :
    triples ⟨m.heap.box t, map1, map2⟩ = m.triples ∪ {t} := by
  apply Set.ext
  intro t'
  constructor
  · intro ⟨a, held⟩
    rw [lookup_box] at held
    by_cases here : a = m.heap.next
    · rw [if_pos here] at held
      cases held
      exact .inr rfl
    · rw [if_neg here] at held
      exact .inl ⟨a, held⟩
  · intro either
    cases either with
    | inl there =>
      obtain ⟨a, held⟩ := there
      refine ⟨a, ?_⟩
      rw [lookup_box, if_neg, held]
      intro here
      rw [here] at held
      exact accounted.fresh (mem_live.mpr ⟨t', held⟩)
    | inr new =>
      cases new
      refine ⟨m.heap.next, ?_⟩
      rw [lookup_box, if_pos rfl]

theorem frees_freeing (distinct : Distinct m.heap field) (held : m.heap.live.lookup a = some t)
    (b : Nat) : b ∈ (freeing m.heap a).freed ↔
      b ∈ m.heap.freed ∨ ∃ t', m.heap.live.lookup b = some t' ∧ field t' = field t := by
  change b ∈ a :: m.heap.freed ↔ _
  rw [List.mem_cons]
  constructor
  · intro either
    cases either with
    | inl here =>
      rw [here]
      exact .inr ⟨t, held, rfl⟩
    | inr before => exact .inl before
  · intro either
    cases either with
    | inl before => exact .inr before
    | inr here =>
      obtain ⟨t', held', same⟩ := here
      exact .inl (distinct b a t' t held' held same)

theorem frees_free (free : ∀ a x, m.heap.live.lookup a = some x → field x ≠ k) (b : Nat) :
    b ∈ m.heap.freed ↔
      b ∈ m.heap.freed ∨ ∃ t', m.heap.live.lookup b = some t' ∧ field t' = k := by
  constructor
  · exact .inl
  · intro either
    cases either with
    | inl before => exact before
    | inr here =>
      obtain ⟨t', held', same⟩ := here
      exact absurd same (free b t' held')

theorem triples_writing (distinct : Distinct m.heap field)
    (held : m.heap.live.lookup a = some t) (f : V → V) (map1 map2 : KeyTable) :
    triples ⟨writing m.heap a (t.1, t.2.1, f t.2.2), map1, map2⟩ =
      rewritten m.triples (fun t' => field t' = field t) f := by
  apply Set.ext
  intro t'
  constructor
  · intro ⟨a', held'⟩
    rw [lookup_writing] at held'
    by_cases here : a' = a
    · rw [if_pos here] at held'
      cases held'
      exact .inr ⟨t, ⟨a, held⟩, rfl, rfl⟩
    · rw [if_neg here] at held'
      exact .inl ⟨⟨a', held'⟩, fun same => here (distinct a' a t' t held' held same)⟩
  · intro either
    cases either with
    | inl kept =>
      obtain ⟨⟨a', held'⟩, other⟩ := kept
      refine ⟨a', ?_⟩
      rw [lookup_writing, if_neg, held']
      intro here
      rw [here, held] at held'
      cases held'
      exact other rfl
    | inr changed =>
      obtain ⟨t'', ⟨a', held'⟩, same, value⟩ := changed
      have here := distinct a' a t'' t held' held same
      rw [here, held] at held'
      cases held'
      refine ⟨a, ?_⟩
      rw [lookup_writing, if_pos rfl, value]

theorem rewritten_free (free : ∀ a x, m.heap.live.lookup a = some x → field x ≠ k) (f : V → V) :
    rewritten m.triples (fun t' => field t' = k) f = m.triples := by
  apply Set.ext
  intro t'
  constructor
  · intro either
    cases either with
    | inl kept => exact kept.1
    | inr changed =>
      obtain ⟨t'', ⟨a', held'⟩, same, _⟩ := changed
      exact absurd same (free a' t'' held')
  · intro ⟨a', held'⟩
    exact .inl ⟨⟨a', held'⟩, free a' t' held'⟩

theorem kept_free (free : ∀ a x, m.heap.live.lookup a = some x → field x ≠ k) :
    {t' ∈ m.triples | field t' ≠ k} = m.triples := by
  apply Set.ext
  intro t'
  constructor
  · exact And.left
  · intro ⟨a', held'⟩
    exact ⟨⟨a', held'⟩, free a' t' held'⟩

theorem WellFormed.writing (formed : m.WellFormed)
    (held : m.heap.live.lookup a = some t) (v : V) :
    WellFormed ⟨writing m.heap a (t.1, t.2.1, v), m.map1, m.map2⟩ := by
  have live := mem_live.mpr ⟨t, held⟩
  exact ⟨formed.index1.writing live _, formed.index2.writing live _,
    formed.distinct1.writing held rfl, formed.distinct2.writing held rfl,
    formed.accounted.writing live _⟩

theorem WellFormed.freeing (formed : m.WellFormed) (live : a ∈ m.heap.live) :
    WellFormed ⟨freeing m.heap a, m.map1.erase ⟨a, a⟩, m.map2.erase ⟨a, a⟩⟩ :=
  ⟨formed.index1.freeing a, formed.index2.freeing a, formed.distinct1.freeing a,
    formed.distinct2.freeing a, formed.accounted.freeing live⟩

theorem WellFormed.box (formed : m.WellFormed) (t : K₁ × K₂ × V)
    (free1 : ∀ a t', m.heap.live.lookup a = some t' → key1 t' ≠ key1 t)
    (free2 : ∀ a t', m.heap.live.lookup a = some t' → key2 t' ≠ key2 t) :
    WellFormed ⟨m.heap.box t, ⟨m.heap.next, m.heap.next⟩ :: m.map1,
      ⟨m.heap.next, m.heap.next⟩ :: m.map2⟩ :=
  ⟨formed.index1.box formed.accounted t, formed.index2.box formed.accounted t,
    formed.distinct1.box free1, formed.distinct2.box free2, formed.accounted.box t⟩

end Selects

section Steps

variable {K : Type} [DecidableEq K] {m : RawMultiMap K₁ K₂ V} {field : K₁ × K₂ × V → K}
  {own : KeyTable} (k : K)

omit [DecidableEq K₁] [DecidableEq K₂] in
/-- A reading by either key. -/
theorem valueAt_get (indexes : Indexes m.heap own) (distinct : Distinct m.heap field) :
    ∃ result, (own.get m.heap field k >>= m.valueAt) = .ok result ∧
      Selects m.triples (fun t => field t = k) result := by
  cases held_or_free m.heap field k with
  | inl found =>
    obtain ⟨a, t, held, rfl⟩ := found
    refine ⟨some t.2.2, ?_, selects_held distinct held⟩
    simp [get_held indexes distinct held, valueAt, read_live held, bind, Except.bind]
  | inr free =>
    refine ⟨none, ?_, selects_free free⟩
    simp [get_free indexes free, valueAt, bind, Except.bind]

omit [DecidableEq K₁] [DecidableEq K₂] in
/-- A writing by either key. -/
theorem writeAt_get (formed : m.WellFormed) (indexes : Indexes m.heap own)
    (distinct : Distinct m.heap field) (f : V → V) :
    ∃ result m', (own.get m.heap field k >>= m.writeAt f) = .ok (result, m') ∧
      Selects m.triples (fun t => field t = k) result ∧
      m'.triples = rewritten m.triples (fun t => field t = k) f ∧
      m'.heap.freed = m.heap.freed ∧ m'.WellFormed := by
  cases held_or_free m.heap field k with
  | inl found =>
    obtain ⟨a, t, held, rfl⟩ := found
    refine ⟨some t.2.2, ⟨writing m.heap a (t.1, t.2.1, f t.2.2), m.map1, m.map2⟩, ?_,
      selects_held distinct held, triples_writing distinct held f _ _, rfl, formed.writing held _⟩
    simp [get_held indexes distinct held, writeAt, read_live held, write_live held, bind,
      Except.bind]
  | inr free =>
    refine ⟨none, m, ?_, selects_free free, (rewritten_free free f).symm, rfl, formed⟩
    simp [get_free indexes free, writeAt, bind, Except.bind]

/-- A removal by either key: the heap loses the item that it finds, and both tables lose the
entry of that item. -/
theorem removeBy_spec {A K K' : Type} [DecidableEq K] [DecidableEq K'] {h : Heap A}
    {field : A → K} {field' : A → K'} {own other : KeyTable} (indexes : Indexes h own)
    (indexes' : Indexes h other) (distinct : Distinct h field) (distinct' : Distinct h field')
    (k : K) :
    (∃ a t, h.live.lookup a = some t ∧ field t = k ∧
      removeBy field field' h own other k =
        .ok (some t, freeing h a, own.erase ⟨a, a⟩, other.erase ⟨a, a⟩)) ∨
    ((∀ a t, h.live.lookup a = some t → field t ≠ k) ∧
      removeBy field field' h own other k = .ok (none, h, own, other)) := by
  by_cases found : ∃ a t, h.live.lookup a = some t ∧ field t = k
  · obtain ⟨a, t, held, rfl⟩ := found
    refine .inl ⟨a, t, held, rfl, ?_⟩
    simp [removeBy, remove_held indexes distinct held, read_live held,
      remove_held indexes' distinct' held, free_live held, bind, Except.bind]
  · have free : ∀ a t, h.live.lookup a = some t → field t ≠ k := by
      intro a t held same
      exact found ⟨a, t, held, same⟩
    refine .inr ⟨free, ?_⟩
    simp [removeBy, remove_free indexes free, bind, Except.bind]

omit [DecidableEq K₁] [DecidableEq K₂] in
/-- The entry of a new item goes into a table that has no such key. -/
theorem insert_fresh (indexes : Indexes m.heap own) (accounted : Accounted m.heap)
    (t : K₁ × K₂ × V) (free : ∀ a t', m.heap.live.lookup a = some t' → field t' ≠ field t) :
    own.insert (m.heap.box t) field m.heap.next m.heap.next =
      .ok (⟨m.heap.next, m.heap.next⟩ :: own) := by
  have held : (m.heap.box t).live.lookup m.heap.next = some t := by
    rw [lookup_box, if_pos rfl]
  have keys : ∀ b ∈ own, b.key ∈ (m.heap.box t).live := by
    intro b there
    exact mem_box.mpr (.inr (indexes.keys b there))
  have absent : ∀ b ∈ own, ∀ t', (m.heap.box t).live.lookup b.key = some t' →
      field t' ≠ field t := by
    intro b there t' held'
    rw [lookup_box, if_neg] at held'
    · exact free b.key t' held'
    · intro here
      have live := indexes.keys b there
      rw [here] at live
      exact accounted.fresh live
  simp [KeyTable.insert, read_live held, find_none keys absent, bind, Except.bind]

end Steps

section Operations

variable {m : RawMultiMap K₁ K₂ V}

theorem steps_insert (formed : m.WellFormed) (k1 : K₁) (k2 : K₂) (v : V) :
    ∃ answer m', Steps m (.insert k1 k2 v) answer m' ∧ m'.WellFormed := by
  cases held_or_free m.heap key1 k1 with
  | inl found =>
    obtain ⟨a, t, held, rfl⟩ := found
    refine ⟨.inserted (.error (key1 t, k2, v)), m, ⟨?_, ?_, ?_, fun _ _ => rfl⟩, formed⟩
    · simp [step, insert, get_held formed.index1 formed.distinct1 held, bind, Except.bind,
        Except.map]
    · refine ⟨fun _ => ⟨rfl, rfl⟩, fun free => ?_⟩
      exact absurd ⟨t, ⟨a, held⟩, .inl rfl⟩ free
    · simp [Op.removes]
  | inr free1 =>
    cases held_or_free m.heap key2 k2 with
    | inl found =>
      obtain ⟨a, t, held, rfl⟩ := found
      refine ⟨.inserted (.error (k1, key2 t, v)), m, ⟨?_, ?_, ?_, fun _ _ => rfl⟩, formed⟩
      · simp [step, insert, get_free formed.index1 free1,
          get_held formed.index2 formed.distinct2 held, bind, Except.bind, Except.map]
      · refine ⟨fun _ => ⟨rfl, rfl⟩, fun free => ?_⟩
        exact absurd ⟨t, ⟨a, held⟩, .inr rfl⟩ free
      · simp [Op.removes]
    | inr free2 =>
      have boxed := formed.box (k1, k2, v) free1 free2
      refine ⟨.inserted (.ok ()), _, ⟨?_, ?_, ?_, ?_⟩, boxed⟩
      · simp [step, insert, get_free formed.index1 free1, get_free formed.index2 free2,
          insert_fresh formed.index1 formed.accounted (k1, k2, v) free1,
          insert_fresh formed.index2 formed.accounted (k1, k2, v) free2, bind, Except.bind,
          Except.map]
      · constructor
        · intro ⟨t, ⟨a, held⟩, taken⟩
          cases taken with
          | inl same => exact absurd same (free1 a t held)
          | inr same => exact absurd same (free2 a t held)
        · intro _
          exact ⟨rfl, triples_box formed.accounted (k1, k2, v) _ _⟩
      · simp [Op.removes, Heap.box]
      · intro arguments refused
        cases refused

theorem steps_remove1 (formed : m.WellFormed) (k1 : K₁) :
    ∃ answer m', Steps m (.remove1 k1) answer m' ∧ m'.WellFormed := by
  cases removeBy_spec formed.index1 formed.index2 formed.distinct1 formed.distinct2 k1 with
  | inl found =>
    obtain ⟨a, t, held, rfl, ran⟩ := found
    refine ⟨.value (some t.2.2), _, ⟨?_, ?_, ?_, ?_⟩, formed.freeing (mem_live.mpr ⟨t, held⟩)⟩
    · simp [step, remove1, ran, answered, bind, Except.bind, Except.map]
    · exact ⟨selects_held formed.distinct1 held, triples_freeing formed.distinct1 held _ _⟩
    · exact frees_freeing formed.distinct1 held
    · intro arguments refused
      cases refused
  | inr free =>
    obtain ⟨free, ran⟩ := free
    refine ⟨.value none, m, ⟨?_, ?_, ?_, ?_⟩, formed⟩
    · simp [step, remove1, ran, answered, bind, Except.bind, Except.map]
    · exact ⟨selects_free free, (kept_free free).symm⟩
    · exact frees_free free
    · intro arguments refused
      cases refused

theorem steps_remove2 (formed : m.WellFormed) (k2 : K₂) :
    ∃ answer m', Steps m (.remove2 k2) answer m' ∧ m'.WellFormed := by
  cases removeBy_spec formed.index2 formed.index1 formed.distinct2 formed.distinct1 k2 with
  | inl found =>
    obtain ⟨a, t, held, rfl, ran⟩ := found
    refine ⟨.value (some t.2.2), _, ⟨?_, ?_, ?_, ?_⟩, formed.freeing (mem_live.mpr ⟨t, held⟩)⟩
    · simp [step, remove2, ran, answered, bind, Except.bind, Except.map]
    · exact ⟨selects_held formed.distinct2 held, triples_freeing formed.distinct2 held _ _⟩
    · exact frees_freeing formed.distinct2 held
    · intro arguments refused
      cases refused
  | inr free =>
    obtain ⟨free, ran⟩ := free
    refine ⟨.value none, m, ⟨?_, ?_, ?_, ?_⟩, formed⟩
    · simp [step, remove2, ran, answered, bind, Except.bind, Except.map]
    · exact ⟨selects_free free, (kept_free free).symm⟩
    · exact frees_free free
    · intro arguments refused
      cases refused

/-- Each operation, on a map that is well formed. -/
theorem WellFormed.steps (formed : m.WellFormed) (op : Op K₁ K₂ V) :
    ∃ answer m', Steps m op answer m' ∧ m'.WellFormed := by
  cases op with
  | insert k1 k2 v => exact steps_insert formed k1 k2 v
  | remove1 k1 => exact steps_remove1 formed k1
  | remove2 k2 => exact steps_remove2 formed k2
  | get1 k1 =>
    obtain ⟨result, ran, selects⟩ := valueAt_get k1 formed.index1 formed.distinct1
    refine ⟨.value result, m, ⟨?_, ⟨selects, rfl⟩, ?_, ?_⟩, formed⟩
    · simp [step, get1, ran, Except.map]
    · simp [Op.removes]
    · intro arguments refused
      cases refused
  | get2 k2 =>
    obtain ⟨result, ran, selects⟩ := valueAt_get k2 formed.index2 formed.distinct2
    refine ⟨.value result, m, ⟨?_, ⟨selects, rfl⟩, ?_, ?_⟩, formed⟩
    · simp [step, get2, ran, Except.map]
    · simp [Op.removes]
    · intro arguments refused
      cases refused
  | get1Mut k1 f =>
    obtain ⟨result, m', ran, selects, triples, freed, formed'⟩ :=
      writeAt_get k1 formed formed.index1 formed.distinct1 f
    refine ⟨.value result, m', ⟨?_, ⟨selects, triples⟩, ?_, ?_⟩, formed'⟩
    · simp [step, get1Mut, ran, answered, Except.map]
    · simp [Op.removes, freed]
    · intro arguments refused
      cases refused
  | getMut2 k2 f =>
    obtain ⟨result, m', ran, selects, triples, freed, formed'⟩ :=
      writeAt_get k2 formed formed.index2 formed.distinct2 f
    refine ⟨.value result, m', ⟨?_, ⟨selects, triples⟩, ?_, ?_⟩, formed'⟩
    · simp [step, getMut2, ran, answered, Except.map]
    · simp [Op.removes, freed]
    · intro arguments refused
      cases refused

theorem WellFormed.run (formed : m.WellFormed) (ops : List (Op K₁ K₂ V)) :
    ∃ answers m', m.run ops = .ok (answers, m') ∧ OnRun m.triples ops answers m'.triples ∧
      m'.WellFormed := by
  induction ops generalizing m with
  | nil => exact ⟨[], m, rfl, rfl, formed⟩
  | cons op ops ih =>
    obtain ⟨answer, between, steps, formed'⟩ := formed.steps op
    obtain ⟨answers, m', ran, onRun, formed''⟩ := ih formed'
    refine ⟨answer :: answers, m', ?_, ⟨_, steps.onTriples, onRun⟩, formed''⟩
    simp [RawMultiMap.run, steps.ran, ran, bind, Except.bind]

end Operations

section Drop

omit [DecidableEq K₁] [DecidableEq K₂]

variable {m : RawMultiMap K₁ K₂ V}

theorem forM_keys {A : Type} {h : Heap A} {t : KeyTable} (keys : ∀ b ∈ t, b.key ∈ h.live) :
    (t.forM fun b => (h.read b.key).map fun _ => ()) = .ok () := by
  induction t with
  | nil => rfl
  | cons b rest ih =>
    obtain ⟨x, held⟩ := mem_live.mp (keys b List.mem_cons_self)
    have first : ((h.read b.key).map fun _ => ()) = .ok () := by
      rw [read_live held]
      rfl
    rw [List.forM, first]
    exact ih fun c there => keys c (List.mem_cons_of_mem b there)

theorem drain_spec {h : Heap (K₁ × K₂ × V)} {t : KeyTable} (indexes : Indexes h t)
    (accounted : Accounted h) :
    ∃ h', drain h t = .ok h' ∧ h'.live = ∅ ∧ Accounted h' := by
  induction t generalizing h with
  | nil =>
    refine ⟨h, rfl, ?_, accounted⟩
    apply Finmap.ext_lookup
    intro a
    rw [Finmap.lookup_empty, Finmap.lookup_eq_none]
    intro live
    cases (indexes.mem ⟨a, a⟩).mpr ⟨rfl, live⟩
  | cons b rest ih =>
    obtain ⟨own, live⟩ := (indexes.mem b).mp List.mem_cons_self
    have entry : b = ⟨b.item, b.item⟩ := by
      rw [Bucket.mk.injEq] at *
      exact ⟨own, rfl⟩
    obtain ⟨x, held⟩ := mem_live.mp live
    have smaller := indexes.freeing b.item
    rw [← entry, List.erase_cons_head] at smaller
    obtain ⟨h', ran, empty, accounted'⟩ := ih smaller (accounted.freeing live)
    refine ⟨h', ?_, empty, accounted'⟩
    simp only [drain, forM_keys indexes.keys, free_live held, bind, Except.bind]
    exact ran

theorem WellFormed.drop (formed : m.WellFormed) : ∃ m', m.drop = .ok m' ∧ Dropped m' := by
  obtain ⟨heap, drained, empty, accounted⟩ := drain_spec formed.index2 formed.accounted
  refine ⟨⟨heap, [], []⟩, ?_, ⟨empty, rfl, rfl⟩, ?_⟩
  · simp only [RawMultiMap.drop, KeyTable.clear, forM_keys formed.index1.keys, drained, bind,
      Except.bind]
  · intro a
    have known := accounted.known a
    rw [empty] at known
    rw [accounted.once.count]
    simp only [known, Finmap.notMem_empty, false_or]

theorem WellFormed.uniqueKeys (formed : m.WellFormed) : UniqueKeys m.triples := by
  constructor
  · intro t ⟨a, held⟩ t' ⟨a', held'⟩ same
    have here := formed.distinct1 a a' t t' held held' same
    rw [here, held'] at held
    exact (Option.some.inj held).symm
  · intro t ⟨a, held⟩ t' ⟨a', held'⟩ same
    have here := formed.distinct2 a a' t t' held held' same
    rw [here, held'] at held
    exact (Option.some.inj held).symm

theorem wellFormed_new : (new : RawMultiMap K₁ K₂ V).WellFormed := by
  have without (a : Nat) : a ∉ (new : RawMultiMap K₁ K₂ V).heap.live := Finmap.notMem_empty
  have lookup (a : Nat) : (new : RawMultiMap K₁ K₂ V).heap.live.lookup a = none :=
    Finmap.lookup_empty a
  have indexes : Indexes (new : RawMultiMap K₁ K₂ V).heap [] := by
    refine ⟨List.nodup_nil, ?_⟩
    intro b
    simp [without]
  refine ⟨indexes, indexes, ?_, ?_, ?_, ?_, List.nodup_nil⟩
  · intro a a' t t' held
    rw [lookup] at held
    cases held
  · intro a a' t t' held
    rw [lookup] at held
    cases held
  · intro a
    apply iff_of_false (Nat.not_lt_zero a)
    intro either
    cases either with
    | inl live => exact without a live
    | inr gone => cases gone
  · intro a gone
    exact without a

theorem triples_new : (new : RawMultiMap K₁ K₂ V).triples = ∅ := by
  apply Set.eq_empty_of_forall_notMem
  intro t ⟨a, held⟩
  cases held

end Drop

/-- Any sequence of operations runs without touching a freed item, and does to the map what it
does to a set of triples that share no key. From where it ends every operation goes on like
this, and the end of the map frees what is left. -/
theorem runs_as_triples (ops : List (Op K₁ K₂ V)) : ∃ answers m,
    (new : RawMultiMap K₁ K₂ V).run ops = .ok (answers, m) ∧ OnRun ∅ ops answers m.triples ∧
      UniqueKeys m.triples ∧ m.WellFormed ∧ (∀ op, ∃ answer m', Steps m op answer m') ∧
      ∃ m', m.drop = .ok m' ∧ Dropped m' := by
  obtain ⟨answers, m, ran, onRun, formed⟩ := wellFormed_new.run ops
  rw [triples_new] at onRun
  refine ⟨answers, m, ran, onRun, formed.uniqueKeys, formed, ?_, formed.drop⟩
  intro op
  obtain ⟨answer, m', steps, _⟩ := formed.steps op
  exact ⟨answer, m', steps⟩

end RawMultiMap

/- The map of the server's model, which has no heap, does the same to a set of triples. -/
namespace MultiMap

open RawMultiMap (OnTriples Selects key1 key2)

variable {K₁ K₂ V : Type} [DecidableEq K₁] [DecidableEq K₂] (m : MultiMap K₁ K₂ V)

def triples : Set (K₁ × K₂ × V) := {t | m.map1.lookup (key1 t) = some t}

theorem mem_triples (t : K₁ × K₂ × V) : t ∈ m.triples ↔ m.map2.lookup (key2 t) = some t := by
  constructor
  · intro held
    exact (m.indexed1 _ t held).2
  · intro held
    exact (m.indexed2 _ t held).2

theorem get1_onTriples (k1 : K₁) :
    OnTriples m.triples (.get1 k1) (.value (m.get1 k1)) m.triples := by
  refine ⟨?_, rfl⟩
  intro v
  unfold get1
  rw [Option.map_eq_some_iff]
  constructor
  · intro ⟨t, held, value⟩
    have own := (m.indexed1 k1 t held).1
    exact ⟨t, by rwa [← own] at held, own, value⟩
  · intro ⟨t, held, own, value⟩
    exact ⟨t, by rw [← own]; exact held, value⟩

theorem get2_onTriples (k2 : K₂) :
    OnTriples m.triples (.get2 k2) (.value (m.get2 k2)) m.triples := by
  refine ⟨?_, rfl⟩
  intro v
  unfold get2
  rw [Option.map_eq_some_iff]
  constructor
  · intro ⟨t, held, value⟩
    have own := (m.indexed2 k2 t held).1
    exact ⟨t, (m.mem_triples t).mpr (by rwa [← own] at held), own, value⟩
  · intro ⟨t, held, own, value⟩
    exact ⟨t, by rw [← own]; exact (m.mem_triples t).mp held, value⟩

theorem remove1_onTriples (k1 : K₁) :
    OnTriples m.triples (.remove1 k1) (.value (m.remove1 k1).1) (m.remove1 k1).2.triples := by
  refine ⟨?_, ?_⟩
  · rw [remove1_value]
    exact (m.get1_onTriples k1).1
  · apply Set.ext
    intro t
    change (m.remove1 k1).2.map1.lookup (key1 t) = some t ↔
      m.map1.lookup (key1 t) = some t ∧ key1 t ≠ k1
    rw [lookup_map1_remove1]
    by_cases same : key1 t = k1
    · simp [same]
    · simp [same]

theorem insert_onTriples (k1 : K₁) (k2 : K₂) (v : V) :
    OnTriples m.triples (.insert k1 k2 v) (.inserted ((m.insert k1 k2 v).map fun _ => ()))
      ((m.insert k1 k2 v).toOption.getD m).triples := by
  have taken_iff : (∃ t ∈ m.triples, key1 t = k1 ∨ key2 t = k2) ↔
      ¬ (m.map1.lookup k1 = none ∧ m.map2.lookup k2 = none) := by
    constructor
    · intro ⟨t, held, taken⟩ ⟨free1, free2⟩
      cases taken with
      | inl same =>
        rw [← same] at free1
        exact absurd (free1.symm.trans held) (by simp)
      | inr same =>
        rw [← same] at free2
        exact absurd (free2.symm.trans ((m.mem_triples t).mp held)) (by simp)
    · intro taken
      by_cases free1 : m.map1.lookup k1 = none
      · have held : m.map2.lookup k2 ≠ none := fun free2 => taken ⟨free1, free2⟩
        obtain ⟨t, held⟩ := Option.ne_none_iff_exists'.mp held
        have own := (m.indexed2 k2 t held).1
        exact ⟨t, (m.mem_triples t).mpr (by rwa [← own] at held), .inr own⟩
      · obtain ⟨t, held⟩ := Option.ne_none_iff_exists'.mp free1
        have own := (m.indexed1 k1 t held).1
        exact ⟨t, by rwa [← own] at held, .inl own⟩
  cases inserted : m.insert k1 k2 v with
  | error arguments =>
    unfold insert at inserted
    split at inserted
    · cases inserted
    · next taken =>
      cases inserted
      exact ⟨fun _ => ⟨rfl, rfl⟩, fun free => absurd (taken_iff.mpr taken) free⟩
  | ok m' =>
    have lookup := lookup_map1_insert inserted
    unfold insert at inserted
    split at inserted
    · next free =>
      refine ⟨fun taken => absurd free (taken_iff.mp taken), fun _ => ⟨rfl, ?_⟩⟩
      apply Set.ext
      intro t
      change m'.map1.lookup (key1 t) = some t ↔ m.map1.lookup (key1 t) = some t ∨ t = (k1, k2, v)
      rw [lookup]
      by_cases same : key1 t = k1
      · rw [if_pos same, same, free.1]
        simp [eq_comm]
      · rw [if_neg same]
        constructor
        · exact .inl
        · intro either
          cases either with
          | inl held => exact held
          | inr new =>
            rw [new] at same
            exact absurd rfl same
    · cases inserted

/-- The operations that the server uses. -/
def apply (m : MultiMap K₁ K₂ V) :
    RawMultiMap.Op K₁ K₂ V → Option (RawMultiMap.Answer K₁ K₂ V × MultiMap K₁ K₂ V)
  | .insert k1 k2 v =>
    some (.inserted ((m.insert k1 k2 v).map fun _ => ()), (m.insert k1 k2 v).toOption.getD m)
  | .get1 k1 => some (.value (m.get1 k1), m)
  | .get2 k2 => some (.value (m.get2 k2), m)
  | .remove1 k1 => some (.value (m.remove1 k1).1, (m.remove1 k1).2)
  | .get1Mut .. | .getMut2 .. | .remove2 .. => none

variable {m} {m' : MultiMap K₁ K₂ V} {op : RawMultiMap.Op K₁ K₂ V}
  {answer : RawMultiMap.Answer K₁ K₂ V}

theorem apply_onTriples (applied : m.apply op = some (answer, m')) :
    OnTriples m.triples op answer m'.triples := by
  cases op with
  | insert k1 k2 v =>
    cases applied
    exact m.insert_onTriples k1 k2 v
  | get1 k1 =>
    cases applied
    exact m.get1_onTriples k1
  | get2 k2 =>
    cases applied
    exact m.get2_onTriples k2
  | remove1 k1 =>
    cases applied
    exact m.remove1_onTriples k1
  | _ => cases applied

/-- The server's map stands for the one with a heap: both hold the same triples, and every
operation keeps it so and is answered the same. -/
theorem step_of_apply {raw : RawMultiMap K₁ K₂ V} (formed : raw.WellFormed)
    (same : raw.triples = m.triples) (applied : m.apply op = some (answer, m')) :
    ∃ raw', raw.step op = .ok (answer, raw') ∧ raw'.WellFormed ∧ raw'.triples = m'.triples := by
  obtain ⟨answer', raw', steps, formed'⟩ := formed.steps op
  have onTriples := steps.onTriples
  rw [same] at onTriples
  obtain ⟨rfl, kept⟩ := RawMultiMap.onTriples_unique onTriples (apply_onTriples applied)
  exact ⟨raw', steps.ran, formed', kept⟩

end MultiMap

end Rathole
