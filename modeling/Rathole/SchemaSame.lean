import Rathole.ConfigSchema
import Rathole.TomlUnique

set_option autoImplicit false

/- A configuration is read alike from values that differ in the order of their keys only. -/
namespace Rathole.Schema

open Toml (Value Table Leaf SameAt)

/-- The reader makes no difference between values that are the same. -/
def Respects {A : Type} (read : Value → Option A) : Prop :=
  ∀ {v w}, v.Unique → w.Unique → v.Same w → read v = read w

section Scalars

variable {A : Type} {read : Value → Option A}

/-- A value with this leaf. -/
def ofLeaf : Leaf → Value
  | .string s => .string s
  | .integer i => .integer i
  | .float text => .float text
  | .boolean b => .boolean b
  | .datetime text => .datetime text
  | .array _ => .array []
  | .table => .table []

theorem respects_scalar (scalar : ∀ v, read v = read (ofLeaf v.leaf)) : Respects read := by
  intro v w _ _ same
  rw [scalar v, scalar w, same.leaf]

theorem respects_string : Respects string :=
  respects_scalar fun v => by cases v <;> rfl

theorem respects_boolean : Respects boolean :=
  respects_scalar fun v => by cases v <;> rfl

theorem respects_unsigned : Respects unsigned :=
  respects_scalar fun v => by cases v <;> rfl

theorem respects_bind {B : Type} (respects : Respects read) (f : A → Option B) :
    Respects fun v => (read v).bind f := by
  intro v w unique unique' same
  dsimp only
  rw [respects unique unique' same]

end Scalars

section Fields

variable {A : Type} {t u : Table} {read : Value → Option A}

theorem keys_same (same : Table.Same t u) (P : String → Prop) :
    (∀ e ∈ t, P e.1) ↔ ∀ e ∈ u, P e.1 := by
  have listed : ∀ {t : Table}, (∀ e ∈ t, P e.1) ↔ ∀ key, (t.lookup key).isSome = true → P key := by
    intro t
    simp only [Toml.lookup_isSome, List.mem_map]
    constructor
    · intro all key held
      obtain ⟨e, member, rfl⟩ := held
      exact all e member
    · intro all e member
      exact all e.1 ⟨e, member, rfl⟩
  rw [listed, listed]
  apply forall_congr'
  intro key
  rw [(same key).isSome]

/-- What a reader makes of the values at a key. -/
theorem lookup_same (unique : Table.Unique t) (unique' : Table.Unique u)
    (same : Table.Same t u) (respects : Respects read) (key : String) :
    (t.lookup key).map read = (u.lookup key).map read := by
  have here := same key
  cases found : t.lookup key with
  | none =>
    rw [found] at here
    generalize u.lookup key = y at here ⊢
    cases here
    rfl
  | some v =>
    rw [found] at here
    cases found' : u.lookup key with
    | none =>
      rw [found'] at here
      cases here
    | some w =>
      rw [found'] at here
      cases here with
      | some same =>
        exact congrArg some (respects (unique.lookup found) (unique'.lookup found') same)

theorem required_same (unique : Table.Unique t) (unique' : Table.Unique u)
    (same : Table.Same t u) (respects : Respects read) (key : String) :
    required t key read = required u key read := by
  have taken : ∀ t : Table, required t key read = ((t.lookup key).map read).join := by
    intro t
    unfold required
    cases t.lookup key <;> rfl
  rw [taken, taken, lookup_same unique unique' same respects key]

theorem optional_same (unique : Table.Unique t) (unique' : Table.Unique u)
    (same : Table.Same t u) (respects : Respects read) (key : String) :
    optional t key read = optional u key read := by
  have taken : ∀ t : Table, optional t key read =
      ((t.lookup key).map read).elim (some none) fun a => a.map some := by
    intro t
    unfold optional
    cases t.lookup key <;> rfl
  rw [taken, taken, lookup_same unique unique' same respects key]

theorem defaulted_same (unique : Table.Unique t) (unique' : Table.Unique u)
    (same : Table.Same t u) (respects : Respects read) (key : String) (default : A) :
    defaulted t key default read = defaulted u key default read := by
  have taken : ∀ t : Table, defaulted t key default read =
      ((t.lookup key).map read).getD (some default) := by
    intro t
    unfold defaulted
    cases t.lookup key <;> rfl
  rw [taken, taken, lookup_same unique unique' same respects key]

end Fields

section Structures

variable {A : Type} {names : List String} {least : Nat}

/-- The elements of an array under the same names. -/
theorem zip_same (names : List String) {values values' : List Value}
    (same : (Value.array values).Same (.array values')) :
    Table.Same (names.zip values) (names.zip values') := by
  have each : ∀ i, SameAt values[i]? values'[i]? :=
    fun i => .of_probe fun path => same (.item i :: path)
  clear same
  induction names generalizing values values' with
  | nil => exact .refl _
  | cons name names ih =>
    have first := each 0
    cases values with
    | nil =>
      cases values' with
      | nil => exact .refl _
      | cons w values' => cases first
    | cons v values =>
      cases values' with
      | nil => cases first
      | cons w values' =>
        intro key
        rw [List.zip_cons_cons, List.zip_cons_cons, Toml.lookup_cons_eq, Toml.lookup_cons_eq]
        by_cases own : key = name
        · rw [if_pos own, if_pos own]
          exact first
        · rw [if_neg own, if_neg own]
          exact ih (fun i => each (i + 1)) key

/-- The same fields, whether by name or by position. -/
theorem fields_same (nodup : names.Nodup) {v w : Value} (unique : v.Unique) (unique' : w.Unique)
    (same : v.Same w) :
    Option.Rel (fun t u => Table.Unique t ∧ Table.Unique u ∧ Table.Same t u)
      (fields names least v) (fields names least w) := by
  have leaf := same.leaf
  cases v with
  | table t =>
    obtain ⟨u, rfl⟩ := same.exists_table
    have inside := Toml.same_table.mp same
    show Option.Rel _ (if _ then _ else _) (if _ then _ else _)
    by_cases known : ∀ e ∈ t, e.1 ∈ names
    · rw [if_pos known, if_pos ((keys_same inside (· ∈ names)).mp known)]
      exact .some ⟨unique, unique', inside⟩
    · rw [if_neg known, if_neg (mt (keys_same inside (· ∈ names)).mpr known)]
      exact .none
  | array values =>
    cases w with
    | array values' =>
      have length : values.length = values'.length := Leaf.array.inj leaf
      cases unique with
      | array each =>
        cases unique' with
        | array each' =>
          show Option.Rel _ (if _ then _ else _) (if _ then _ else _)
          rw [length]
          split
          · exact .some ⟨Toml.Table.unique_zip nodup each, Toml.Table.unique_zip nodup each',
              zip_same names same⟩
          · exact .none
    | _ => cases leaf
  | _ => cases w <;> first | exact .none | cases leaf

/-- A structure is read through its fields. -/
theorem respects_fields {read : Table → Option A} (nodup : names.Nodup)
    (inside : ∀ {t u}, Table.Unique t → Table.Unique u → Table.Same t u → read t = read u) :
    Respects fun v => (fields names least v).bind read := by
  intro v w unique unique' same
  have both : Option.Rel _ (fields names least v) (fields names least w) :=
    fields_same nodup unique unique' same
  dsimp only
  generalize fields names least v = x at both ⊢
  generalize fields names least w = y at both ⊢
  cases both with
  | none => rfl
  | some both => exact inside both.1 both.2.1 both.2.2

theorem variant_iff {v : Value} {name : String} :
    variant v = some name ↔ v = .string name ∨ v = .table [(name, .table [])] := by
  unfold variant
  split
  · simp
  · simp
  · next other braces =>
    refine iff_of_false (by simp) ?_
    rintro (same | same)
    · exact other name same
    · exact braces name same

/-- Nothing is the same as an empty table but an empty table. -/
theorem table_nil_same {v : Value} (same : (Value.table []).Same v) : v = .table [] := by
  obtain ⟨t, rfl⟩ := same.exists_table
  cases t with
  | nil => rfl
  | cons e t =>
    have here := Toml.same_table.mp same e.1
    rw [Toml.lookup_cons_eq, if_pos rfl] at here
    cases here

theorem variant_same {v w : Value} {name : String} (unique : w.Unique) (same : v.Same w)
    (named : variant v = some name) : variant w = some name := by
  rcases variant_iff.mp named with rfl | rfl
  · rw [same.string]
    rfl
  · obtain ⟨u, rfl⟩ := same.exists_table
    have inside := Toml.same_table.mp same
    have keys := (keys_same inside (· = name)).mp (by simp)
    have here := inside name
    rw [Toml.lookup_cons_eq, if_pos rfl] at here
    cases u with
    | nil => cases here
    | cons e rest =>
      obtain ⟨rfl, others⟩ := List.forall_mem_cons.mp keys
      rw [Toml.lookup_cons_eq, if_pos rfl] at here
      cases here with
      | some same =>
        have fresh := (List.nodup_cons.mp (Table.Unique.nodup unique)).1
        have alone : rest = [] := by
          rw [List.eq_nil_iff_forall_not_mem]
          intro e' member
          exact fresh (List.mem_map.mpr ⟨e', member, others e' member⟩)
        have empty := table_nil_same same
        obtain ⟨key, v⟩ := e
        rw [alone, show v = .table [] from empty]
        rfl

/-- An enumeration is read through the name of its variant. -/
theorem respects_variant {A : Type} {read : Value → Option A}
    (named : ∀ v w, variant v = variant w → read v = read w) : Respects read := by
  intro v w unique unique' same
  apply named
  ext name
  exact ⟨variant_same unique' same, variant_same unique same.symm⟩

theorem respects_transportType : Respects transportType :=
  respects_variant fun v w same => by rw [transportType, transportType, same]

theorem respects_serviceType : Respects serviceType :=
  respects_variant fun v w same => by rw [serviceType, serviceType, same]

end Structures

theorem respects_clientService : Respects clientService :=
  respects_fields (by decide) fun unique unique' same => by
    simp only [defaulted_same unique unique' same respects_serviceType,
      required_same unique unique' same respects_string,
      defaulted_same unique unique' same respects_boolean,
      optional_same unique unique' same respects_string,
      optional_same unique unique' same respects_boolean,
      optional_same unique unique' same respects_unsigned]

theorem respects_serverService : Respects serverService :=
  respects_fields (by decide) fun unique unique' same => by
    simp only [defaulted_same unique unique' same respects_serviceType,
      required_same unique unique' same respects_string,
      optional_same unique unique' same respects_string,
      optional_same unique unique' same respects_boolean]

theorem respects_tls : Respects tls :=
  respects_fields (by decide) fun unique unique' same => by
    simp only [optional_same unique unique' same respects_string]

theorem respects_noise : Respects noise :=
  respects_fields (by decide) fun unique unique' same => by
    simp only [defaulted_same unique unique' same respects_string,
      optional_same unique unique' same respects_string]

theorem respects_websocket : Respects websocket :=
  respects_fields (by decide) fun unique unique' same => by
    simp only [required_same unique unique' same respects_boolean]

section Services

variable {A : Type} {read : Value → Option A} {t u : Table}

theorem entries_isSome : (entries read t).isSome = true ↔ ∀ e ∈ t, (read e.2).isSome = true := by
  induction t with
  | nil => simp [entries]
  | cons e rest ih =>
    rw [List.forall_mem_cons, ← ih, entries]
    cases read e.2 with
    | none => simp
    | some a => cases entries read rest <;> simp

/-- A key is read from the value that a lookup finds. -/
theorem lookup_entries {m : HashMap String A} (found : entries read t = some m) (key : String) :
    m.lookup key = (t.lookup key).bind read := by
  induction t generalizing m with
  | nil =>
    cases found
    rfl
  | cons e rest ih =>
    rw [entries, Option.bind_eq_bind, Option.bind_eq_some_iff] at found
    obtain ⟨a, here, found⟩ := found
    rw [Option.bind_eq_bind, Option.bind_eq_some_iff] at found
    obtain ⟨m', later, same⟩ := found
    cases same
    rw [lookup_insert_eq, Toml.lookup_cons_eq]
    by_cases own : key = e.1
    · rw [if_pos own, if_pos own, Option.bind_some, here]
    · rw [if_neg own, if_neg own, ih later]

theorem readable_same (unique : Table.Unique t) (unique' : Table.Unique u)
    (same : Table.Same t u) (respects : Respects read)
    (readable : (entries read u).isSome = true) : (entries read t).isSome = true := by
  rw [entries_isSome] at readable ⊢
  intro e member
  have found := Toml.lookup_of_mem unique.nodup member
  have here := lookup_same unique unique' same respects e.1
  rw [found] at here
  cases held : u.lookup e.1 with
  | none =>
    rw [held] at here
    cases here
  | some w =>
    rw [held] at here
    rw [Option.some.inj here]
    exact readable (e.1, w) (Toml.mem_of_lookup held)

/-- With distinct keys a map does not depend on their order. -/
theorem entries_same (unique : Table.Unique t) (unique' : Table.Unique u)
    (same : Table.Same t u) (respects : Respects read) : entries read t = entries read u := by
  cases first : entries read t with
  | none =>
    cases second : entries read u with
    | none => rfl
    | some m =>
      have held := readable_same unique unique' same respects (by rw [second]; rfl)
      rw [first] at held
      cases held
  | some m =>
    obtain ⟨m', second⟩ := Option.isSome_iff_exists.mp
      (readable_same unique' unique same.symm respects (by rw [first]; rfl))
    rw [second]
    congr 1
    apply Finmap.ext_lookup
    intro key
    rw [lookup_entries first, lookup_entries second]
    exact required_same unique unique' same respects key

theorem respects_hashMap (respects : Respects read) : Respects (hashMap read) := by
  intro v w unique unique' same
  have leaf := same.leaf
  cases v with
  | table t =>
    obtain ⟨u, rfl⟩ := same.exists_table
    exact entries_same unique unique' (Toml.same_table.mp same) respects
  | _ => cases w <;> first | rfl | cases leaf

end Services

section Url

variable (parseUrl : String → Option Url)

theorem respects_tcp : Respects (tcp parseUrl) :=
  respects_fields (by decide) fun unique unique' same => by
    simp only [defaulted_same unique unique' same respects_boolean,
      defaulted_same unique unique' same respects_unsigned,
      optional_same unique unique' same (respects_bind respects_string parseUrl)]

theorem respects_transport : Respects (transport parseUrl) :=
  respects_fields (by decide) fun unique unique' same => by
    simp only [required_same unique unique' same respects_transportType,
      defaulted_same unique unique' same (respects_tcp parseUrl),
      optional_same unique unique' same respects_tls,
      optional_same unique unique' same respects_noise,
      optional_same unique unique' same respects_websocket]

theorem respects_client : Respects (client parseUrl) :=
  respects_fields (by decide) fun unique unique' same => by
    simp only [required_same unique unique' same respects_string,
      optional_same unique unique' same respects_string,
      optional_same unique unique' same respects_boolean,
      required_same unique unique' same (respects_hashMap respects_clientService),
      defaulted_same unique unique' same (respects_transport parseUrl),
      defaulted_same unique unique' same respects_unsigned]

theorem respects_server : Respects (server parseUrl) :=
  respects_fields (by decide) fun unique unique' same => by
    simp only [required_same unique unique' same respects_string,
      optional_same unique unique' same respects_string,
      required_same unique unique' same (respects_hashMap respects_serverService),
      defaulted_same unique unique' same (respects_transport parseUrl),
      defaulted_same unique unique' same respects_unsigned]

variable {parseUrl} {t u : Table}

theorem config_same (unique : Table.Unique t) (unique' : Table.Unique u)
    (same : Table.Same t u) : config parseUrl t = config parseUrl u := by
  have both : ∀ {t u : Table}, Table.Unique t → Table.Unique u → Table.Same t u →
      ((optional t "server" (server parseUrl)).bind fun server =>
        (optional t "client" (client parseUrl)).bind fun client => some ⟨server, client⟩) =
      (optional u "server" (server parseUrl)).bind fun server =>
        (optional u "client" (client parseUrl)).bind fun client =>
          some (Config.mk server client) := by
    intro t u unique unique' same
    simp only [optional_same unique unique' same (respects_server parseUrl),
      optional_same unique unique' same (respects_client parseUrl)]
  exact respects_fields (by decide) both unique unique' (Toml.same_table.mpr same)

end Url

end Rathole.Schema
