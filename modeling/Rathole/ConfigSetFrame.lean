import Rathole.ConfigAgain
import Rathole.TomlPut

set_option autoImplicit false

/- What `config set` changes of a document, and that it changes nothing the second time. -/
namespace Rathole.ConfigEdit

open Toml (Item Entries TableKind Table Value under fieldsOf)

/-- A field that is given. -/
def field {A : Type} (key : String) (f : A → Item) (x : Option A) : Entries :=
  (x.map fun a => (key, f a)).toList

namespace SetArgs

variable (args : SetArgs)

def sectionItems : Entries :=
  field "remote_addr" .string args.remoteAddr ++ field "bind_addr" .string args.bindAddr ++
    field "default_token" .string args.defaultToken ++
    field "prefer_ipv6" .boolean args.preferIpv6 ++
    field "heartbeat_timeout" (fun v : Nat => .integer v) args.heartbeatTimeout ++
    field "retry_interval" (fun v : Nat => .integer v) args.retryInterval ++
    field "heartbeat_interval" (fun v : Nat => .integer v) args.heartbeatInterval

def noiseItems : Entries := field "remote_public_key" .string args.noiseKey

def tlsItems : Entries :=
  field "trusted_root" .string args.trustedRoot ++ field "hostname" .string args.hostname ++
    field "pkcs12" .string args.pkcs12 ++ field "pkcs12_password" .string args.pkcs12Password

def websocketItems : Entries := field "tls" .boolean args.wsTls

def tcpItems : Entries :=
  field "nodelay" .boolean args.nodelay ++
    field "keepalive_secs" (fun v : Nat => .integer v) args.keepaliveSecs ++
    field "keepalive_interval" (fun v : Nat => .integer v) args.keepaliveInterval ++
    field "proxy" .string args.proxy

/-- The tables of a transport, with the fields that are given of each. -/
def nestedItems : List (String × Entries) :=
  [("noise", args.noiseItems), ("tls", args.tlsItems), ("websocket", args.websocketItems),
    ("tcp", args.tcpItems)]

/-- The explicit type, else the one that the flags imply. -/
def chosenType : Option TransportType := args.transport.or args.impliedType

/-- The type of the transport, over the one that it had. -/
def typeAfter (existing : Option Value) : Value :=
  (args.chosenType.map fun t => Value.string (transportKey t)).getD
    (existing.getD (.string "tcp"))

/-- What is put into a transport. -/
def transportValues (existing : Option Value) : List (List String × Value) :=
  (["type"], args.typeAfter existing) ::
    args.nestedItems.flatMap fun nested => under nested.1 (fieldsOf nested.2)

/-- What is put into a section. -/
def sectionValues (section_ : Table) : List (List String × Value) :=
  fieldsOf args.sectionItems ++
    if args.transportRequested then
      under "transport" (args.transportValues ((section_.inner "transport").lookup "type"))
    else []

/-- Every given field at its place in the document. -/
def values (side : ServiceSide) (before : Table) : List (List String × Value) :=
  under side.key (args.sectionValues (before.inner side.key))

/-- No field of the other side is given. -/
def OfSide : ServiceSide → Prop
  | .client => args.bindAddr = none ∧ args.heartbeatInterval = none ∧ args.pkcs12 = none ∧
      args.pkcs12Password = none ∧ args.noise = false
  | .server => args.remoteAddr = none ∧ args.preferIpv6 = none ∧ args.heartbeatTimeout = none ∧
      args.retryInterval = none ∧ args.trustedRoot = none ∧ args.hostname = none ∧
      args.noiseKey = none

end SetArgs

section Fields

variable {args : SetArgs} {kind : TableKind} {entries after : Entries}

theorem insertSome_eq {A : Type} (kind : TableKind) (entries : Entries) (key : String)
    (f : A → Item) (x : Option A) :
    insertSome kind entries key (x.map f) = entries.extend kind (field key f x) := by
  cases x <;> rfl

theorem seconds_ok {v : Option Nat} {item : Option Item} (made : seconds v = .ok item) :
    item = v.map fun n : Nat => .integer n := by
  cases v with
  | none =>
    cases made
    rfl
  | some n =>
    simp only [seconds] at made
    split at made
    · cases made
      rfl
    · cases made

/-- Fields that were set once are set alike in any other table. -/
theorem setFields_ok (ran : setFields args kind entries = .ok after) (kind' : TableKind)
    (entries' : Entries) :
    setFields args kind' entries' = .ok (entries'.extend kind' args.sectionItems) := by
  obtain ⟨timeout, first, ran⟩ := bind_ok ran
  obtain ⟨retry, second, ran⟩ := bind_ok ran
  obtain ⟨interval, third, ran⟩ := bind_ok ran
  have first' := first
  have second' := second
  have third' := third
  rw [seconds_ok first] at first'
  rw [seconds_ok second] at second'
  rw [seconds_ok third] at third'
  simp only [setFields, first', second', third', bind, Except.bind, insertSome_eq,
    SetArgs.sectionItems, extend_append]

theorem setTls_ok (args : SetArgs) (kind : TableKind) (entries : Entries) :
    setTls args kind entries = .ok (entries.extend kind args.tlsItems) := by
  simp only [setTls, insertSome_eq, SetArgs.tlsItems, extend_append]

theorem setTcp_ok (ran : setTcp args kind entries = .ok after) (kind' : TableKind)
    (entries' : Entries) :
    setTcp args kind' entries' = .ok (entries'.extend kind' args.tcpItems) := by
  obtain ⟨secs, first, ran⟩ := bind_ok ran
  obtain ⟨interval, second, ran⟩ := bind_ok ran
  have first' := first
  have second' := second
  rw [seconds_ok first] at first'
  rw [seconds_ok second] at second'
  simp only [setTcp, first', second', bind, Except.bind, insertSome_eq, SetArgs.tcpItems,
    extend_append]

theorem keys_field {A : Type} (key : String) (f : A → Item) (x : Option A) :
    ((field key f x).map Prod.fst).Sublist [key] := by
  cases x with
  | none => exact List.nil_sublist _
  | some a => exact List.Sublist.refl _

theorem keys_append {first second : Entries} {keys keys' : List String}
    (left : (first.map Prod.fst).Sublist keys) (right : (second.map Prod.fst).Sublist keys') :
    ((first ++ second).map Prod.fst).Sublist (keys ++ keys') := by
  rw [List.map_append]
  exact left.append right

theorem keys_sectionItems (args : SetArgs) : (args.sectionItems.map Prod.fst).Sublist
    ["remote_addr", "bind_addr", "default_token", "prefer_ipv6", "heartbeat_timeout",
      "retry_interval", "heartbeat_interval"] :=
  keys_append (keys_append (keys_append (keys_append (keys_append (keys_append (keys_field ..)
    (keys_field ..)) (keys_field ..)) (keys_field ..)) (keys_field ..)) (keys_field ..))
    (keys_field ..)

theorem keys_tlsItems (args : SetArgs) : (args.tlsItems.map Prod.fst).Sublist
    ["trusted_root", "hostname", "pkcs12", "pkcs12_password"] :=
  keys_append (keys_append (keys_append (keys_field ..) (keys_field ..)) (keys_field ..))
    (keys_field ..)

theorem keys_tcpItems (args : SetArgs) : (args.tcpItems.map Prod.fst).Sublist
    ["nodelay", "keepalive_secs", "keepalive_interval", "proxy"] :=
  keys_append (keys_append (keys_append (keys_field ..) (keys_field ..)) (keys_field ..))
    (keys_field ..)

theorem nodup_nestedItems (args : SetArgs) :
    ∀ nested ∈ args.nestedItems, (nested.2.map Prod.fst).Nodup := by
  intro nested there
  simp only [SetArgs.nestedItems, List.mem_cons, List.not_mem_nil, or_false] at there
  rcases there with rfl | rfl | rfl | rfl
  · exact (List.nodup_singleton _).sublist (keys_field ..)
  · exact List.Nodup.sublist (keys_tlsItems args) (by decide)
  · exact (List.nodup_singleton _).sublist (keys_field ..)
  · exact List.Nodup.sublist (keys_tcpItems args) (by decide)

theorem scalar_field {A : Type} {key : String} {f : A → Item} {x : Option A}
    (scalar : ∀ a, (f a).isScalar = true) : ∀ e ∈ field key f x, e.2.isScalar = true := by
  intro e there
  cases x with
  | none => cases there
  | some a =>
    rw [List.mem_singleton.mp there]
    exact scalar a

theorem scalar_append {first second : Entries} (left : ∀ e ∈ first, e.2.isScalar = true)
    (right : ∀ e ∈ second, e.2.isScalar = true) : ∀ e ∈ first ++ second, e.2.isScalar = true := by
  intro e there
  cases List.mem_append.mp there with
  | inl here => exact left e here
  | inr here => exact right e here

theorem scalar_sectionItems (args : SetArgs) : ∀ e ∈ args.sectionItems, e.2.isScalar = true := by
  have texts (key : String) (x : Option String) : ∀ e ∈ field key .string x, e.2.isScalar = true :=
    scalar_field fun _ => rfl
  have numbers (key : String) (x : Option Nat) :
      ∀ e ∈ field key (fun v : Nat => .integer v) x, e.2.isScalar = true :=
    scalar_field fun _ => rfl
  exact scalar_append (scalar_append (scalar_append (scalar_append (scalar_append (scalar_append
    (texts _ _) (texts _ _)) (texts _ _)) (scalar_field fun _ => rfl)) (numbers _ _))
    (numbers _ _)) (numbers _ _)

theorem scalar_nestedItems (args : SetArgs) :
    ∀ nested ∈ args.nestedItems, ∀ e ∈ nested.2, e.2.isScalar = true := by
  have texts (key : String) (x : Option String) : ∀ e ∈ field key .string x, e.2.isScalar = true :=
    scalar_field fun _ => rfl
  have numbers (key : String) (x : Option Nat) :
      ∀ e ∈ field key (fun v : Nat => .integer v) x, e.2.isScalar = true :=
    scalar_field fun _ => rfl
  intro nested there
  simp only [SetArgs.nestedItems, List.mem_cons, List.not_mem_nil, or_false] at there
  rcases there with rfl | rfl | rfl | rfl
  · exact texts _ _
  · exact scalar_append (scalar_append (scalar_append (texts _ _) (texts _ _)) (texts _ _))
      (texts _ _)
  · exact scalar_field fun _ => rfl
  · exact scalar_append (scalar_append (scalar_append (scalar_field fun _ => rfl) (numbers _ _))
      (numbers _ _)) (texts _ _)

end Fields

section Nested

variable {Text : Type} {env : Env Text} {kind inner : TableKind} {entries after table items : Entries}
  {key : String} {f : TableKind → Entries → Except String Entries} {given : Bool} {t : Table}

/-- The fields of a nested table are set. -/
structure NestedSet (env : Env Text) (kind : TableKind) (entries : Entries) (key : String)
    (items after : Entries) : Prop where
  absent : items = [] → after = entries
  present : items ≠ [] → ∃ inner table, ensureTable env kind entries key = .ok (inner, table) ∧
    after = Toml.insertKey entries key (.table inner (table.extend inner items))

theorem nestedSet_of_ran (asked : given = true ↔ items ≠ [])
    (extends_ : ∀ inner table out, f inner table = .ok out → out = table.extend inner items)
    (ran : setNested env given kind entries key f = .ok after) :
    NestedSet env kind entries key items after := by
  unfold setNested at ran
  split at ran
  · next given =>
    obtain ⟨⟨inner, table⟩, found, ran⟩ := bind_ok ran
    obtain ⟨table', made, ran⟩ := bind_ok ran
    cases ran
    refine ⟨fun none => absurd none (asked.mp given), fun _ => ⟨inner, table, found, ?_⟩⟩
    rw [extends_ inner table table' made]
  · next missing =>
    cases ran
    exact ⟨fun _ => rfl, fun some => absurd (asked.mpr some) missing⟩

theorem formed_extend (formed : Formed inner table) (scalar : ∀ e ∈ items, e.2.isScalar = true)
    (outer : TableKind) : Formed inner (table.extend outer items) := by
  induction items generalizing table with
  | nil => exact formed
  | cons e rest ih =>
    rw [Toml.Entries.extend_cons]
    exact ih (formed.insert (Item.wellFormed_scalar (scalar e List.mem_cons_self)) outer e.1)
      fun e' there => scalar e' (List.mem_cons_of_mem e there)

theorem wellFormed_of_formed (formed : Formed kind entries) : entries.wellFormed = true :=
  ((Toml.Entries.wellFormed_table kind entries).mp formed).2

/-- The nested table is the one of the text, or a new one. -/
theorem same_ensureTable (formed : Formed kind entries) (same : Table.Same entries.written t)
    (found : ensureTable env kind entries key = .ok (inner, table)) :
    Table.Same table.written (t.inner key) := by
  have item := (asTable_eq_some (okOrElse_ok found)).1
  rw [← apply_ite (fun made => Item.table made [])] at item
  exact Toml.Entries.same_opened _ (wellFormed_of_formed formed) same item

theorem fieldsOf_eq_nil (scalar : ∀ e ∈ items, e.2.isScalar = true) :
    fieldsOf items = [] ↔ items = [] := by
  cases items with
  | nil => simp [fieldsOf]
  | cons e rest =>
    obtain ⟨v, shown⟩ := Toml.Entries.scalar_written (scalar e List.mem_cons_self)
    simp [fieldsOf, Toml.Entries.written_cons e.1 e.2 rest, shown]

theorem NestedSet.formed (set : NestedSet env kind entries key items after)
    (formed : Formed kind entries) (scalar : ∀ e ∈ items, e.2.isScalar = true) :
    Formed kind after := by
  by_cases none : items = []
  · rw [set.absent none]
    exact formed
  · obtain ⟨inner, table, found, rfl⟩ := set.present none
    exact formed.insertKey (formed_extend (formed_ensureTable formed found) scalar inner) key

/-- What is set in the document is put into the text. -/
theorem NestedSet.same (set : NestedSet env kind entries key items after)
    (formed : Formed kind entries) (scalar : ∀ e ∈ items, e.2.isScalar = true)
    (same : Table.Same entries.written t) :
    Table.Same after.written (t.puts (under key (fieldsOf items))) := by
  by_cases none : items = []
  · rw [set.absent none, none]
    exact same
  · obtain ⟨inner, table, found, rfl⟩ := set.present none
    have filled : fieldsOf items ≠ [] := fun empty => none ((fieldsOf_eq_nil scalar).mp empty)
    have inside := formed_ensureTable formed found
    apply Toml.Entries.same_under (wellFormed_of_formed formed)
      (formed_extend inside scalar inner) filled (Toml.fieldsOf_deep items) _ same
    exact Toml.Entries.same_extend inner (wellFormed_of_formed inside) scalar
      (same_ensureTable formed same found)

theorem NestedSet.others (set : NestedSet env kind entries key items after) {other : String}
    (apart : other ≠ key) : after.lookup other = entries.lookup other := by
  by_cases none : items = []
  · rw [set.absent none]
  · obtain ⟨inner, table, -, rfl⟩ := set.present none
    rw [Toml.lookup_insertKey, if_neg apart]

theorem NestedSet.hasTable (set : NestedSet env kind entries key items after)
    (some : items ≠ []) (scalar : ∀ e ∈ items, e.2.isScalar = true)
    (nodup : (items.map Prod.fst).Nodup) : HasTable after key (Has items) := by
  obtain ⟨inner, table, found, rfl⟩ := set.present some
  refine ⟨inner, table.extend inner items, ?_, isInline_of_ensureTable found,
    has_extend nodup scalar⟩
  rw [Toml.lookup_insertKey, if_pos rfl]

/-- Fields that are there already are set without a change. -/
theorem setNested_again (formed : entries.wellFormed = true) (asked : given = true ↔ items ≠ [])
    (scalar : ∀ e ∈ items, e.2.isScalar = true)
    (extends_ : items ≠ [] → ∀ inner table, f inner table = .ok (table.extend inner items))
    (has : items ≠ [] → HasTable entries key (Has items)) :
    setNested env given kind entries key f = .ok entries := by
  unfold setNested
  split
  · next given =>
    have some := asked.mp given
    obtain ⟨inner, table, held, plain, holds⟩ := has some
    have unchanged : f inner table = .ok table := by
      rw [extends_ some, extend_has (formed_of_lookup_table formed held) scalar holds]
    simp [ensureTable_of_lookup_table held plain, unchanged, bind, Except.bind,
      insertKey_of_lookup formed held]
  · rfl

end Nested

section Types

variable {args : SetArgs} {kind : TableKind} {entries : Entries} {t : Table}

/-- The type that is inserted, if any is. -/
def SetArgs.typeItems (args : SetArgs) (entries : Entries) : Entries :=
  match args.chosenType with
  | some chosen => [("type", .string (transportKey chosen))]
  | none => if (entries.lookup "type").isNone then [("type", .string "tcp")] else []

theorem setType_eq (args : SetArgs) (kind : TableKind) (entries : Entries) :
    setType args kind entries = entries.extend kind (args.typeItems entries) := by
  unfold setType SetArgs.typeItems SetArgs.chosenType
  cases args.transport.or args.impliedType with
  | none =>
    show (if (entries.lookup "type").isNone then _ else _) = _
    split <;> rfl
  | some chosen =>
    have held : ((entries.insert kind "type" (.string (transportKey chosen))).lookup "type").isNone =
        false := by
      simp [Toml.Entries.lookup_insert]
    show (if ((entries.insert kind "type" (.string (transportKey chosen))).lookup "type").isNone
      then _ else _) = _
    rw [held]
    rfl

theorem scalar_typeItems (args : SetArgs) (entries : Entries) :
    ∀ e ∈ args.typeItems entries, e.2.isScalar = true := by
  intro e there
  unfold SetArgs.typeItems at there
  split at there
  · rw [List.mem_singleton.mp there]
    rfl
  · split at there
    · rw [List.mem_singleton.mp there]
      rfl
    · cases there

/-- Setting the type puts the type there, or leaves the one that is there. -/
theorem same_setType (formed : Formed kind entries) (same : Table.Same entries.written t) :
    Table.Same (setType args kind entries).written
      (t.puts [(["type"], args.typeAfter (t.lookup "type"))]) := by
  have inside := wellFormed_of_formed formed
  have put := Toml.Entries.same_extend kind inside (scalar_typeItems args entries) same
  rw [← setType_eq] at put
  have here := Toml.Entries.lookup_written_isSome inside "type"
  rw [(same "type").isSome] at here
  unfold SetArgs.typeAfter
  unfold SetArgs.typeItems at put
  cases chosen : args.chosenType with
  | some chosen =>
    rw [chosen] at put
    exact put
  | none =>
    rw [chosen] at put
    cases held : t.lookup "type" with
    | none =>
      rw [held] at here
      have missing : (entries.lookup "type").isNone = true := by
        rw [← Option.not_isSome, ← here]
        rfl
      rw [missing] at put
      exact put
    | some v =>
      rw [held] at here
      have there : (entries.lookup "type").isNone = false := by
        rw [← Option.not_isSome, ← here]
        rfl
      rw [there] at put
      refine put.trans fun key => ?_
      show Toml.SameAt (t.lookup key) ((Toml.insertKey t "type" v).lookup key)
      rw [Toml.lookup_insertKey]
      by_cases this : key = "type"
      · rw [if_pos this, this, held]
        exact .refl _
      · rw [if_neg this]
        exact .refl _

/-- A type, the chosen one when one is chosen. -/
def HasType (args : SetArgs) (entries : Entries) : Prop :=
  (entries.lookup "type").isSome = true ∧
    ∀ chosen, args.chosenType = some chosen →
      entries.lookup "type" = some (.string (transportKey chosen))

theorem hasType_setType (args : SetArgs) (kind : TableKind) (entries : Entries) :
    HasType args (setType args kind entries) := by
  rw [setType_eq]
  unfold SetArgs.typeItems HasType
  cases args.chosenType with
  | some chosen =>
    have held : (entries.extend kind [("type", .string (transportKey chosen))]).lookup "type" =
        some (.string (transportKey chosen)) := by
      show (entries.insert kind "type" _).lookup "type" = _
      rw [Toml.Entries.lookup_insert, if_pos rfl, Item.ite_intoValue rfl]
    rw [held]
    refine ⟨rfl, fun other same => ?_⟩
    rw [Option.some.inj same]
  | none =>
    refine ⟨?_, fun other same => by cases same⟩
    dsimp only
    rw [Toml.Entries.isSome_lookup_extend]
    split
    · exact Or.inr List.mem_cons_self
    · next there =>
      left
      rw [← Option.not_isNone]
      simpa using there

theorem setType_again (formed : entries.wellFormed = true) (has : HasType args entries) :
    setType args kind entries = entries := by
  rw [setType_eq]
  apply extend_has formed (scalar_typeItems args entries)
  unfold SetArgs.typeItems
  cases chosen : args.chosenType with
  | some type =>
    intro e there
    rw [List.mem_singleton.mp there]
    exact has.2 type chosen
  | none =>
    have there : (entries.lookup "type").isNone = false := by
      rw [← Option.not_isSome, has.1]
      rfl
    dsimp only
    rw [there]
    intro e listed
    cases listed

end Types

/-- The fields of several nested tables are set, one table after the other. -/
inductive NestedSets {Text : Type} (env : Env Text) (kind : TableKind) :
    List (String × Entries) → Entries → Entries → Prop
  | nil (entries : Entries) : NestedSets env kind [] entries entries
  | cons {key : String} {items entries next after : Entries} {rest : List (String × Entries)}
    (first : NestedSet env kind entries key items next)
    (later : NestedSets env kind rest next after) :
    NestedSets env kind ((key, items) :: rest) entries after

namespace NestedSets

variable {Text : Type} {env : Env Text} {kind : TableKind} {nesteds : List (String × Entries)}
  {entries after : Entries} {t : Table}

theorem same (sets : NestedSets env kind nesteds entries after) (formed : Formed kind entries)
    (scalar : ∀ nested ∈ nesteds, ∀ e ∈ nested.2, e.2.isScalar = true)
    (same : Table.Same entries.written t) : Formed kind after ∧ Table.Same after.written
      (t.puts (nesteds.flatMap fun nested => under nested.1 (fieldsOf nested.2))) := by
  induction sets generalizing t with
  | nil entries => exact ⟨formed, same⟩
  | cons first later ih =>
    have here := scalar _ List.mem_cons_self
    rw [List.flatMap_cons, Toml.puts_append]
    apply ih (first.formed formed here)
    · exact fun nested there => scalar nested (List.mem_cons_of_mem _ there)
    · exact first.same formed here same

theorem others (sets : NestedSets env kind nesteds entries after) {key : String}
    (apart : key ∉ nesteds.map Prod.fst) : after.lookup key = entries.lookup key := by
  induction sets with
  | nil entries => rfl
  | cons first later ih =>
    rw [List.map_cons, List.mem_cons, not_or] at apart
    rw [ih apart.2, first.others apart.1]

theorem hasTable (sets : NestedSets env kind nesteds entries after)
    (scalar : ∀ nested ∈ nesteds, ∀ e ∈ nested.2, e.2.isScalar = true)
    (nodup : ∀ nested ∈ nesteds, (nested.2.map Prod.fst).Nodup)
    (apart : (nesteds.map Prod.fst).Nodup) : ∀ nested ∈ nesteds, nested.2 ≠ [] →
      HasTable after nested.1 (Has nested.2) := by
  induction sets with
  | nil entries =>
    intro nested there
    cases there
  | cons first later ih =>
    obtain ⟨fresh, distinct⟩ := List.nodup_cons.mp apart
    intro nested there some
    cases List.mem_cons.mp there with
    | inl here =>
      rw [here] at some ⊢
      obtain ⟨inner, table, held, plain, holds⟩ := first.hasTable some
        (scalar _ List.mem_cons_self) (nodup _ List.mem_cons_self)
      exact ⟨inner, table, (later.others fresh).trans held, plain, holds⟩
    | inr rest =>
      exact ih (fun n there => scalar n (List.mem_cons_of_mem _ there))
        (fun n there => nodup n (List.mem_cons_of_mem _ there)) distinct nested rest some

end NestedSets

section Transport

variable {Text : Type} {env : Env Text} {args : SetArgs}
  {keypair keypair' : Except String (String × String)} {kind kind' : TableKind}
  {entries entries' after : Entries} {t : Table}

theorem field_eq_nil {A : Type} {key : String} {f : A → Item} {x : Option A} :
    field key f x = [] ↔ x.isSome = false := by
  unfold field
  cases x <;> simp

theorem noiseItems_ne_nil : args.noiseKey.isSome = true ↔ args.noiseItems ≠ [] := by
  rw [SetArgs.noiseItems, ne_eq, field_eq_nil, Bool.not_eq_false]

theorem tlsItems_ne_nil : args.tlsRequested = true ↔ args.tlsItems ≠ [] := by
  rw [← Bool.not_eq_false]
  simp [SetArgs.tlsRequested, SetArgs.tlsItems, field_eq_nil]

theorem websocketItems_ne_nil : args.wsTls.isSome = true ↔ args.websocketItems ≠ [] := by
  rw [SetArgs.websocketItems, ne_eq, field_eq_nil, Bool.not_eq_false]

theorem tcpItems_ne_nil : args.tcpRequested = true ↔ args.tcpItems ≠ [] := by
  rw [← Bool.not_eq_false]
  simp [SetArgs.tcpRequested, SetArgs.tcpItems, field_eq_nil]

theorem insertSome_ok {A : Type} {key : String} {f : A → Item} {x : Option A} (inner : TableKind)
    (table out : Entries)
    (made : Except.ok (insertSome inner table key (x.map f)) = (.ok out : Except String Entries)) :
    out = table.extend inner (field key f x) := by
  cases made
  exact insertSome_eq inner table key f x

theorem setNoise_plain (plain : args.noise = false) :
    setNoise env args keypair kind entries = .ok entries := by
  unfold setNoise
  rw [plain]
  rfl

/-- The tables of a transport are set one after the other. -/
theorem nestedSets_of_ran (plain : args.noise = false)
    (ran : setTransport env args keypair kind entries = .ok after) :
    NestedSets env kind args.nestedItems (setType args kind entries) after := by
  obtain ⟨noisy, unchanged, ran⟩ := bind_ok ran
  rw [setNoise_plain plain] at unchanged
  cases unchanged
  obtain ⟨noise, first, ran⟩ := bind_ok ran
  obtain ⟨tls, second, ran⟩ := bind_ok ran
  obtain ⟨websocket, third, ran⟩ := bind_ok ran
  refine .cons (nestedSet_of_ran noiseItems_ne_nil insertSome_ok first) (.cons ?_ (.cons
    (nestedSet_of_ran websocketItems_ne_nil insertSome_ok third) (.cons ?_ (.nil _))))
  · apply nestedSet_of_ran tlsItems_ne_nil _ second
    intro inner table out made
    rw [setTls_ok] at made
    exact (Except.ok.inj made).symm
  · apply nestedSet_of_ran tcpItems_ne_nil _ ran
    intro inner table out made
    rw [setTcp_ok made] at made
    exact (Except.ok.inj made).symm

/-- The numbers among the fields of a transport are in range. -/
def TcpOk (args : SetArgs) : Prop :=
  ∀ kind entries, setTcp args kind entries = .ok (entries.extend kind args.tcpItems)

theorem tcpOk_of_ran (plain : args.noise = false)
    (ran : setTransport env args keypair kind entries = .ok after)
    (some : args.tcpItems ≠ []) : TcpOk args := by
  obtain ⟨noisy, unchanged, ran⟩ := bind_ok ran
  rw [setNoise_plain plain] at unchanged
  cases unchanged
  obtain ⟨noise, -, ran⟩ := bind_ok ran
  obtain ⟨tls, -, ran⟩ := bind_ok ran
  obtain ⟨websocket, -, ran⟩ := bind_ok ran
  unfold setNested at ran
  rw [if_pos (tcpItems_ne_nil.mpr some)] at ran
  obtain ⟨found, -, ran⟩ := bind_ok ran
  obtain ⟨table, made, -⟩ := bind_ok ran
  exact setTcp_ok made

structure HasSetTransport (args : SetArgs) (transport : Entries) : Prop where
  type : HasType args transport
  nested : ∀ nested ∈ args.nestedItems, nested.2 ≠ [] →
    HasTable transport nested.1 (Has nested.2)

theorem setTransport_ok (plain : args.noise = false)
    (ran : setTransport env args keypair kind entries = .ok after) (formed : Formed kind entries)
    (same : Table.Same entries.written t) : Formed kind after ∧
      Table.Same after.written (t.puts (args.transportValues (t.lookup "type"))) ∧
      HasSetTransport args after := by
  have sets := nestedSets_of_ran plain ran
  have scalar := scalar_nestedItems args
  obtain ⟨formed', same'⟩ := sets.same (formed_setType formed) scalar (same_setType formed same)
  refine ⟨formed', same', ⟨?_, ?_⟩⟩
  · unfold HasType
    rw [sets.others (show "type" ∉ ["noise", "tls", "websocket", "tcp"] by decide)]
    exact hasType_setType args kind entries
  · exact sets.hasTable scalar (nodup_nestedItems args)
      (show ["noise", "tls", "websocket", "tcp"].Nodup by decide)

theorem hasSetTransport_alike (alike : entries.Alike entries')
    (has : HasSetTransport args entries) : HasSetTransport args entries' := by
  constructor
  · refine ⟨?_, ?_⟩
    · rw [← alike.lookup_isSome]
      exact has.type.1
    · intro chosen same
      exact alike.scalar (has.type.2 chosen same) rfl
  · intro nested there some
    apply hasTable_alike alike _ (has.nested nested there some)
    intro t t' inside
    exact has_alike inside (scalar_nestedItems args nested there)

/-- A transport that has everything takes it once more. -/
theorem setTransport_again (plain : args.noise = false) (tcp : args.tcpItems ≠ [] → TcpOk args)
    (formed : entries.wellFormed = true) (has : HasSetTransport args entries) :
    setTransport env args keypair kind entries = .ok entries := by
  have scalar := scalar_nestedItems args
  have noise : ("noise", args.noiseItems) ∈ args.nestedItems := List.mem_cons_self
  have tls : ("tls", args.tlsItems) ∈ args.nestedItems := .tail _ List.mem_cons_self
  have websocket : ("websocket", args.websocketItems) ∈ args.nestedItems :=
    .tail _ (.tail _ List.mem_cons_self)
  have last : ("tcp", args.tcpItems) ∈ args.nestedItems :=
    .tail _ (.tail _ (.tail _ List.mem_cons_self))
  show setNoise env args keypair kind (setType args kind entries) >>= _ = _
  rw [setType_again formed has.type, setNoise_plain plain]
  show setNested env args.noiseKey.isSome kind entries "noise" _ >>= _ = _
  rw [setNested_again formed noiseItems_ne_nil (scalar _ noise) _ (has.nested _ noise)]
  · show setNested env args.tlsRequested kind entries "tls" _ >>= _ = _
    rw [setNested_again formed tlsItems_ne_nil (scalar _ tls) (fun _ => setTls_ok args)
      (has.nested _ tls)]
    show setNested env args.wsTls.isSome kind entries "websocket" _ >>= _ = _
    rw [setNested_again formed websocketItems_ne_nil (scalar _ websocket) _
      (has.nested _ websocket)]
    · exact setNested_again formed tcpItems_ne_nil (scalar _ last) tcp (has.nested _ last)
    · intro _ inner table
      rw [insertSome_eq]
      rfl
  · intro _ inner table
    rw [insertSome_eq]
    rfl

end Transport

section Section

variable {Text : Type} {env : Env Text} {args : SetArgs}
  {keypair keypair' : Except String (String × String)} {kind kind' : TableKind}
  {entries entries' fields after : Entries} {t : Table}

structure HasSet (args : SetArgs) (section_ : Entries) : Prop where
  fields : Has args.sectionItems section_
  transport : args.transportRequested = true →
    HasTable section_ "transport" (HasSetTransport args)

/-- The numbers among the fields that are set are in range. -/
structure InRange (args : SetArgs) : Prop where
  fields : ∀ kind entries, setFields args kind entries =
    .ok (entries.extend kind args.sectionItems)
  tcp : args.transportRequested = true → args.tcpItems ≠ [] → TcpOk args

/-- No field of a section goes by the name of its transport, or of its services. -/
theorem lookup_puts_section (t : Table) {key : String} (apart : key ∉ ["remote_addr", "bind_addr",
      "default_token", "prefer_ipv6", "heartbeat_timeout", "retry_interval",
      "heartbeat_interval"]) :
    (t.puts (fieldsOf args.sectionItems)).lookup key = t.lookup key := by
  apply Toml.lookup_puts_other
  intro a there same
  obtain ⟨own, listed, path⟩ := Toml.path_fieldsOf there
  rw [path] at same
  exact apart (Option.some.inj same ▸ (keys_sectionItems args).subset listed)

theorem transportValues_ne_nil (existing : Option Value) : args.transportValues existing ≠ [] :=
  List.cons_ne_nil _ _

theorem transportValues_deep (existing : Option Value) :
    ∀ a ∈ args.transportValues existing, a.1 ≠ [] := by
  intro a there
  cases List.mem_cons.mp there with
  | inl here =>
    rw [here]
    exact List.cons_ne_nil _ _
  | inr rest =>
    obtain ⟨nested, -, inside⟩ := List.mem_flatMap.mp rest
    exact Toml.under_deep nested.1 _ a inside

theorem sectionValues_deep (t : Table) : ∀ a ∈ args.sectionValues t, a.1 ≠ [] := by
  intro a there
  cases List.mem_append.mp there with
  | inl field => exact Toml.fieldsOf_deep _ a field
  | inr inside =>
    split at inside
    · exact Toml.under_deep _ _ a inside
    · cases inside

/-- A run without a field is refused. -/
theorem sectionValues_ne_nil (asked : args.anyField = true) (t : Table) :
    args.sectionValues t ≠ [] := by
  unfold SetArgs.sectionValues
  intro empty
  obtain ⟨fields, transport⟩ := List.append_eq_nil_iff.mp empty
  have missing := (fieldsOf_eq_nil (scalar_sectionItems args)).mp fields
  have unasked : args.transportRequested = false := by
    by_contra requested
    rw [if_pos (by simpa using requested)] at transport
    exact transportValues_ne_nil _ (List.map_eq_nil_iff.mp transport)
  simp only [SetArgs.sectionItems, List.append_eq_nil_iff, field_eq_nil] at missing
  simp [SetArgs.anyField, missing, unasked] at asked

/-- The section after a run. -/
theorem setSection_ok (plain : args.noise = false) (formed : Formed kind entries)
    (same : Table.Same entries.written t) (set : setFields args kind entries = .ok fields)
    (ran : setNested env args.transportRequested kind fields "transport"
      (setTransport env args keypair) = .ok after) :
    Formed kind after ∧ Table.Same after.written (t.puts (args.sectionValues t)) ∧
      HasSet args after ∧ InRange args := by
  have inside := wellFormed_of_formed formed
  have scalar := scalar_sectionItems args
  have extends_ := setFields_ok set
  rw [extends_] at set
  cases set
  have fields := formed_extend formed scalar kind
  have put := Toml.Entries.same_extend kind inside scalar same
  have has : Has args.sectionItems (entries.extend kind args.sectionItems) :=
    has_extend (List.Nodup.sublist (keys_sectionItems args) (by decide)) scalar
  unfold SetArgs.sectionValues
  rw [Toml.puts_append]
  unfold setNested at ran
  by_cases requested : args.transportRequested = true
  · rw [if_pos requested] at ran ⊢
    obtain ⟨⟨inner, table⟩, found, ran⟩ := bind_ok ran
    obtain ⟨transport, made, ran⟩ := bind_ok ran
    cases ran
    obtain ⟨formed', same', has'⟩ := setTransport_ok plain made
      (formed_ensureTable fields found) (same_ensureTable fields put found)
    have old : (t.puts (fieldsOf args.sectionItems)).inner "transport" = t.inner "transport" := by
      unfold Toml.Table.inner
      rw [lookup_puts_section t (by decide)]
    refine ⟨fields.insertKey formed' "transport", ?_, ⟨?_, ?_⟩,
      ⟨extends_, fun _ => tcpOk_of_ran plain made⟩⟩
    · rw [Toml.puts_under (transportValues_ne_nil _) (transportValues_deep _), ← old]
      exact Toml.Entries.same_insertKey_table (wellFormed_of_formed fields) formed' same' put
    · intro e there
      have apart : e.1 ≠ "transport" := by
        intro here
        have listed := (keys_sectionItems args).subset (List.mem_map_of_mem there)
        rw [here] at listed
        revert listed
        decide
      rw [Toml.lookup_insertKey, if_neg apart]
      exact has e there
    · intro _
      refine ⟨inner, transport, ?_, isInline_of_ensureTable found, has'⟩
      rw [Toml.lookup_insertKey, if_pos rfl]
  · rw [if_neg requested] at ran ⊢
    cases ran
    exact ⟨fields, put, ⟨has, fun asked => absurd asked requested⟩,
      ⟨extends_, fun asked => absurd asked requested⟩⟩

theorem hasSet_alike (alike : entries.Alike entries') (has : HasSet args entries) :
    HasSet args entries' := by
  constructor
  · exact has_alike alike (scalar_sectionItems args) has.fields
  · intro requested
    exact hasTable_alike alike hasSetTransport_alike (has.transport requested)

/-- A section that has everything is set once more without a change. -/
theorem setSection_again (plain : args.noise = false) (range : InRange args)
    (formed : entries.wellFormed = true) (has : HasSet args entries) :
    setFields args kind entries = .ok entries ∧
      setNested env args.transportRequested kind entries "transport"
        (setTransport env args keypair) = .ok entries := by
  constructor
  · rw [range.fields, extend_has formed (scalar_sectionItems args) has.fields]
  · unfold setNested
    split
    · next requested =>
      obtain ⟨inner, table, held, shown, holds⟩ := has.transport requested
      have again : setTransport env args keypair inner table = .ok table := setTransport_again plain
        (range.tcp requested) (formed_of_lookup_table formed held) holds
      simp [ensureTable_of_lookup_table held shown, again, bind, Except.bind,
        insertKey_of_lookup formed held]
    · rfl

end Section

section Run

variable {Text : Type} {env : Env Text} {args : SetArgs}
  {keypair keypair' : Except String (String × String)} {text after : Text} {side : ServiceSide}
  {doc doc' entries fields set : Entries} {kind : TableKind} {result : SetResult}

/-- A run of `config set` on a configuration that has the section. -/
structure SetRun (env : Env Text) (args : SetArgs) (keypair : Except String (String × String))
    (text : Text) (side : ServiceSide) (doc : Entries) (kind : TableKind)
    (entries fields set : Entries) : Prop where
  chosen : setSide env args (some text) = .ok side
  asked : args.anyField = true
  allowed : args.checkSide side = .ok ()
  checked : checkValues env args = .ok ()
  parsed : env.crate.parse text = .ok doc
  role : ensureRoleAllows doc side = .ok ()
  held : doc.lookup side.key = some (.table kind entries)
  ran : setFields args kind entries = .ok fields
  transported : setNested env args.transportRequested kind fields "transport"
    (setTransport env args keypair) = .ok set
  valid : validate env (env.crate.print (Toml.insertKey doc side.key (.table kind set))) = .ok ()

theorem setRun_of_runSet (sectioned : ∀ doc side, env.crate.parse text = .ok doc →
      ensureRoleAllows doc side = .ok () → (doc.lookup side.key).isSome = true)
    (ran : runSet env args keypair (some text) = .ok (after, result)) :
    ∃ doc kind entries fields set,
      SetRun env args keypair text result.side doc kind entries fields set ∧
      after = env.crate.print (Toml.insertKey doc result.side.key (.table kind set)) := by
  obtain ⟨side, chosen, ran⟩ := bind_ok ran
  obtain ⟨⟨⟩, asked, ran⟩ := bind_ok ran
  obtain ⟨⟨⟩, allowed, ran⟩ := bind_ok ran
  obtain ⟨⟨⟩, checked, ran⟩ := bind_ok ran
  obtain ⟨doc, loaded, ran⟩ := bind_ok ran
  obtain ⟨⟨⟩, role, ran⟩ := bind_ok ran
  obtain ⟨created, opened, ran⟩ := bind_ok ran
  obtain ⟨⟨kind, entries⟩, found, ran⟩ := bind_ok ran
  obtain ⟨fields, first, ran⟩ := bind_ok ran
  obtain ⟨set, second, ran⟩ := bind_ok ran
  obtain ⟨⟨⟩, valid, ran⟩ := bind_ok ran
  cases ran
  have parsed := withContext_ok loaded
  have there := sectioned doc side parsed role
  unfold createSection at opened
  rw [if_pos there] at opened
  cases opened
  refine ⟨doc, kind, entries, fields, set, ?_, rfl⟩
  constructor
  · exact chosen
  · simpa using bailIf_ok.mp asked
  · exact allowed
  · exact checked
  · exact parsed
  · exact role
  · exact sectionOf_ok found
  · exact first
  · exact second
  · exact withContext_ok valid

theorem runSet_of_setRun (run : SetRun env args keypair text side doc kind entries fields set) :
    ∃ result, runSet env args keypair (some text) =
      .ok (env.crate.print (Toml.insertKey doc side.key (.table kind set)), result) := by
  have there : (doc.lookup side.key).isSome = true := by
    rw [run.held]
    rfl
  have opened : createSection args doc side = .ok doc := by
    unfold createSection
    rw [if_pos there]
  have found : sectionOf env doc side = .ok (kind, entries) := by
    unfold sectionOf
    rw [run.held]
    rfl
  have loaded : loadDocument env (some text) = .ok doc := withContext_of_ok run.parsed
  unfold runSet
  simp only [run.chosen, run.asked, run.allowed, run.checked, loaded, run.role, opened, found,
    run.ran, run.transported, withContext_of_ok run.valid, bailIf, bind, Except.bind]
  exact ⟨_, rfl⟩

/-- An accepted configuration has the section that it is allowed to have. -/
theorem sectioned_of_loadable (lawful : env.crate.Lawful) (loadable : Loadable env text)
    (parsed : env.crate.parse text = .ok doc) (role : ensureRoleAllows doc side = .ok ()) :
    (doc.lookup side.key).isSome = true := by
  obtain ⟨t, read, loads⟩ := (loadable_iff text).mp loadable
  obtain ⟨declared, present⟩ := loads.role
  rw [lawful.read parsed read,
    Toml.Entries.lookup_written_isSome (lawful.wellFormed parsed)] at present
  by_cases own : declared = side
  · rw [← own]
    exact present
  · have other : declared = side.other := by
      cases declared <;> cases side <;> first | rfl | exact absurd rfl own
    rw [other, other_of_ensureRoleAllows role] at present
    cases present

theorem ofSide_of_checkSide (plain : args.noise = false) (allowed : args.checkSide side = .ok ()) :
    args.OfSide side := by
  cases side with
  | client =>
    unfold SetArgs.checkSide at allowed
    cases bind : args.bindAddr <;> cases interval : args.heartbeatInterval <;>
      cases pkcs12 : args.pkcs12 <;> cases password : args.pkcs12Password <;>
      simp_all [SetArgs.OfSide]
  | server =>
    unfold SetArgs.checkSide at allowed
    cases remote : args.remoteAddr <;> cases ipv6 : args.preferIpv6 <;>
      cases timeout : args.heartbeatTimeout <;> cases retry : args.retryInterval <;>
      cases root : args.trustedRoot <;> cases hostname : args.hostname <;>
      cases noise : args.noiseKey <;> simp_all [SetArgs.OfSide]

theorem setSide_again {file : Option Text} (chosen : setSide env args (some text) = .ok side)
    (loaded : loadDocument env file = .ok doc) (own : (doc.lookup side.key).isSome = true)
    (other : doc.lookup side.other.key = none) : setSide env args file = .ok side := by
  unfold setSide at chosen ⊢
  cases client : args.client <;> cases server : args.server
  · rw [loaded]
    cases side
    · have client : (doc.lookup "client").isSome = true := own
      have server : doc.lookup "server" = none := other
      simp [client, server]
    · have server : (doc.lookup "server").isSome = true := own
      have client : doc.lookup "client" = none := other
      simp [client, server]
  all_goals
    rw [client, server] at chosen
    exact chosen

/-- The run once more, on what the first one wrote. -/
theorem setRun_again {t : Table} (keypair' : Except String (String × String))
    (lawful : env.crate.Lawful) (plain : args.noise = false)
    (run : SetRun env args keypair text side doc kind entries fields set)
    (has : HasSet args set) (range : InRange args)
    (alike : Entries.Alike (Toml.insertKey doc side.key (.table kind set)) doc')
    (parsed : env.crate.parse after = .ok doc') (readable : env.crate.read after = .ok t)
    (loads : TableLoads env t) : ∃ kind' set',
      SetRun env args keypair' after side doc' kind' set' set' set' ∧
      Toml.insertKey doc' side.key (.table kind' set') = doc' := by
  have target : (Toml.insertKey doc side.key (.table kind set)).lookup side.key =
      some (.table kind set) := by
    rw [Toml.lookup_insertKey, if_pos rfl]
  obtain ⟨kind', set', held, -, inside⟩ := alike.table target
  have own : (doc'.lookup side.key).isSome = true := by
    rw [held]
    rfl
  have other : doc'.lookup side.other.key = none := by
    rw [← Option.not_isSome_iff_eq_none, ← alike.lookup_isSome, Toml.lookup_insertKey,
      if_neg (key_ne_of_ne (ServiceSide.other_ne side)), other_of_ensureRoleAllows run.role]
    exact Bool.false_ne_true
  have unchanged := insertKey_of_lookup alike.formed' held
  have again : setFields args kind' set' = .ok set' ∧
      setNested env args.transportRequested kind' set' "transport"
        (setTransport env args keypair') = .ok set' :=
    setSection_again plain range (formed_of_lookup_table alike.formed' held)
      (hasSet_alike inside has)
  refine ⟨kind', set', ?_, unchanged⟩
  constructor
  · exact setSide_again run.chosen (withContext_of_ok parsed) own other
  · exact run.asked
  · exact run.allowed
  · exact run.checked
  · exact parsed
  · exact ensureRoleAllows_of_lookup own other
  · exact held
  · exact again.1
  · exact again.2
  · obtain ⟨config, loaded⟩ := (loadable_iff _).mpr
      ⟨t, lawful.reprinted parsed readable, loads⟩
    rw [unchanged, validate, loaded]
    rfl

/-- No given field is one of the services. -/
theorem services_kept (args : SetArgs) (side s : ServiceSide) (before : Table) :
    (Value.table (before.puts (args.values side before))).follow [s.key, "services"] =
      (Value.table before).follow [s.key, "services"] := by
  unfold SetArgs.values
  rw [Toml.follow_inner, Toml.follow_inner]
  by_cases own : s = side
  · rw [own]
    by_cases none : args.sectionValues (before.inner side.key) = []
    · rw [none]
      rfl
    · rw [Toml.puts_under none (sectionValues_deep _), Toml.inner_insertKey, SetArgs.sectionValues,
        Toml.puts_append, Toml.lookup_puts_other, lookup_puts_section _ (by decide)]
      intro a there
      split at there
      · obtain ⟨b, -, rfl⟩ := List.mem_map.mp there
        show some "transport" ≠ some "services"
        decide
      · cases there
  · unfold Toml.Table.inner
    rw [Toml.lookup_puts_other]
    intro a there
    obtain ⟨b, -, rfl⟩ := List.mem_map.mp there
    show some side.key ≠ some s.key
    cases s <;> cases side <;> first | exact absurd rfl own | decide

/-- `config set` puts the given fields into a configuration and nothing else, and the same
arguments change nothing when they are given again. -/
theorem set_changes_named (lawful : env.crate.Lawful) (prints : env.crate.Prints)
    (styles : env.crate.Styles) (loadable : Loadable env text) (plain : args.noise = false)
    (ran : runSet env args keypair (some text) = .ok (after, result)) :
    ∃ before t, env.crate.read text = .ok before ∧ env.crate.read after = .ok t ∧
      (before.lookup result.side.key).isSome = true ∧ args.OfSide result.side ∧
      Table.Same t (before.puts (args.values result.side before)) ∧
      (∀ s : ServiceSide, Toml.SameAt ((Value.table t).follow [s.key, "services"])
        ((Value.table before).follow [s.key, "services"])) ∧
      ∀ keypair', ∃ again result', runSet env args keypair' (some after) = .ok (again, result') ∧
        env.crate.read again = .ok t := by
  obtain ⟨doc, kind, entries, fields, set, run, printed⟩ :=
    setRun_of_runSet (fun _ _ => sectioned_of_loadable lawful loadable) ran
  obtain ⟨before, read, -⟩ := (loadable_iff text).mp loadable
  have formed := lawful.wellFormed run.parsed
  have denotes := lawful.read run.parsed read
  have inside : Formed kind entries := (formed_document.mpr formed).lookup run.held
  have old : before.inner result.side.key = entries.written := by
    rw [denotes, Table.inner, Toml.Entries.lookup_written_table formed run.held]
  obtain ⟨formedSet, put, has, range⟩ := setSection_ok plain inside
    (Table.Same.refl entries.written) run.ran run.transported
  have formed' := wellFormed_of_formed
    ((formed_document.mpr formed).insertKey formedSet result.side.key)
  have same : Table.Same (Entries.written (Toml.insertKey doc result.side.key (.table kind set)))
      (before.puts (args.values result.side before)) := by
    have here : Table.Same doc.written before := denotes ▸ .refl _
    unfold SetArgs.values
    rw [old]
    rw [Toml.puts_under (sectionValues_ne_nil run.asked _) (sectionValues_deep _), old]
    exact Toml.Entries.same_insertKey_table formed formedSet put here
  obtain ⟨config, loaded, -⟩ := map_ok run.valid
  obtain ⟨t, readable, loads⟩ := (loadable_iff _).mp ⟨config, loaded⟩
  obtain ⟨doc', parsed⟩ := prints.parsed formed' readable
  have alike := Toml.Crate.alike_of_parse lawful prints styles formed' readable parsed
  rw [← printed] at readable parsed
  have after_ : Table.Same t (before.puts (args.values result.side before)) := by
    rw [lawful.read parsed readable]
    exact alike.same.symm.trans same
  refine ⟨before, t, read, readable, ?_, ofSide_of_checkSide plain run.allowed, after_, ?_, ?_⟩
  · rw [denotes, Toml.Entries.lookup_written_isSome formed, run.held]
    rfl
  · intro s
    rw [← services_kept args result.side s before]
    exact (Toml.same_table.mpr after_).follow _
  · intro keypair'
    obtain ⟨kind', set', again, unchanged⟩ := setRun_again keypair' lawful plain run has
      range alike parsed readable loads
    obtain ⟨result', ran'⟩ := runSet_of_setRun again
    refine ⟨_, result', ran', ?_⟩
    rw [unchanged]
    exact lawful.reprinted parsed readable

end Run

/-- The flags of `config set --client --remote-addr --nodelay`. -/
def nodelayArgs : SetArgs := { remoteAddrArgs "example.com:2333" with nodelay := some true }

def nodelayDocument : Entries :=
  [("client", .table .header [("remote_addr", .string "example.com:2333"),
    ("services", .table .header []),
    ("transport", .table .header [("type", .string "tcp"),
      ("tcp", .table .header [("nodelay", .boolean true)])])])]

theorem loadable_nodelayDocument (order : HashOrder) :
    Loadable (treeEnv order) nodelayDocument := by
  rw [loadable_iff]
  refine ⟨nodelayDocument.written, rfl, ?_⟩
  rw [tableLoads_iff]
  refine ⟨_, rfl, ?_⟩
  rw [Config.validateSections_isOk]
  refine ⟨by simp, ?_, Or.inr rfl⟩
  intro client same
  cases same
  simp only [Config.validateClientConfig, HashOrder.entries_empty]
  exact ⟨_, rfl⟩

/-- A client without a transport gets one of type `tcp`. -/
theorem nodelay_makes_transport : ∃ t, (treeEnv .some).crate.read nodelayDocument = .ok t ∧
    Table.Same t ((clientDocument []).written.puts
      [(["client", "remote_addr"], .string "example.com:2333"),
        (["client", "transport", "type"], .string "tcp"),
        (["client", "transport", "tcp", "nodelay"], .boolean true)]) ∧
    ∃ again result, runSet (treeEnv .some) nodelayArgs (.error "unused") (some nodelayDocument) =
      .ok (again, result) ∧ (treeEnv .some).crate.read again = .ok t := by
  have ran : ∃ context result, result.side = .client ∧ runSet (treeEnv .some) nodelayArgs
      (.error "unused") (some (clientDocument [])) =
        (withContext (validate (treeEnv .some) nodelayDocument) context >>= fun _ =>
          .ok (nodelayDocument, result)) := ⟨_, _, rfl, rfl⟩
  obtain ⟨context, result, side, ran⟩ := ran
  obtain ⟨config, loaded⟩ := loadable_nodelayDocument .some
  rw [validate, loaded] at ran
  have loadable : Loadable (treeEnv .some) (clientDocument []) := by
    obtain ⟨config, loaded, -⟩ := map_ok (validate_clientDocument .some (Or.inl rfl))
    exact ⟨config, loaded⟩
  obtain ⟨before, t, read, readable, -, -, same, -, again⟩ :=
    set_changes_named Toml.Crate.tree_lawful Toml.Crate.tree_prints Toml.Crate.tree_styles loadable
      rfl ran
  cases read
  rw [side] at same
  exact ⟨t, readable, same, again _⟩

end Rathole.ConfigEdit
