import Rathole.ConfigAccount
import Rathole.SchemaSame

set_option autoImplicit false

/- What the loader accepts of a configuration, the import takes: no field of a wrong kind, no key
that is unknown, no value that is refused. The import looks for a structure in a table only, and
for an enumeration in a string. -/
namespace Rathole.ConfigEdit

open Toml (Item Entries TableKind Table Value)

section Kinds

/-- The kind of a value, as it is of an item. -/
def ScalarKind.isOf : ScalarKind → Value → Bool
  | str, .string _ => true
  | int, .integer _ => true
  | bool, .boolean _ => true
  | _, _ => false

theorem matches_of_written {kind : ScalarKind} {item : Item} {v : Value}
    (shown : item.written = some v) (own : kind.isOf v = true) : kind.matches_ item = true := by
  cases item with
  | array items =>
    cases shown
    cases kind <;> cases own
  | table inner entries =>
    rw [Toml.Entries.written_table] at shown
    split at shown
    · cases shown
      cases kind <;> cases own
    · cases shown
  | _ =>
    cases shown
    cases kind <;> first | rfl | cases own

theorem string_of_written {item : Item} {s : String} (shown : item.written = some (.string s)) :
    item = .string s :=
  Item.eq_of_written (show (Item.string s).isScalar = true from rfl) rfl shown (.refl _)

theorem integer_of_written {item : Item} {i : Int} (shown : item.written = some (.integer i)) :
    item = .integer i :=
  Item.eq_of_written (show (Item.integer i).isScalar = true from rfl) rfl shown (.refl _)

theorem string_item {item : Item} {v : Value} {s : String} (shown : item.written = some v)
    (readable : Schema.string v = some s) : item = .string s := by
  cases v with
  | string s' =>
    cases readable
    exact string_of_written shown
  | _ => cases readable

theorem unsigned_item {item : Item} {v : Value} {n : Nat} (shown : item.written = some v)
    (readable : Schema.unsigned v = some n) : ∃ i, item = .integer i ∧ 0 ≤ i ∧ n = i.toNat := by
  cases v with
  | integer i =>
    have readable : (if 0 ≤ i then some i.toNat else none) = some n := readable
    by_cases positive : 0 ≤ i
    · rw [if_pos positive] at readable
      cases readable
      exact ⟨i, integer_of_written shown, positive, rfl⟩
    · rw [if_neg positive] at readable
      cases readable
  | _ => cases readable

/-- What is read so has this kind. -/
def Reads {A : Type} (kind : ScalarKind) (read : Value → Option A) : Prop :=
  ∀ v a, read v = some a → kind.isOf v = true

theorem reads_string : Reads .str Schema.string := by
  intro v a readable
  cases v <;> first | rfl | cases readable

theorem reads_boolean : Reads .bool Schema.boolean := by
  intro v a readable
  cases v <;> first | rfl | cases readable

theorem reads_unsigned : Reads .int Schema.unsigned := by
  intro v a readable
  cases v <;> first | rfl | cases readable

theorem reads_bind {A B : Type} {kind : ScalarKind} {read : Value → Option A}
    (reads : Reads kind read) (f : A → Option B) : Reads kind fun v => (read v).bind f := by
  intro v b readable
  obtain ⟨a, here, -⟩ := Option.bind_eq_some_iff.mp readable
  exact reads v a here

section Lookup

variable {A : Type} {kind : ScalarKind} {read : Value → Option A} {src : Entries} {key : String}
  {item : Item}

/-- A key of the document is a key of the text. -/
theorem exists_written (formed : src.wellFormed = true) (found : src.lookup key = some item) :
    ∃ v, item.written = some v ∧ src.written.lookup key = some v := by
  obtain ⟨v, shown⟩ := Option.isSome_iff_exists.mp
    (Toml.Entries.written_isSome item (Toml.Entries.wellFormed_of_lookup formed found))
  refine ⟨v, shown, ?_⟩
  rw [Toml.Entries.lookup_written formed, found, Option.bind_some, shown]

theorem optional_reads {a : Option A} {v : Value} {t : Table}
    (readable : Schema.optional t key read = some a) (found : t.lookup key = some v) :
    ∃ b, read v = some b := by
  obtain ⟨b, -, here⟩ := optional_of_lookup readable found
  exact ⟨b, here⟩

theorem defaulted_reads {a default : A} {v : Value} {t : Table}
    (readable : Schema.defaulted t key default read = some a) (found : t.lookup key = some v) :
    read v = some a := by
  unfold Schema.defaulted at readable
  rw [found] at readable
  exact readable

theorem required_reads {a : A} {v : Value} {t : Table}
    (readable : Schema.required t key read = some a) (found : t.lookup key = some v) :
    read v = some a := by
  unfold Schema.required at readable
  rw [found] at readable
  exact readable

theorem matches_of_read (reads : Reads kind read) (formed : src.wellFormed = true)
    (found : src.lookup key = some item)
    (readable : ∀ v, src.written.lookup key = some v → ∃ a, read v = some a) :
    kind.matches_ item = true := by
  obtain ⟨v, shown, there⟩ := exists_written formed found
  obtain ⟨a, here⟩ := readable v there
  exact matches_of_written shown (reads v a here)

theorem matches_optional {a : Option A} (reads : Reads kind read) (formed : src.wellFormed = true)
    (readable : Schema.optional src.written key read = some a) (found : src.lookup key = some item) :
    kind.matches_ item = true :=
  matches_of_read reads formed found fun _ there => optional_reads readable there

theorem matches_defaulted {a default : A} (reads : Reads kind read)
    (formed : src.wellFormed = true)
    (readable : Schema.defaulted src.written key default read = some a)
    (found : src.lookup key = some item) : kind.matches_ item = true :=
  matches_of_read reads formed found fun _ there => ⟨a, defaulted_reads readable there⟩

theorem matches_required {a : A} (reads : Reads kind read) (formed : src.wellFormed = true)
    (readable : Schema.required src.written key read = some a)
    (found : src.lookup key = some item) : kind.matches_ item = true :=
  matches_of_read reads formed found fun _ there => ⟨a, required_reads readable there⟩

end Lookup

end Kinds

section Clean

variable {src : Entries} {refusal : Refusal} {keys : ImportKeys}

/-- Every key is a field that is taken. -/
def Clean (refusal : Refusal) (keys : ImportKeys) (src : Entries) : Prop :=
  ∀ key item, src.lookup key = some item → ∃ field ∈ keys, field.1 = key ∧ refusal field item = none

/-- The fields of a structure that denies unknown ones are taken when each of them is. -/
theorem clean_of_fields {names : List String} (formed : src.wellFormed = true)
    (known : ∀ e ∈ src.written, e.1 ∈ names)
    (listed : ∀ name ∈ names, name ∈ keys.map Prod.fst)
    (fields : ∀ field ∈ keys, ∀ item, src.lookup field.1 = some item → refusal field item = none) :
    Clean refusal keys src := by
  intro key item found
  obtain ⟨v, -, there⟩ := exists_written formed found
  have allowed := known (key, v) (Toml.mem_of_lookup there)
  obtain ⟨field, member, rfl⟩ := List.mem_map.mp (listed key allowed)
  exact ⟨field, member, rfl, fields field member item found⟩

theorem scalarRefusal_of_matches {field : String × ScalarKind} {item : Item}
    (matched : field.2.matches_ item = true) : scalarRefusal field item = none := if_pos matched

theorem clean_tls {c : TlsConfig} (formed : src.wellFormed = true)
    (read : Schema.tls (.table src.written) = some c) : Clean scalarRefusal tlsImportKeys src := by
  simp only [Schema.tls, Option.bind_eq_bind, Option.bind_eq_some_iff] at read
  obtain ⟨u, opened, a, hostname, b, root, c, pkcs12, d, password, -⟩ := read
  obtain ⟨rfl, known⟩ := Schema.fields_table.mp opened
  apply clean_of_fields formed known (by decide)
  intro field member item found
  apply scalarRefusal_of_matches
  simp only [tlsImportKeys, List.mem_cons, List.not_mem_nil, or_false] at member
  rcases member with rfl | rfl | rfl | rfl
  · exact matches_optional reads_string formed hostname found
  · exact matches_optional reads_string formed root found
  · exact matches_optional reads_string formed pkcs12 found
  · exact matches_optional reads_string formed password found

theorem clean_noise {c : NoiseConfig} (formed : src.wellFormed = true)
    (read : Schema.noise (.table src.written) = some c) :
    Clean scalarRefusal noiseImportKeys src := by
  simp only [Schema.noise, Option.bind_eq_bind, Option.bind_eq_some_iff] at read
  obtain ⟨u, opened, a, pattern, b, priv, c, pub, -⟩ := read
  obtain ⟨rfl, known⟩ := Schema.fields_table.mp opened
  apply clean_of_fields formed known (by decide)
  intro field member item found
  apply scalarRefusal_of_matches
  simp only [noiseImportKeys, List.mem_cons, List.not_mem_nil, or_false] at member
  rcases member with rfl | rfl | rfl
  · exact matches_defaulted reads_string formed pattern found
  · exact matches_optional reads_string formed priv found
  · exact matches_optional reads_string formed pub found

theorem clean_websocket {c : WebsocketConfig} (formed : src.wellFormed = true)
    (read : Schema.websocket (.table src.written) = some c) :
    Clean scalarRefusal websocketImportKeys src := by
  simp only [Schema.websocket, Option.bind_eq_bind, Option.bind_eq_some_iff] at read
  obtain ⟨u, opened, a, tls, -⟩ := read
  obtain ⟨rfl, known⟩ := Schema.fields_table.mp opened
  apply clean_of_fields formed known (by decide)
  intro field member item found
  apply scalarRefusal_of_matches
  obtain rfl := List.mem_singleton.mp member
  exact matches_required reads_boolean formed tls found

theorem clean_tcp {parseUrl : String → Option Url} {c : TcpConfig} (formed : src.wellFormed = true)
    (read : Schema.tcp parseUrl (.table src.written) = some c) :
    Clean scalarRefusal tcpImportKeys src := by
  simp only [Schema.tcp, Option.bind_eq_bind, Option.bind_eq_some_iff] at read
  obtain ⟨u, opened, a, nodelay, b, secs, c, interval, d, proxy, -⟩ := read
  obtain ⟨rfl, known⟩ := Schema.fields_table.mp opened
  apply clean_of_fields formed known (by decide)
  intro field member item found
  apply scalarRefusal_of_matches
  simp only [tcpImportKeys, List.mem_cons, List.not_mem_nil, or_false] at member
  rcases member with rfl | rfl | rfl | rfl
  · exact matches_defaulted reads_boolean formed nodelay found
  · exact matches_defaulted reads_unsigned formed secs found
  · exact matches_defaulted reads_unsigned formed interval found
  · exact matches_optional (reads_bind reads_string parseUrl) formed proxy found

/-- The value is a table. -/
def IsTable (v : Value) : Prop := ∃ t, v = .table t

def IsString (v : Value) : Prop := ∃ s, v = .string s

theorem table_of_isTable {key : String} {item : Item} {v : Value} (formed : src.wellFormed = true)
    (found : src.lookup key = some item) (there : src.written.lookup key = some v)
    (tabular : IsTable v) : ∃ (kind : TableKind) (fields : Entries),
      item = .table kind fields ∧ fields.wellFormed = true ∧ v = .table fields.written := by
  obtain ⟨t, rfl⟩ := tabular
  obtain ⟨kind, fields, held, rfl⟩ := Toml.Entries.table_of_written formed there
  cases found.symm.trans held
  exact ⟨kind, fields, rfl, formed_of_lookup_table formed held, rfl⟩

/-- The structures of a transport are tables, and its type is a string. -/
structure PlainTransport (t : Table) : Prop where
  type : ∀ v, t.lookup "type" = some v → IsString v
  subs : ∀ key ∈ ["tcp", "tls", "noise", "websocket"], ∀ v, t.lookup key = some v → IsTable v

/-- The structures of a section are tables, and its enumerations are strings. -/
structure PlainSection (u : Table) : Prop where
  transport : ∀ v, u.lookup "transport" = some v → ∃ t, v = .table t ∧ PlainTransport t
  services : ∀ services name v, u.lookup "services" = some (.table services) →
    services.lookup name = some v →
      ∃ t, v = .table t ∧ ∀ w, t.lookup "type" = some w → IsString w

/-- Every key of a transport is its type or a table with known fields. -/
def CleanTransport (table : Entries) : Prop :=
  ∀ key item, table.lookup key = some item →
    key = "type" ∧ takenType table = [("type", item)] ∨
    ∃ sub ∈ transportImportSubkeys, sub.1 = key ∧ ∃ kind fields, item = .table kind fields ∧
      Clean scalarRefusal sub.2 fields

theorem transportType_string {s : String} {type : TransportType}
    (readable : Schema.transportType (.string s) = some type) :
    s ∈ ["tcp", "tls", "noise", "websocket"] := by
  rw [Schema.transportType, Schema.variant_string] at readable
  split at readable
  · next same =>
    cases same
    decide
  · next same =>
    cases same
    decide
  · next same =>
    cases same
    decide
  · next same =>
    cases same
    decide
  · cases readable

theorem clean_transport {parseUrl : String → Option Url} {c : TransportConfig}
    (formed : src.wellFormed = true) (plain : PlainTransport src.written)
    (read : Schema.transport parseUrl (.table src.written) = some c) : CleanTransport src := by
  simp only [Schema.transport, Option.bind_eq_bind, Option.bind_eq_some_iff] at read
  obtain ⟨u, opened, a, type, b, tcp, c, tls, d, noise, e, websocket, -⟩ := read
  obtain ⟨rfl, known⟩ := Schema.fields_table.mp opened
  intro key item found
  obtain ⟨v, shown, there⟩ := exists_written formed found
  have allowed := known (key, v) (Toml.mem_of_lookup there)
  simp only [List.mem_cons, List.not_mem_nil, or_false] at allowed
  rcases allowed with rfl | rfl | rfl | rfl | rfl
  · left
    have readable := required_reads type there
    obtain ⟨s, rfl⟩ := plain.type v there
    have scalar := string_of_written shown
    subst scalar
    refine ⟨rfl, ?_⟩
    unfold takenType
    rw [found, Option.bind_some]
    exact if_pos (transportType_string readable)
  · have readable := defaulted_reads tcp there
    obtain ⟨kind, fields, rfl, inside, rfl⟩ := table_of_isTable formed found there
      (plain.subs _ (by decide) v there)
    exact Or.inr ⟨("tcp", tcpImportKeys), by decide, rfl, kind, fields, rfl,
      clean_tcp inside readable⟩
  · obtain ⟨b, readable⟩ := optional_reads tls there
    obtain ⟨kind, fields, rfl, inside, rfl⟩ := table_of_isTable formed found there
      (plain.subs _ (by decide) v there)
    exact Or.inr ⟨("tls", tlsImportKeys), by decide, rfl, kind, fields, rfl,
      clean_tls inside readable⟩
  · obtain ⟨b, readable⟩ := optional_reads noise there
    obtain ⟨kind, fields, rfl, inside, rfl⟩ := table_of_isTable formed found there
      (plain.subs _ (by decide) v there)
    exact Or.inr ⟨("noise", noiseImportKeys), by decide, rfl, kind, fields, rfl,
      clean_noise inside readable⟩
  · obtain ⟨b, readable⟩ := optional_reads websocket there
    obtain ⟨kind, fields, rfl, inside, rfl⟩ := table_of_isTable formed found there
      (plain.subs _ (by decide) v there)
    exact Or.inr ⟨("websocket", websocketImportKeys), by decide, rfl, kind, fields, rfl,
      clean_websocket inside readable⟩

variable {side : ServiceSide} {token : Bool}

/-- An entry that is inserted, with all of its keys. -/
structure CleanEntry (side : ServiceSide) (token : Bool) (fields : Entries) : Prop where
  made : ∃ entry, importedEntry side token fields = .ok entry
  others : ∀ key item, fields.lookup key = some item → key ∈ mainServiceKeys side ∨
    ∃ field ∈ otherServiceKeys side, field.1 = key ∧ scalarRefusal field item = none

theorem importedEntry_made (side : ServiceSide) {fields : Entries} {a : String}
    (type : ∀ item, fields.lookup "type" = some item →
      ∃ s, item = .string s ∧ (s = "tcp" ∨ s = "udp"))
    (addr : fields.lookup side.serviceAddrKey = some (.string a))
    (valid : validateHostPort a side.serviceAddrKey = .ok ())
    (own : ∀ item, fields.lookup "token" = some item → ∃ s, item = .string s ∧ s ≠ "")
    (default : fields.lookup "token" = none → token = true) :
    ∃ entry, importedEntry side token fields = .ok entry := by
  have first : ∃ type, importedType fields = .ok type := by
    unfold importedType
    cases found : fields.lookup "type" with
    | none => exact ⟨_, rfl⟩
    | some item =>
      obtain ⟨s, rfl, known⟩ := type item found
      rcases known with rfl | rfl
      · exact ⟨_, rfl⟩
      · exact ⟨_, rfl⟩
  have second : importedAddr side.serviceAddrKey fields = .ok [(side.serviceAddrKey, .string a)] := by
    simp only [importedAddr, addr, Option.bind_some, Item.asStr, okOrElse, valid, bind, Except.bind]
    rfl
  have third : ∃ entry, importedToken token fields = .ok entry := by
    unfold importedToken
    cases found : fields.lookup "token" with
    | none =>
      rw [default found]
      exact ⟨_, rfl⟩
    | some item =>
      obtain ⟨s, rfl, filled⟩ := own item found
      refine ⟨[("token", .string s)], ?_⟩
      simp [Item.asStr, okOrElse, bailIf, filled, bind, Except.bind]
  obtain ⟨type, first⟩ := first
  obtain ⟨entry, third⟩ := third
  refine ⟨type ++ [(side.serviceAddrKey, .string a)] ++ entry, ?_⟩
  simp only [importedEntry, first, second, third, bind, Except.bind]

theorem serviceType_string {s : String} {type : ServiceType}
    (readable : Schema.serviceType (.string s) = some type) : s = "tcp" ∨ s = "udp" := by
  rw [Schema.serviceType, Schema.variant_string] at readable
  split at readable
  · next same =>
    cases same
    exact Or.inl rfl
  · next same =>
    cases same
    exact Or.inr rfl
  · cases readable

theorem type_item {fields : Entries} {type : ServiceType} (formed : fields.wellFormed = true)
    (plain : ∀ w, fields.written.lookup "type" = some w → IsString w)
    (read : Schema.defaulted fields.written "type" defaultServiceType Schema.serviceType = some type) :
    ∀ item, fields.lookup "type" = some item → ∃ s, item = .string s ∧ (s = "tcp" ∨ s = "udp") := by
  intro item found
  obtain ⟨v, shown, there⟩ := exists_written formed found
  have readable := defaulted_reads read there
  obtain ⟨s, rfl⟩ := plain v there
  exact ⟨s, string_of_written shown, serviceType_string readable⟩

theorem string_field {key a : String} {v : Value} (formed : src.wellFormed = true)
    (there : src.written.lookup key = some v) (readable : Schema.string v = some a) :
    src.lookup key = some (.string a) ∧ v = .string a := by
  have present : (src.lookup key).isSome = true := by
    rw [← Toml.Entries.lookup_written_isSome formed, there]
    rfl
  obtain ⟨item, found⟩ := Option.isSome_iff_exists.mp present
  obtain ⟨w, shown, there'⟩ := exists_written formed found
  cases there.symm.trans there'
  have scalar := string_item shown readable
  subst scalar
  cases shown
  exact ⟨found, rfl⟩

theorem required_string {key a : String} (formed : src.wellFormed = true)
    (read : Schema.required src.written key Schema.string = some a) :
    src.lookup key = some (.string a) := by
  obtain ⟨v, there, readable⟩ := Option.bind_eq_some_iff.mp read
  exact (string_field formed there readable).1

theorem optional_string {key a : String} (formed : src.wellFormed = true)
    (read : Schema.optional src.written key Schema.string = some (some a)) :
    src.lookup key = some (.string a) := by
  obtain ⟨v, there⟩ := Option.isSome_iff_exists.mp (optional_isSome read)
  obtain ⟨b, same, readable⟩ := optional_of_lookup read there
  cases same
  exact (string_field formed there readable).1

/-- A token of its own is not empty; without one there is the default of the section. -/
theorem token_items {own default : Option MaskedString} (formed : src.wellFormed = true)
    (read : Schema.optional src.written "token" Schema.string = some own)
    (set : Config.TokenSet own default) :
    (∀ item, src.lookup "token" = some item → ∃ s, item = .string s ∧ s ≠ "") ∧
      (src.lookup "token" = none → ∃ s, default = some s ∧ s.isEmpty = false) := by
  obtain ⟨token, from_, filled⟩ := set
  constructor
  · intro item found
    obtain ⟨v, shown, there⟩ := exists_written formed found
    obtain ⟨s, same, readable⟩ := optional_of_lookup read there
    refine ⟨s, string_item shown readable, ?_⟩
    rw [same] at from_
    cases from_
    intro empty
    rw [empty] at filled
    cases filled
  · intro absent
    have none : own = none := by
      have held := optional_isSome read
      rw [Toml.Entries.lookup_written_isSome formed, absent] at held
      exact Option.not_isSome_iff_eq_none.mp (by rw [← held]; exact Bool.false_ne_true)
    rw [none] at from_
    exact ⟨token, from_, filled⟩

theorem clean_clientService {s : ClientServiceConfig} {default : Option MaskedString}
    {fields : Entries} (formed : fields.wellFormed = true)
    (plain : ∀ w, fields.written.lookup "type" = some w → IsString w)
    (read : Schema.clientService (.table fields.written) = some s)
    (set : Config.TokenSet s.token default)
    (available : ∀ t, default = some t → t.isEmpty = false → token = true)
    (host : validateHostPort s.localAddr "local_addr" = .ok ()) : CleanEntry .client token fields := by
  simp only [Schema.clientService, Option.bind_eq_bind, Option.bind_eq_some_iff,
    Option.some.injEq] at read
  obtain ⟨u, opened, a, type, b, addr, c, ipv6, d, tok, e, nodelay, f, retry, rfl⟩ := read
  obtain ⟨rfl, known⟩ := Schema.fields_table.mp opened
  have held := required_string formed addr
  obtain ⟨own, absent⟩ := token_items formed tok set
  constructor
  · have default : fields.lookup "token" = none → token = true := by
      intro none
      obtain ⟨t, same, filled⟩ := absent none
      exact available t same filled
    exact importedEntry_made .client (type_item formed plain type) held host own
      default
  · intro key item found
    obtain ⟨v, -, there⟩ := exists_written formed found
    have allowed := known (key, v) (Toml.mem_of_lookup there)
    simp only [List.mem_cons, List.not_mem_nil, or_false] at allowed
    rcases allowed with rfl | rfl | rfl | rfl | rfl | rfl
    · exact Or.inl (by decide)
    · exact Or.inl (by decide)
    · exact Or.inr ⟨("prefer_ipv6", .bool), by decide, rfl,
        scalarRefusal_of_matches (matches_defaulted reads_boolean formed ipv6 found)⟩
    · exact Or.inl (by decide)
    · exact Or.inr ⟨("nodelay", .bool), by decide, rfl,
        scalarRefusal_of_matches (matches_optional reads_boolean formed nodelay found)⟩
    · exact Or.inr ⟨("retry_interval", .int), by decide, rfl,
        scalarRefusal_of_matches (matches_optional reads_unsigned formed retry found)⟩

theorem clean_serverService {s : ServerServiceConfig} {default : Option MaskedString}
    {fields : Entries} (formed : fields.wellFormed = true)
    (plain : ∀ w, fields.written.lookup "type" = some w → IsString w)
    (read : Schema.serverService (.table fields.written) = some s)
    (set : Config.TokenSet s.token default)
    (available : ∀ t, default = some t → t.isEmpty = false → token = true)
    (host : validateHostPort s.bindAddr "bind_addr" = .ok ()) : CleanEntry .server token fields := by
  simp only [Schema.serverService, Option.bind_eq_bind, Option.bind_eq_some_iff,
    Option.some.injEq] at read
  obtain ⟨u, opened, a, type, b, addr, c, tok, d, nodelay, rfl⟩ := read
  obtain ⟨rfl, known⟩ := Schema.fields_table.mp opened
  have held := required_string formed addr
  obtain ⟨own, absent⟩ := token_items formed tok set
  constructor
  · have default : fields.lookup "token" = none → token = true := by
      intro none
      obtain ⟨t, same, filled⟩ := absent none
      exact available t same filled
    exact importedEntry_made .server (type_item formed plain type) held host own
      default
  · intro key item found
    obtain ⟨v, -, there⟩ := exists_written formed found
    have allowed := known (key, v) (Toml.mem_of_lookup there)
    simp only [List.mem_cons, List.not_mem_nil, or_false] at allowed
    rcases allowed with rfl | rfl | rfl | rfl
    · exact Or.inl (by decide)
    · exact Or.inl (by decide)
    · exact Or.inl (by decide)
    · exact Or.inr ⟨("nodelay", .bool), by decide, rfl,
        scalarRefusal_of_matches (matches_optional reads_boolean formed nodelay found)⟩

/-- Every service has a valid name, and an entry that is inserted with all of its keys. -/
def CleanServices (side : ServiceSide) (token : Bool) (services : Entries) : Prop :=
  ∀ name item, services.lookup name = some item → validateServiceName name = .ok () ∧
    ∃ kind fields, item = .table kind fields ∧ CleanEntry side token fields

/-- A section of which an import leaves nothing out. -/
structure CleanSection (side : ServiceSide) (src : Entries) : Prop where
  known : ∀ key item, src.lookup key = some item →
    key ∈ side.importGlobals.map Prod.fst ∨ key = "transport" ∨ key = "services"
  globals : ∀ field ∈ side.importGlobals, ∀ item, src.lookup field.1 = some item →
    globalRefusal side field item = none
  transport : ∀ item, src.lookup "transport" = some item →
    ∃ kind table, item = .table kind table ∧ CleanTransport table
  services : ∃ kind services, src.lookup "services" = some (.table kind services) ∧
    CleanServices side (hasDefaultToken src) services
  address : ∃ a, src.lookup side.sectionAddrKey = some (.string a)

theorem clean_services {A : Type} {read : Value → Option A} {services : HashMap String A}
    (formed : src.wellFormed = true) (plain : PlainSection src.written)
    (found : Schema.required src.written "services" (Schema.hashMap read) = some services)
    (each : ∀ name s fields, services.lookup name = some s → fields.wellFormed = true →
      (∀ w, fields.written.lookup "type" = some w → IsString w) →
      read (.table fields.written) = some s →
      validateServiceName name = .ok () ∧ CleanEntry side token fields) :
    ∃ kind listed, src.lookup "services" = some (.table kind listed) ∧
      CleanServices side token listed := by
  obtain ⟨v, there, readable⟩ := Option.bind_eq_some_iff.mp found
  cases v with
  | table t =>
    obtain ⟨kind, listed, held, rfl⟩ := Toml.Entries.table_of_written formed there
    have inside := formed_of_lookup_table formed held
    have readable : Schema.entries read listed.written = some services := readable
    have readables := Schema.entries_isSome.mp (Option.isSome_of_mem readable)
    refine ⟨kind, listed, held, ?_⟩
    intro name item here
    obtain ⟨w, shown, written⟩ := exists_written inside here
    have entry := Schema.lookup_entries readable name
    rw [written, Option.bind_some] at entry
    obtain ⟨s, own⟩ := Option.isSome_iff_exists.mp
      (readables (name, w) (Toml.mem_of_lookup written))
    obtain ⟨t, tabular, typed⟩ := plain.services _ name w there written
    obtain ⟨inner, fields, rfl, formedEntry, rfl⟩ :=
      table_of_isTable inside here written ⟨t, tabular⟩
    cases tabular
    obtain ⟨named, clean⟩ := each name s fields (entry.trans own) formedEntry typed own
    exact ⟨named, inner, fields, rfl, clean⟩
  | _ => cases readable

theorem hasDefaultToken_of_read {default : Option MaskedString} (formed : src.wellFormed = true)
    (read : Schema.optional src.written "default_token" Schema.string = some default) :
    ∀ t, default = some t → t.isEmpty = false → hasDefaultToken src = true := by
  intro t same filled
  subst same
  unfold hasDefaultToken
  rw [optional_string formed read]
  have other : t ≠ "" := by
    intro empty
    rw [empty] at filled
    cases filled
  simp [Item.asStr, other]

theorem clean_transportItem {parseUrl : String → Option Url} {c : TransportConfig}
    (formed : src.wellFormed = true) (plain : PlainSection src.written)
    (read : Schema.defaulted src.written "transport" .default
      (Schema.transport parseUrl) = some c) :
    ∀ item, src.lookup "transport" = some item →
      ∃ kind table, item = .table kind table ∧ CleanTransport table := by
  intro item found
  obtain ⟨v, -, there⟩ := exists_written formed found
  have readable := defaulted_reads read there
  obtain ⟨t, tabular, plain⟩ := plain.transport v there
  obtain ⟨kind, table, rfl, inside, rfl⟩ := table_of_isTable formed found there ⟨t, tabular⟩
  cases tabular
  exact ⟨kind, table, rfl, clean_transport inside plain readable⟩

section Globals

variable {key : String} {item : Item}

theorem globalRefusal_addr {a : String} (named : key = "remote_addr" ∨ key = "bind_addr")
    (valid : validateHostPort a key = .ok ()) :
    globalRefusal side (key, .str) (.string a) = none := by
  simp [globalRefusal, ScalarKind.matches_, rejectGlobal, named, Item.asStr, valid]

theorem globalRefusal_token {t : String} (filled : t.isEmpty = false) :
    globalRefusal side ("default_token", .str) (.string t) = none := by
  simp [globalRefusal, ScalarKind.matches_, rejectGlobal, Item.asStr, filled]

theorem globalRefusal_bool (matched : ScalarKind.matches_ .bool item = true) :
    globalRefusal side ("prefer_ipv6", .bool) item = none := by
  simp [globalRefusal, matched, rejectGlobal]

theorem globalRefusal_int {i : Int} (positive : 0 ≤ i)
    (named : key = "heartbeat_timeout" ∨ key = "heartbeat_interval") :
    globalRefusal side (key, .int) (.integer i) = none := by
  have bound : ¬ i < 0 := by omega
  rcases named with rfl | rfl
  · simp [globalRefusal, ScalarKind.matches_, rejectGlobal, Item.asInteger, bound]
  · simp [globalRefusal, ScalarKind.matches_, rejectGlobal, Item.asInteger, bound]

theorem globalRefusal_retry {i : Int} (positive : 0 < i) :
    globalRefusal .client ("retry_interval", .int) (.integer i) = none := by
  have bound : ¬ i ≤ 0 := by omega
  simp [globalRefusal, ScalarKind.matches_, rejectGlobal, Item.asInteger, bound]

end Globals

/-- The addresses and the names of a client that the commands accept. -/
structure ClientNamed (client : ClientConfig) : Prop where
  addr : validateHostPort client.remoteAddr "remote_addr" = .ok ()
  names : ∀ name s, client.services.lookup name = some s → validateServiceName name = .ok ()
  hosts : ∀ name s, client.services.lookup name = some s →
    validateHostPort s.localAddr "local_addr" = .ok ()

/-- The addresses and the names of a server that the commands accept. -/
structure ServerNamed (server : ServerConfig) : Prop where
  addr : validateHostPort server.bindAddr "bind_addr" = .ok ()
  names : ∀ name s, server.services.lookup name = some s → validateServiceName name = .ok ()
  hosts : ∀ name s, server.services.lookup name = some s →
    validateHostPort s.bindAddr "bind_addr" = .ok ()

theorem filled_default {section_ : String} {default : Option MaskedString}
    (checked : Config.checkDefaultToken section_ default = .ok ()) :
    ∀ t, default = some t → t.isEmpty = false := by
  intro t same
  subst same
  cases empty : t.isEmpty with
  | false => rfl
  | true =>
    simp only [Config.checkDefaultToken, empty, if_true] at checked
    cases checked

theorem globalRefusal_default {default : Option MaskedString} {item : Item}
    (formed : src.wellFormed = true)
    (read : Schema.optional src.written "default_token" Schema.string = some default)
    (filled : ∀ t, default = some t → t.isEmpty = false)
    (found : src.lookup "default_token" = some item) :
    globalRefusal side ("default_token", .str) item = none := by
  obtain ⟨v, shown, there⟩ := exists_written formed found
  obtain ⟨t, same, readable⟩ := optional_of_lookup read there
  rw [string_item shown readable]
  exact globalRefusal_token (filled t same)

theorem globalRefusal_seconds {key : String} {n default : Nat} {item : Item}
    (formed : src.wellFormed = true)
    (read : Schema.defaulted src.written key default Schema.unsigned = some n)
    (named : key = "heartbeat_timeout" ∨ key = "heartbeat_interval")
    (found : src.lookup key = some item) : globalRefusal side (key, .int) item = none := by
  obtain ⟨v, shown, there⟩ := exists_written formed found
  obtain ⟨i, rfl, positive, -⟩ := unsigned_item shown (defaulted_reads read there)
  exact globalRefusal_int positive named

theorem clean_client {parseUrl : String → Option Url} {client : ClientConfig}
    (formed : src.wellFormed = true) (plain : PlainSection src.written)
    (read : Schema.ClientRead parseUrl src.written client)
    (accepted : Config.ClientAccepted client) (named : ClientNamed client) :
    CleanSection .client src := by
  have addr := required_string formed read.remoteAddr
  constructor
  · intro key item found
    obtain ⟨v, -, there⟩ := exists_written formed found
    have allowed := read.known (key, v) (Toml.mem_of_lookup there)
    simp only [List.mem_cons, List.not_mem_nil, or_false] at allowed
    rcases allowed with rfl | rfl | rfl | rfl | rfl | rfl | rfl <;> decide
  · intro field member item found
    simp only [ServiceSide.importGlobals, clientImportGlobals, List.mem_cons, List.not_mem_nil,
      or_false] at member
    rcases member with rfl | rfl | rfl | rfl | rfl
    · cases addr.symm.trans found
      exact globalRefusal_addr (Or.inl rfl) named.addr
    · exact globalRefusal_default formed read.defaultToken (filled_default accepted.default) found
    · exact globalRefusal_bool (matches_optional reads_boolean formed read.preferIpv6 found)
    · exact globalRefusal_seconds formed read.heartbeatTimeout (Or.inl rfl) found
    · obtain ⟨v, shown, there⟩ := exists_written formed found
      obtain ⟨i, rfl, positive, same⟩ := unsigned_item shown
        (defaulted_reads read.retryInterval there)
      have apart := accepted.interval
      exact globalRefusal_retry (by omega)
  · exact clean_transportItem formed plain read.transport
  · apply clean_services formed plain read.services
    intro name s fields found inside typed readable
    refine ⟨named.names name s found, ?_⟩
    exact clean_clientService inside typed readable (accepted.tokens name s found)
      (hasDefaultToken_of_read formed read.defaultToken) (named.hosts name s found)
  · exact ⟨client.remoteAddr, addr⟩

theorem clean_server {parseUrl : String → Option Url} {server : ServerConfig}
    (formed : src.wellFormed = true) (plain : PlainSection src.written)
    (read : Schema.ServerRead parseUrl src.written server)
    (accepted : Config.ServerAccepted server) (named : ServerNamed server) :
    CleanSection .server src := by
  have addr := required_string formed read.bindAddr
  constructor
  · intro key item found
    obtain ⟨v, -, there⟩ := exists_written formed found
    have allowed := read.known (key, v) (Toml.mem_of_lookup there)
    simp only [List.mem_cons, List.not_mem_nil, or_false] at allowed
    rcases allowed with rfl | rfl | rfl | rfl | rfl <;> decide
  · intro field member item found
    simp only [ServiceSide.importGlobals, serverImportGlobals, List.mem_cons, List.not_mem_nil,
      or_false] at member
    rcases member with rfl | rfl | rfl
    · cases addr.symm.trans found
      exact globalRefusal_addr (Or.inr rfl) named.addr
    · exact globalRefusal_default formed read.defaultToken (filled_default accepted.default) found
    · exact globalRefusal_seconds formed read.heartbeatInterval (Or.inr rfl) found
  · exact clean_transportItem formed plain read.transport
  · apply clean_services formed plain read.services
    intro name s fields found inside typed readable
    refine ⟨named.names name s found, ?_⟩
    exact clean_serverService inside typed readable (accepted.tokens name s found)
      (hasDefaultToken_of_read formed read.defaultToken) (named.hosts name s found)
  · exact ⟨server.bindAddr, addr⟩

end Clean

end Rathole.ConfigEdit
