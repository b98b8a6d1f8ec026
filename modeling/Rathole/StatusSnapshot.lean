import Mathlib.Data.Finset.Sort
import Mathlib.Data.String.Basic
import Rathole.JsonRead
import Rathole.SocketAddrText

set_option autoImplicit false

/- The snapshot of the registry as a JSON value: what `Serialize` and `Deserialize` derive for its
types. -/
namespace Rathole.RuntimeStatus

open Json (Value)

/-- A `BTreeMap` lists its entries in the order of the keys. -/
def sortedEntries {V : Type} (m : HashMap String V) : List (String × V) :=
  (m.keys.sort fun a b => a ≤ b).filterMap fun k => (m.lookup k).map fun v => (k, v)

theorem plain_toDigits (n : Nat) : ∀ c ∈ Nat.toDigits 10 n, c ∈ "+-.0123456789Ee".toList := by
  have all : ∀ d < 10, d.digitChar ∈ "+-.0123456789Ee".toList := by decide
  induction n using Nat.strongRecOn with
  | _ n ih =>
    intro c member
    rw [Nat.toDigits_eq_if (by decide)] at member
    split at member
    · next small =>
      rw [List.mem_singleton.mp member]
      exact all n small
    · rcases List.mem_append.mp member with front | last
      · exact ih (n / 10) (by omega) c front
      · rw [List.mem_singleton.mp last]
        exact all _ (Nat.mod_lt n (by decide))

def ofNat (n : Nat) : Value := .number ⟨Nat.toDigits 10 n, plain_toDigits n⟩

/-- An unsigned integer of some width; `bound` is the first number that it has no room for. -/
def readNat (bound : Nat) : Value → Option Nat
  | .number n =>
    if Json.isDigits n.text ∧ decimal n.text < bound then some (decimal n.text) else none
  | _ => none

def ofOption {α : Type} (f : α → Value) : Option α → Value
  | none => .null
  | some a => f a

def readString : Value → Option String
  | .string s => some s
  | _ => none

/-- An enumeration without fields is the name of its variant. -/
def readName {α : Type} (all : List α) (name : α → String) : Value → Option α
  | .string s => all.find? fun a => name a = s
  | _ => none

section Fields

variable {α : Type} (fields : List (String × Value)) (name : String)

/-- The field of this name, if there is one. It must not be there twice. -/
def field : Option (Option Value) :=
  match fields.filter fun entry => entry.1 = name with
  | [] => some none
  | [entry] => some (some entry.2)
  | _ => none

def required (read : Value → Option α) : Option α :=
  match field fields name with
  | some (some v) => read v
  | _ => none

/-- A field with an `Option`, which is `None` when it is missing. -/
def optional (read : Value → Option α) : Option (Option α) :=
  match field fields name with
  | some (some .null) => some none
  | some (some v) => (read v).map some
  | some none => some none
  | none => none

end Fields

def RuntimeRole.name : RuntimeRole → String
  | .client => "client"
  | .server => "server"

theorem RuntimeRole.name_injective : Function.Injective RuntimeRole.name := by
  intro a b same
  cases a <;> cases b <;> first | rfl | exact absurd same (by decide)

def ClientControlState.name : ClientControlState → String
  | .connecting => "connecting"
  | .connected => "connected"
  | .retrying => "retrying"
  | .stopped => "stopped"

theorem ClientControlState.name_injective : Function.Injective ClientControlState.name := by
  intro a b same
  cases a <;> cases b <;> first | rfl | exact absurd same (by decide)

def ServerControlState.name : ServerControlState → String
  | .waiting => "waiting"
  | .connected => "connected"
  | .stopped => "stopped"

theorem ServerControlState.name_injective : Function.Injective ServerControlState.name := by
  intro a b same
  cases a <;> cases b <;> first | rfl | exact absurd same (by decide)

def ServerListenerState.name : ServerListenerState → String
  | .pending => "pending"
  | .listening => "listening"
  | .error => "error"
  | .stopped => "stopped"

theorem ServerListenerState.name_injective : Function.Injective ServerListenerState.name := by
  intro a b same
  cases a <;> cases b <;> first | rfl | exact absurd same (by decide)

def ofAddr (addr : SocketAddr) : Value := .string (String.ofList addr.display)

def readAddr (v : Value) : Option SocketAddr := (readString v).bind SocketAddr.parse

def RuntimeEvent.value (event : RuntimeEvent) : Value :=
  .object [("at_unix_ms", ofNat event.atUnixMs), ("message", .string event.message)]

def RuntimeEvent.read : Value → Option RuntimeEvent
  | .object fields => do
    let atUnixMs ← required fields "at_unix_ms" (readNat (2 ^ 64))
    let message ← required fields "message" readString
    some ⟨atUnixMs, message⟩
  | _ => none

def ServerListenerSnapshot.value (listener : ServerListenerSnapshot) : Value :=
  .object [("state", .string listener.state.name),
    ("last_error", ofOption RuntimeEvent.value listener.lastError)]

def ServerListenerSnapshot.read : Value → Option ServerListenerSnapshot
  | .object fields => do
    let state ← required fields "state"
      (readName [.pending, .listening, .error, .stopped] ServerListenerState.name)
    let lastError ← optional fields "last_error" RuntimeEvent.read
    some ⟨state, lastError⟩
  | _ => none

/-- The variant is the field `kind`, in front of its own fields. -/
def RuntimeServiceSnapshot.value : RuntimeServiceSnapshot → Value
  | .client entry =>
    .object [("kind", .string "client"), ("state", .string entry.state.name),
      ("configured_control_target", .string entry.configuredControlTarget),
      ("resolved_control_target", ofOption ofAddr entry.resolvedControlTarget),
      ("last_connected_at_unix_ms", ofOption ofNat entry.lastConnectedAtUnixMs),
      ("last_error", ofOption RuntimeEvent.value entry.lastError)]
  | .server entry =>
    .object [("kind", .string "server"), ("state", .string entry.state.name),
      ("control_channel_source", ofOption ofAddr entry.controlChannelSource),
      ("connected_since_unix_ms", ofOption ofNat entry.connectedSinceUnixMs),
      ("last_disconnected_or_error",
        ofOption RuntimeEvent.value entry.lastDisconnectedOrError)]

def ClientSnapshot.read (fields : List (String × Value)) : Option ClientSnapshot := do
  let state ← required fields "state"
    (readName [.connecting, .connected, .retrying, .stopped] ClientControlState.name)
  let configuredControlTarget ← required fields "configured_control_target" readString
  let resolvedControlTarget ← optional fields "resolved_control_target" readAddr
  let lastConnectedAtUnixMs ← optional fields "last_connected_at_unix_ms" (readNat (2 ^ 64))
  let lastError ← optional fields "last_error" RuntimeEvent.read
  some ⟨state, configuredControlTarget, resolvedControlTarget, lastConnectedAtUnixMs, lastError⟩

def ServerSnapshot.read (fields : List (String × Value)) : Option ServerSnapshot := do
  let state ← required fields "state"
    (readName [.waiting, .connected, .stopped] ServerControlState.name)
  let controlChannelSource ← optional fields "control_channel_source" readAddr
  let connectedSinceUnixMs ← optional fields "connected_since_unix_ms" (readNat (2 ^ 64))
  let lastDisconnectedOrError ←
    optional fields "last_disconnected_or_error" RuntimeEvent.read
  some ⟨state, controlChannelSource, connectedSinceUnixMs, lastDisconnectedOrError⟩

def RuntimeServiceSnapshot.read : Value → Option RuntimeServiceSnapshot
  | .object fields => do
    let kind ← required fields "kind" (readName [.client, .server] RuntimeRole.name)
    match kind with
    | .client => (ClientSnapshot.read fields).map .client
    | .server => (ServerSnapshot.read fields).map .server
  | _ => none

/-- A later entry of a key replaces an earlier one. -/
def readServices : Value → Option (HashMap String RuntimeServiceSnapshot)
  | .object fields => do
    let entries ← fields.mapM fun entry => (RuntimeServiceSnapshot.read entry.2).map (entry.1, ·)
    some (entries.foldl (fun services entry => services.insert entry.1 entry.2) ∅)
  | _ => none

def RuntimeSnapshot.value (r : RuntimeSnapshot) : Value :=
  .object [("schema_version", ofNat r.schemaVersion), ("role", .string r.role.name),
    ("process_id", ofNat r.processId), ("captured_at_unix_ms", ofNat r.capturedAtUnixMs),
    ("server_listener", ofOption ServerListenerSnapshot.value r.serverListener),
    ("services", .object ((sortedEntries r.services).map fun entry => (entry.1, entry.2.value)))]

def RuntimeSnapshot.read : Value → Option RuntimeSnapshot
  | .object fields => do
    let schemaVersion ← required fields "schema_version" (readNat (2 ^ 32))
    let role ← required fields "role" (readName [.client, .server] RuntimeRole.name)
    let processId ← required fields "process_id" (readNat (2 ^ 32))
    let capturedAtUnixMs ← required fields "captured_at_unix_ms" (readNat (2 ^ 64))
    let serverListener ← optional fields "server_listener" ServerListenerSnapshot.read
    let services ← required fields "services" readServices
    some ⟨schemaVersion, role, processId, capturedAtUnixMs, serverListener, services⟩
  | _ => none

/-- A time that the clock can show, and a text that was cut. -/
structure RuntimeEvent.InRange (event : RuntimeEvent) : Prop where
  clock : event.atUnixMs < 2 ^ 64
  message : event.message.utf8ByteSize ≤ 512

def RuntimeServiceSnapshot.InRange : RuntimeServiceSnapshot → Prop
  | .client entry => (∀ at_ ∈ entry.lastConnectedAtUnixMs, at_ < 2 ^ 64) ∧
      ∀ event ∈ entry.lastError, event.InRange
  | .server entry => (∀ at_ ∈ entry.connectedSinceUnixMs, at_ < 2 ^ 64) ∧
      ∀ event ∈ entry.lastDisconnectedOrError, event.InRange

/-- The numbers of the registry are of the types that they have in the program. -/
structure RuntimeSnapshot.InRange (r : RuntimeSnapshot) : Prop where
  schemaVersion : r.schemaVersion < 2 ^ 32
  processId : r.processId < 2 ^ 32
  capturedAtUnixMs : r.capturedAtUnixMs < 2 ^ 64
  listener : ∀ listener ∈ r.serverListener, ∀ event ∈ listener.lastError, event.InRange
  services : ∀ name entry, r.services.lookup name = some entry → entry.InRange

/-- What a text can say of an entry. -/
def RuntimeServiceSnapshot.shown : RuntimeServiceSnapshot → RuntimeServiceSnapshot
  | .client entry => .client
      { entry with resolvedControlTarget := entry.resolvedControlTarget.map SocketAddr.shown }
  | .server entry => .server
      { entry with controlChannelSource := entry.controlChannelSource.map SocketAddr.shown }

def mapEntries {V : Type} (f : V → V) (m : HashMap String V) : HashMap String V :=
  ((sortedEntries m).map fun entry => (entry.1, f entry.2)).foldl
    (fun m entry => m.insert entry.1 entry.2) ∅

/-- The flow information of addresses is lost. -/
def RuntimeSnapshot.shown (r : RuntimeSnapshot) : RuntimeSnapshot :=
  { r with services := mapEntries RuntimeServiceSnapshot.shown r.services }

section Entries

variable {V : Type}

theorem mem_sortedEntries {m : HashMap String V} {k : String} {v : V} :
    (k, v) ∈ sortedEntries m ↔ m.lookup k = some v := by
  simp only [sortedEntries, List.mem_filterMap, Finset.mem_sort, Finmap.mem_keys,
    Option.map_eq_some_iff, Prod.mk.injEq]
  constructor
  · rintro ⟨name, -, value, found, rfl, rfl⟩
    exact found
  · intro found
    exact ⟨k, Finmap.mem_iff.mpr ⟨v, found⟩, v, found, rfl, rfl⟩

theorem nodup_sortedEntries (m : HashMap String V) : ((sortedEntries m).map Prod.fst).Nodup := by
  have kept : ∀ keys : List String, (∀ k ∈ keys, k ∈ m) →
      ((keys.filterMap fun k => (m.lookup k).map fun v => (k, v)).map Prod.fst) = keys := by
    intro keys held
    induction keys with
    | nil => rfl
    | cons k keys ih =>
      obtain ⟨v, found⟩ := Finmap.mem_iff.mp (held k List.mem_cons_self)
      rw [List.filterMap_cons_some (by rw [found]; rfl), List.map_cons,
        ih fun k' member => held k' (List.mem_cons_of_mem k member)]
  rw [sortedEntries, kept _ fun k member => Finmap.mem_keys.mp ((Finset.mem_sort _).mp member)]
  exact Finset.sort_nodup _ _

/-- A table that is filled with entries of different keys has those. -/
theorem lookup_foldl_insert {entries : List (String × V)} (distinct : (entries.map Prod.fst).Nodup)
    (m : HashMap String V) (k : String) :
    (entries.foldl (fun m entry => m.insert entry.1 entry.2) m).lookup k =
      match entries.find? fun entry => entry.1 = k with
      | some entry => some entry.2
      | none => m.lookup k := by
  induction entries generalizing m with
  | nil => rfl
  | cons entry entries ih =>
    obtain ⟨fresh, distinct⟩ := List.nodup_cons.mp distinct
    rw [List.foldl_cons, ih distinct]
    by_cases same : entry.1 = k
    · have absent : entries.find? (fun entry => entry.1 = k) = none := by
        rw [List.find?_eq_none]
        intro other member here
        apply fresh
        rw [same, ← of_decide_eq_true here]
        exact List.mem_map_of_mem member
      rw [List.find?_cons_of_pos (by simpa using same), absent, lookup_insert_eq, if_pos same.symm]
    · rw [List.find?_cons_of_neg (by simpa using same)]
      split
      · rfl
      · rw [lookup_insert_eq, if_neg (Ne.symm same)]

theorem find?_of_mem {entries : List (String × V)} (distinct : (entries.map Prod.fst).Nodup)
    {k : String} {v : V} (member : (k, v) ∈ entries) :
    entries.find? (fun entry => entry.1 = k) = some (k, v) := by
  induction entries with
  | nil => exact absurd member List.not_mem_nil
  | cons entry entries ih =>
    obtain ⟨fresh, distinct⟩ := List.nodup_cons.mp distinct
    rcases List.mem_cons.mp member with rfl | member
    · exact List.find?_cons_of_pos (by simp)
    · have other : entry.1 ≠ k := by
        rintro rfl
        exact fresh (List.mem_map.mpr ⟨_, member, rfl⟩)
      rw [List.find?_cons_of_neg (by simpa using other), ih distinct member]

theorem lookup_mapEntries (f : V → V) (m : HashMap String V) (k : String) :
    (mapEntries f m).lookup k = (m.lookup k).map f := by
  have keys : ((sortedEntries m).map fun entry => (entry.1, f entry.2)).map Prod.fst =
      (sortedEntries m).map Prod.fst := by
    rw [List.map_map]
    rfl
  have distinct := nodup_sortedEntries m
  rw [← keys] at distinct
  rw [mapEntries, lookup_foldl_insert distinct]
  cases found : m.lookup k with
  | some v =>
    have member : (k, f v) ∈ (sortedEntries m).map fun entry => (entry.1, f entry.2) :=
      List.mem_map.mpr ⟨(k, v), mem_sortedEntries.mpr found, rfl⟩
    rw [find?_of_mem distinct member]
    rfl
  | none =>
    have absent : ((sortedEntries m).map fun entry => (entry.1, f entry.2)).find?
        (fun entry => entry.1 = k) = none := by
      rw [List.find?_eq_none]
      rintro ⟨name, w⟩ member here
      obtain ⟨⟨name', v⟩, held, same⟩ := List.mem_map.mp member
      cases same
      cases of_decide_eq_true here
      rw [mem_sortedEntries, found] at held
      cases held
    rw [absent, Finmap.lookup_empty]
    rfl

end Entries

section RoundTrip

theorem all_isDigit_toDigits (n : Nat) : (Nat.toDigits 10 n).all Char.isDigit = true := by
  rw [List.all_eq_true]
  exact fun c member => Nat.isDigit_of_mem_toDigits (by decide) (by decide) member

theorem readNat_ofNat {bound n : Nat} (small : n < bound) : readNat bound (ofNat n) = some n := by
  have value : decimal (Nat.toDigits 10 n) = n := Nat.ofDigitChars_toDigits (by decide) (by decide)
  have digits : Json.isDigits (Nat.toDigits 10 n) = true := by
    simpa [Json.isDigits] using all_isDigit_toDigits n
  rw [ofNat, readNat]
  simp only [digits, value, small, and_self, if_true]

theorem readAddr_ofAddr (addr : SocketAddr) : readAddr (ofAddr addr) = some addr.shown :=
  SocketAddr.parse_display addr

theorem readName_name {α : Type} {all : List α} {name : α → String}
    (distinct : Function.Injective name) {a : α} (member : a ∈ all) :
    readName all name (.string (name a)) = some a := by
  rw [readName]
  cases found : all.find? fun b => name b = name a with
  | none => exact absurd (List.find?_eq_none.mp found a member) (by simp)
  | some b => rw [distinct (by simpa using List.find?_some found : name b = name a)]

section Fields

variable {α : Type} {fields : List (String × Value)} {name : String} {v : Value}
  {read : Value → Option α}

theorem required_of_field (here : field fields name = some (some v)) :
    required fields name read = read v := by
  rw [required, here]

theorem optional_of_field {β : Type} {f : β → Value} {g : β → α} {o : Option β}
    (here : field fields name = some (some (ofOption f o))) (some_ : ∀ b, f b ≠ .null)
    (back : ∀ b ∈ o, read (f b) = some (g b)) :
    optional fields name read = some (o.map g) := by
  rw [optional, here]
  cases o with
  | none => rfl
  | some b =>
    have value := back b rfl
    have other := some_ b
    revert value other
    rw [ofOption]
    cases f b with
    | null => exact fun _ other => absurd rfl other
    | _ => intro value _; simp only [value, Option.map_some]

theorem optional_same {f : α → Value} {o : Option α}
    (here : field fields name = some (some (ofOption f o))) (some_ : ∀ a, f a ≠ .null)
    (back : ∀ a ∈ o, read (f a) = some a) : optional fields name read = some o := by
  rw [optional_of_field here some_ back, Option.map_id']

end Fields

theorem ofNat_ne_null (n : Nat) : ofNat n ≠ .null := by
  rintro ⟨⟩

theorem ofAddr_ne_null (addr : SocketAddr) : ofAddr addr ≠ .null := by
  rintro ⟨⟩

theorem RuntimeEvent.value_ne_null (event : RuntimeEvent) : event.value ≠ .null := by
  rintro ⟨⟩

theorem RuntimeEvent.read_value {event : RuntimeEvent} (inRange : event.InRange) :
    RuntimeEvent.read event.value = some event := by
  rw [RuntimeEvent.value, RuntimeEvent.read, required_of_field rfl, readNat_ofNat inRange.clock,
    required_of_field rfl]
  rfl

theorem ServerListenerSnapshot.read_value {listener : ServerListenerSnapshot}
    (inRange : ∀ event ∈ listener.lastError, event.InRange) :
    ServerListenerSnapshot.read listener.value = some listener := by
  have member : listener.state ∈ [ServerListenerState.pending, .listening, .error, .stopped] := by
    cases listener.state <;> decide
  have state := readName_name ServerListenerState.name_injective member
  rw [ServerListenerSnapshot.value, ServerListenerSnapshot.read, required_of_field rfl, state,
    optional_same rfl RuntimeEvent.value_ne_null fun event here =>
      RuntimeEvent.read_value (inRange event here)]
  rfl

theorem readKind {fields : List (String × Value)} (role : RuntimeRole)
    (here : field fields "kind" = some (some (.string role.name))) :
    required fields "kind" (readName [.client, .server] RuntimeRole.name) = some role := by
  rw [required_of_field here]
  exact readName_name RuntimeRole.name_injective (by cases role <;> decide)

theorem ClientSnapshot.read_value {entry : ClientSnapshot}
    (inRange : (RuntimeServiceSnapshot.client entry).InRange) :
    RuntimeServiceSnapshot.read (RuntimeServiceSnapshot.client entry).value =
      some (RuntimeServiceSnapshot.client entry).shown := by
  obtain ⟨times, events⟩ := inRange
  have member : entry.state ∈ [ClientControlState.connecting, .connected, .retrying, .stopped] := by
    cases entry.state <;> decide
  have state := readName_name ClientControlState.name_injective member
  rw [RuntimeServiceSnapshot.value, RuntimeServiceSnapshot.read, readKind .client rfl]
  show (ClientSnapshot.read _).map _ = _
  rw [ClientSnapshot.read, required_of_field rfl, state, required_of_field rfl,
    optional_of_field rfl ofAddr_ne_null fun addr _ => readAddr_ofAddr addr,
    optional_same rfl ofNat_ne_null fun at_ here => readNat_ofNat (times at_ here),
    optional_same rfl RuntimeEvent.value_ne_null fun event here =>
      RuntimeEvent.read_value (events event here)]
  rfl

theorem ServerSnapshot.read_value {entry : ServerSnapshot}
    (inRange : (RuntimeServiceSnapshot.server entry).InRange) :
    RuntimeServiceSnapshot.read (RuntimeServiceSnapshot.server entry).value =
      some (RuntimeServiceSnapshot.server entry).shown := by
  obtain ⟨times, events⟩ := inRange
  have member : entry.state ∈ [ServerControlState.waiting, .connected, .stopped] := by
    cases entry.state <;> decide
  have state := readName_name ServerControlState.name_injective member
  rw [RuntimeServiceSnapshot.value, RuntimeServiceSnapshot.read, readKind .server rfl]
  show (ServerSnapshot.read _).map _ = _
  rw [ServerSnapshot.read, required_of_field rfl, state,
    optional_of_field rfl ofAddr_ne_null fun addr _ => readAddr_ofAddr addr,
    optional_same rfl ofNat_ne_null fun at_ here => readNat_ofNat (times at_ here),
    optional_same rfl RuntimeEvent.value_ne_null fun event here =>
      RuntimeEvent.read_value (events event here)]
  rfl

theorem RuntimeServiceSnapshot.read_value {entry : RuntimeServiceSnapshot}
    (inRange : entry.InRange) : RuntimeServiceSnapshot.read entry.value = some entry.shown := by
  cases entry with
  | client entry => exact ClientSnapshot.read_value inRange
  | server entry => exact ServerSnapshot.read_value inRange

theorem readServices_value {services : HashMap String RuntimeServiceSnapshot}
    (inRange : ∀ name entry, services.lookup name = some entry → entry.InRange) :
    readServices (.object ((sortedEntries services).map fun entry => (entry.1, entry.2.value))) =
      some (mapEntries RuntimeServiceSnapshot.shown services) := by
  have each : ∀ entries : List (String × RuntimeServiceSnapshot),
      (∀ entry ∈ entries, entry.2.InRange) →
      (entries.map fun entry => (entry.1, entry.2.value)).mapM
        (fun entry => (RuntimeServiceSnapshot.read entry.2).map (entry.1, ·)) =
      some (entries.map fun entry => (entry.1, entry.2.shown)) := by
    intro entries held
    induction entries with
    | nil => rfl
    | cons entry entries ih =>
      have first := RuntimeServiceSnapshot.read_value (held entry List.mem_cons_self)
      have rest := ih fun other member => held other (List.mem_cons_of_mem entry member)
      rw [List.map_cons, List.mapM_cons, first, Option.map_some, rest]
      rfl
  rw [readServices, each _ fun entry member =>
    inRange entry.1 entry.2 (mem_sortedEntries.mp member)]
  rfl

/-- A snapshot is read from its value. -/
theorem RuntimeSnapshot.read_value {r : RuntimeSnapshot} (inRange : r.InRange) :
    RuntimeSnapshot.read r.value = some r.shown := by
  have role := readName_name RuntimeRole.name_injective
    (show r.role ∈ [RuntimeRole.client, .server] by cases r.role <;> decide)
  have some_ : ∀ listener : ServerListenerSnapshot, listener.value ≠ .null := by
    rintro listener ⟨⟩
  rw [RuntimeSnapshot.value, RuntimeSnapshot.read, required_of_field rfl,
    readNat_ofNat inRange.schemaVersion, required_of_field rfl, role, required_of_field rfl,
    readNat_ofNat inRange.processId, required_of_field rfl,
    readNat_ofNat inRange.capturedAtUnixMs,
    optional_same rfl some_ fun listener here =>
      ServerListenerSnapshot.read_value (inRange.listener listener here),
    required_of_field rfl, readServices_value inRange.services]
  rfl

end RoundTrip

section Text

open Json (Fits)

variable {depth : Nat}

theorem isNumber_toDigits (n : Nat) : Json.isNumber (Nat.toDigits 10 n) = true := by
  have digits := all_isDigit_toDigits n
  have all := List.all_eq_true.mp digits
  have noMinus : (Nat.toDigits 10 n).head? ≠ some '-' := by
    intro first
    exact absurd (all '-' (List.mem_of_mem_head? first)) (by decide)
  have taken : (Nat.toDigits 10 n).takeWhile Char.isDigit = Nat.toDigits 10 n := by
    rw [← List.append_nil (Nat.toDigits 10 n), List.takeWhile_append_of_pos all]
    rfl
  have left : (Nat.toDigits 10 n).dropWhile Char.isDigit = [] := by
    rw [← List.append_nil (Nat.toDigits 10 n), List.dropWhile_append_of_pos all]
    rfl
  have zero : (Nat.toDigits 10 n).head? = some '0' → (Nat.toDigits 10 n).length = 1 :=
    SocketAddr.length_of_zero_head (by decide)
  have fraction : Json.isFraction [] = true := by decide
  rw [Json.isNumber, if_neg noMinus]
  simp only [taken, left, fraction, Json.isDigits, digits, and_true, Bool.decide_and,
    Bool.and_eq_true, decide_eq_true_eq, ne_eq]
  exact ⟨Nat.toDigits_ne_nil, zero⟩

theorem fits_ofNat (n : Nat) : Fits depth (ofNat n) := .number depth _ (isNumber_toDigits n)

theorem fits_ofOption {α : Type} {f : α → Value} (fits : ∀ a, Fits depth (f a)) (o : Option α) :
    Fits depth (ofOption f o) := by
  cases o with
  | none => exact .null depth
  | some a => exact fits a

theorem RuntimeEvent.fits (event : RuntimeEvent) : Fits (depth + 1) event.value := by
  refine .object depth _ fun entry member => ?_
  simp only [List.mem_cons, List.not_mem_nil, or_false] at member
  rcases member with rfl | rfl
  · exact fits_ofNat _
  · exact .string depth _

theorem ServerListenerSnapshot.fits (listener : ServerListenerSnapshot) :
    Fits (depth + 2) listener.value := by
  refine .object (depth + 1) _ fun entry member => ?_
  simp only [List.mem_cons, List.not_mem_nil, or_false] at member
  rcases member with rfl | rfl
  · exact .string _ _
  · exact fits_ofOption RuntimeEvent.fits _

theorem RuntimeServiceSnapshot.fits (entry : RuntimeServiceSnapshot) :
    Fits (depth + 2) entry.value := by
  cases entry with
  | client entry =>
    refine .object (depth + 1) _ fun field member => ?_
    simp only [List.mem_cons, List.not_mem_nil, or_false] at member
    rcases member with rfl | rfl | rfl | rfl | rfl | rfl
    · exact .string _ _
    · exact .string _ _
    · exact .string _ _
    · exact fits_ofOption (fun addr => .string _ _) _
    · exact fits_ofOption fits_ofNat _
    · exact fits_ofOption RuntimeEvent.fits _
  | server entry =>
    refine .object (depth + 1) _ fun field member => ?_
    simp only [List.mem_cons, List.not_mem_nil, or_false] at member
    rcases member with rfl | rfl | rfl | rfl | rfl
    · exact .string _ _
    · exact .string _ _
    · exact fits_ofOption (fun addr => .string _ _) _
    · exact fits_ofOption fits_ofNat _
    · exact fits_ofOption RuntimeEvent.fits _

/-- A snapshot is nested four deep. -/
theorem RuntimeSnapshot.fits (r : RuntimeSnapshot) : Fits (depth + 4) r.value := by
  refine .object (depth + 3) _ fun entry member => ?_
  simp only [List.mem_cons, List.not_mem_nil, or_false] at member
  rcases member with rfl | rfl | rfl | rfl | rfl | rfl
  · exact fits_ofNat _
  · exact .string _ _
  · exact fits_ofNat _
  · exact fits_ofNat _
  · exact fits_ofOption ServerListenerSnapshot.fits _
  · refine .object (depth + 2) _ fun field member => ?_
    obtain ⟨service, -, rfl⟩ := List.mem_map.mp member
    exact RuntimeServiceSnapshot.fits service.2

end Text

end Rathole.RuntimeStatus
