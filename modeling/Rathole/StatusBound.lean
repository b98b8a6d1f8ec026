import Mathlib.Algebra.Order.BigOperators.Group.Finset
import Rathole.StatusQuery

set_option autoImplicit false

/- How long the text of a JSON value can be, and that no run makes the response to a status query
longer than what the configuration asks for. -/
namespace Json

open String (utf8Len)

/-- The length of the text in bytes. -/
def Value.size (v : Value) : Nat := utf8Len v.render

theorem utf8Len_le_of_length {cs : List Char} (ascii : ∀ c ∈ cs, c.utf8Size = 1) :
    utf8Len cs = cs.length := by
  induction cs with
  | nil => rfl
  | cons c cs ih =>
    rw [String.utf8Len_cons, ih fun d member => ascii d (List.mem_cons_of_mem c member),
      ascii c List.mem_cons_self, List.length_cons]

theorem utf8Size_hex (n : Nat) : (hex n).utf8Size = 1 := by
  have all : "0123456789abcdef".toList.all (fun c => c.utf8Size == 1) = true := rfl
  unfold hex
  rw [List.getD_eq_getElem?_getD]
  cases found : "0123456789abcdef".toList[n]? with
  | none => rfl
  | some c => exact of_decide_eq_true (List.all_eq_true.mp all c (List.mem_of_getElem? found))

/-- An escape is at most six times as long. -/
theorem utf8Len_escape (c : Char) : utf8Len (escape c) ≤ 6 * c.utf8Size := by
  have positive := c.utf8Size_pos
  unfold escape
  split_ifs
  · exact Nat.le_trans (by decide : utf8Len ['\\', '"'] ≤ 2) (by omega)
  · exact Nat.le_trans (by decide : utf8Len ['\\', '\\'] ≤ 2) (by omega)
  · exact Nat.le_trans (by decide : utf8Len ['\\', 'n'] ≤ 2) (by omega)
  · exact Nat.le_trans (by decide : utf8Len ['\\', 'r'] ≤ 2) (by omega)
  · exact Nat.le_trans (by decide : utf8Len ['\\', 't'] ≤ 2) (by omega)
  · exact Nat.le_trans (by decide : utf8Len ['\\', 'b'] ≤ 2) (by omega)
  · exact Nat.le_trans (by decide : utf8Len ['\\', 'f'] ≤ 2) (by omega)
  · have front : utf8Len ['\\', 'u', '0', '0'] = 4 := by decide
    have high := utf8Size_hex (c.toNat / 16)
    have low := utf8Size_hex (c.toNat % 16)
    have whole : utf8Len ['\\', 'u', '0', '0', hex (c.toNat / 16), hex (c.toNat % 16)] = 6 := by
      rw [show ['\\', 'u', '0', '0', hex (c.toNat / 16), hex (c.toNat % 16)] =
        ['\\', 'u', '0', '0'] ++ [hex (c.toNat / 16), hex (c.toNat % 16)] from rfl,
        String.utf8Len_append, front]
      simp [high, low]
    omega
  · simp only [String.utf8Len_cons, String.utf8Len_nil]
    omega

theorem utf8Len_quote (s : String) : utf8Len (quote s) ≤ 6 * s.utf8ByteSize + 2 := by
  have inside : ∀ cs : List Char, utf8Len (cs.flatMap escape) ≤ 6 * utf8Len cs := by
    intro cs
    induction cs with
    | nil => exact Nat.le_refl 0
    | cons c cs ih =>
      have first := utf8Len_escape c
      rw [List.flatMap_cons, String.utf8Len_append, String.utf8Len_cons]
      omega
  have all := inside s.toList
  have mark : '"'.utf8Size = 1 := rfl
  rw [String.utf8Len_toList] at all
  simp only [quote, String.utf8Len_cons, String.utf8Len_append, String.utf8Len_nil, mark]
  omega

/-- The fields of an object, each with its key, a colon and a comma. -/
def fieldsSize (fields : List (String × Value)) : Nat :=
  (fields.map fun entry => utf8Len (quote entry.1) + entry.2.size + 2).sum

theorem size_object (fields : List (String × Value)) :
    (Value.object fields).size ≤ fieldsSize fields + 2 := by
  have colon : ':'.utf8Size = 1 := rfl
  have comma : ','.utf8Size = 1 := rfl
  have inside : utf8Len (renderFields fields) ≤ fieldsSize fields := by
    induction fields with
    | nil => exact Nat.le_refl 0
    | cons entry rest ih =>
      obtain ⟨key, v⟩ := entry
      rw [fieldsSize, List.map_cons, List.sum_cons]
      cases rest with
      | nil =>
        simp only [renderFields, String.utf8Len_append, String.utf8Len_cons, Value.size, colon]
        omega
      | cons next others =>
        rw [fieldsSize] at ih
        simp only [renderFields, String.utf8Len_append, String.utf8Len_cons, Value.size, colon,
          comma] at ih ⊢
        omega
  have opens : '{'.utf8Size = 1 := rfl
  have closes : '}'.utf8Size = 1 := rfl
  simp only [Value.size, Value.render, String.utf8Len_append, String.utf8Len_cons,
    String.utf8Len_nil, opens, closes]
  omega

end Json

namespace Rathole.RuntimeStatus

open Json (Value fieldsSize size_object)
open String (utf8Len)

section Sizes

theorem length_text (v : Value) : (asBytes v.text).length = v.size := by
  rw [asBytes, Array.length_toList, ByteArray.size_data]
  change v.text.utf8ByteSize = v.size
  rw [← String.utf8Len_toList, Value.text, String.toList_ofList, Value.size]

theorem size_null : Value.null.size = 4 := by decide

theorem size_string (s : String) : (Value.string s).size ≤ 6 * s.utf8ByteSize + 2 :=
  Json.utf8Len_quote s

theorem utf8Size_toDigits {base : Nat} (two : 1 < base) (hexadecimal : base ≤ 16) (n : Nat) :
    ∀ c ∈ Nat.toDigits base n, c.utf8Size = 1 := by
  have all : ∀ d < 16, d.digitChar.utf8Size = 1 := by decide
  induction n using Nat.strongRecOn with
  | _ n ih =>
    intro c member
    rw [Nat.toDigits_eq_if two] at member
    split at member
    · next small =>
      rw [List.mem_singleton.mp member]
      exact all n (by omega)
    · next large =>
      rcases List.mem_append.mp member with front | last
      · exact ih (n / base) (Nat.div_lt_self (by omega) two) c front
      · rw [List.mem_singleton.mp last]
        exact all _ (Nat.lt_of_lt_of_le (Nat.mod_lt n (by omega)) hexadecimal)

/-- A number takes at most the digits of the bound in front of it. -/
theorem utf8Len_toDigits {base n : Nat} (two : 1 < base) (hexadecimal : base ≤ 16) {count : Nat}
    (some_ : 0 < count) (small : n < base ^ count) :
    utf8Len (Nat.toDigits base n) ≤ count := by
  rw [Json.utf8Len_le_of_length (utf8Size_toDigits two hexadecimal n)]
  exact (Nat.length_toDigits_le_iff two some_).mpr small

theorem size_ofNat {n : Nat} (clock : n < 2 ^ 64) : (ofNat n).size ≤ 20 :=
  utf8Len_toDigits (by decide) (by decide) (by decide) (by omega)

theorem utf8Len_joinWith {sep : Char} (one : sep.utf8Size = 1) {k : Nat}
    {parts : List (List Char)} (each : ∀ part ∈ parts, utf8Len part ≤ k) :
    utf8Len (SocketAddr.joinWith sep parts) ≤ (k + 1) * parts.length := by
  induction parts with
  | nil => exact Nat.le_refl 0
  | cons part parts ih =>
    have first := each part List.mem_cons_self
    have others := ih fun other member => each other (List.mem_cons_of_mem part member)
    rw [List.length_cons, Nat.mul_succ]
    cases parts with
    | nil =>
      rw [SocketAddr.joinWith]
      omega
    | cons next rest =>
      rw [SocketAddr.joinWith, String.utf8Len_append, String.utf8Len_cons, one]
      omega

theorem utf8Len_displayIpv4 (ip : Nat) : utf8Len (SocketAddr.displayIpv4 ip) ≤ 16 := by
  have each : ∀ part ∈ (SocketAddr.split 256 4 ip).map (Nat.toDigits 10), utf8Len part ≤ 3 := by
    intro part member
    obtain ⟨d, digit, rfl⟩ := List.mem_map.mp member
    have small := SocketAddr.lt_of_mem_split (by decide) digit
    exact utf8Len_toDigits (by decide) (by decide) (by decide) (by omega)
  have bound := utf8Len_joinWith (show '.'.utf8Size = 1 from rfl) each
  rw [List.length_map, SocketAddr.length_split] at bound
  exact bound

theorem utf8Len_displaySegments {segments : List Nat} (small : ∀ d ∈ segments, d < 65536) :
    utf8Len (SocketAddr.displaySegments segments) ≤ 5 * segments.length := by
  have each : ∀ part ∈ segments.map (Nat.toDigits 16), utf8Len part ≤ 4 := by
    intro part member
    obtain ⟨d, digit, rfl⟩ := List.mem_map.mp member
    have bound := small d digit
    exact utf8Len_toDigits (by decide) (by decide) (by decide) (by omega)
  have bound := utf8Len_joinWith (show ':'.utf8Size = 1 from rfl) each
  rwa [List.length_map] at bound

theorem utf8Len_displayIpv6 (ip : Nat) : utf8Len (SocketAddr.displayIpv6 ip) ≤ 82 := by
  rw [SocketAddr.displayIpv6]
  split
  · have front : utf8Len "::ffff:".toList = 7 := by decide
    have tail := utf8Len_displayIpv4 (ip % 2 ^ 32)
    rw [String.utf8Len_append, front]
    omega
  · have small : ∀ d ∈ SocketAddr.split 65536 8 ip, d < 65536 := fun d member =>
      SocketAddr.lt_of_mem_split (by decide) member
    have eight := SocketAddr.length_split 65536 8 ip
    dsimp only
    split
    · have middle : utf8Len "::".toList = 2 := by decide
      have part : ∀ segments : List Nat, segments.Sublist (SocketAddr.split 65536 8 ip) →
          utf8Len (SocketAddr.displaySegments segments) ≤ 40 := by
        intro segments sub
        have bound := utf8Len_displaySegments fun d member => small d (sub.subset member)
        have length := sub.length_le
        omega
      rw [String.utf8Len_append, String.utf8Len_append, middle]
      exact Nat.add_le_add (Nat.add_le_add_right (part _ (List.take_sublist _ _)) 2)
        (part _ (List.drop_sublist _ _))
    · have whole := utf8Len_displaySegments small
      omega

theorem size_ofAddr (addr : SocketAddr) : (ofAddr addr).size ≤ 700 := by
  have port : ∀ port : BitVec 16, utf8Len (Nat.toDigits 10 port.toNat) ≤ 5 := fun port =>
    utf8Len_toDigits (by decide) (by decide) (by decide) (by have := port.isLt; omega)
  have scope : ∀ scope : BitVec 32, utf8Len (Nat.toDigits 10 scope.toNat) ≤ 10 := fun scope =>
    utf8Len_toDigits (by decide) (by decide) (by decide) (by have := scope.isLt; omega)
  have colon : ':'.utf8Size = 1 := rfl
  have percent : '%'.utf8Size = 1 := rfl
  have opens : '['.utf8Size = 1 := rfl
  have closes : ']'.utf8Size = 1 := rfl
  have display : utf8Len addr.display ≤ 115 := by
    cases addr with
    | v4 ip at_ =>
      have ipSize := utf8Len_displayIpv4 ip.toNat
      have portSize := port at_
      rw [SocketAddr.display, String.utf8Len_append, String.utf8Len_cons, colon]
      omega
    | v6 ip at_ flowinfo zone =>
      have ipSize := utf8Len_displayIpv6 ip.toNat
      have portSize := port at_
      have scopeSize := scope zone
      have zoneSize :
          utf8Len (if zone = 0 then [] else '%' :: Nat.toDigits 10 zone.toNat) ≤ 11 := by
        split
        · exact Nat.zero_le 11
        · rw [String.utf8Len_cons, percent]
          omega
      simp only [SocketAddr.display, String.utf8Len_append, String.utf8Len_cons, colon, opens,
        closes] at zoneSize ⊢
      omega
  have whole := size_string (String.ofList addr.display)
  rw [← String.utf8Len_toList, String.toList_ofList] at whole
  rw [ofAddr]
  omega

theorem size_ofOption {α : Type} {f : α → Value} {o : Option α} {k : Nat} (four : 4 ≤ k)
    (each : ∀ a ∈ o, (f a).size ≤ k) : (ofOption f o).size ≤ k := by
  cases o with
  | none =>
    rw [ofOption, size_null]
    exact four
  | some a => exact each a rfl

end Sizes

/-- The text that an entry shows from the configuration. -/
def RuntimeServiceSnapshot.target : RuntimeServiceSnapshot → String
  | .client entry => entry.configuredControlTarget
  | .server _ => ""

def RuntimeSnapshot.targetOf (r : RuntimeSnapshot) (name : String) : Option String :=
  (r.services.lookup name).map RuntimeServiceSnapshot.target

/-- The room for a service of this name and target. -/
def serviceRoom (name target : String) : Nat :=
  5120 + 6 * (name.utf8ByteSize + target.utf8ByteSize)

/-- The room that the names and the targets of the services ask for in a response. -/
def RuntimeSnapshot.room (r : RuntimeSnapshot) : Nat :=
  4096 + r.services.keys.sum fun name => serviceRoom name ((r.targetOf name).getD "")

/-- The room that an update asks for. -/
def Update.room : Update → Nat
  | .clientAdd name remoteAddr => serviceRoom name remoteAddr
  | .serverAdd name => serviceRoom name ""
  | _ => 0

section Bound

variable {r : RuntimeSnapshot}

theorem RuntimeEvent.size_value {event : RuntimeEvent} (inRange : event.InRange) :
    event.value.size ≤ 3200 := by
  have clock := size_ofNat inRange.clock
  have message := size_string event.message
  have short := inRange.message
  have first : utf8Len (Json.quote "at_unix_ms") = 12 := by decide
  have second : utf8Len (Json.quote "message") = 9 := by decide
  refine Nat.le_trans (size_object _) ?_
  simp only [fieldsSize, List.map_cons, List.map_nil, List.sum_cons, List.sum_nil, first, second]
  omega

theorem ServerListenerSnapshot.size_value {listener : ServerListenerSnapshot}
    (inRange : ∀ event ∈ listener.lastError, event.InRange) : listener.value.size ≤ 3300 := by
  have state := size_string listener.state.name
  have name : listener.state.name.utf8ByteSize ≤ 9 := by cases listener.state <;> decide
  have error : (ofOption RuntimeEvent.value listener.lastError).size ≤ 3200 :=
    size_ofOption (by decide) fun event here => RuntimeEvent.size_value (inRange event here)
  have first : utf8Len (Json.quote "state") = 7 := by decide
  have second : utf8Len (Json.quote "last_error") = 12 := by decide
  refine Nat.le_trans (size_object _) ?_
  simp only [fieldsSize, List.map_cons, List.map_nil, List.sum_cons, List.sum_nil, first, second]
  omega

theorem RuntimeServiceSnapshot.size_value {entry : RuntimeServiceSnapshot}
    (inRange : entry.InRange) : entry.value.size ≤ 5000 + 6 * entry.target.utf8ByteSize := by
  have kind : utf8Len (Json.quote "kind") = 6 := by decide
  have state : utf8Len (Json.quote "state") = 7 := by decide
  cases entry with
  | client entry =>
    obtain ⟨times, events⟩ := inRange
    have role : (Value.string "client").size = 8 := by decide
    have stateSize := size_string entry.state.name
    have name : entry.state.name.utf8ByteSize ≤ 10 := by cases entry.state <;> decide
    have target := size_string entry.configuredControlTarget
    have resolved : (ofOption ofAddr entry.resolvedControlTarget).size ≤ 700 :=
      size_ofOption (by decide) fun addr _ => size_ofAddr addr
    have connected : (ofOption ofNat entry.lastConnectedAtUnixMs).size ≤ 20 :=
      size_ofOption (by decide) fun at_ here => size_ofNat (times at_ here)
    have error : (ofOption RuntimeEvent.value entry.lastError).size ≤ 3200 :=
      size_ofOption (by decide) fun event here => RuntimeEvent.size_value (events event here)
    have third : utf8Len (Json.quote "configured_control_target") = 27 := by decide
    have fourth : utf8Len (Json.quote "resolved_control_target") = 25 := by decide
    have fifth : utf8Len (Json.quote "last_connected_at_unix_ms") = 27 := by decide
    have sixth : utf8Len (Json.quote "last_error") = 12 := by decide
    refine Nat.le_trans (size_object _) ?_
    simp only [fieldsSize, List.map_cons, List.map_nil, List.sum_cons, List.sum_nil, kind, state,
      role, third, fourth, fifth, sixth, RuntimeServiceSnapshot.target]
    omega
  | server entry =>
    obtain ⟨times, events⟩ := inRange
    have role : (Value.string "server").size = 8 := by decide
    have stateSize := size_string entry.state.name
    have name : entry.state.name.utf8ByteSize ≤ 9 := by cases entry.state <;> decide
    have source : (ofOption ofAddr entry.controlChannelSource).size ≤ 700 :=
      size_ofOption (by decide) fun addr _ => size_ofAddr addr
    have since : (ofOption ofNat entry.connectedSinceUnixMs).size ≤ 20 :=
      size_ofOption (by decide) fun at_ here => size_ofNat (times at_ here)
    have error : (ofOption RuntimeEvent.value entry.lastDisconnectedOrError).size ≤ 3200 :=
      size_ofOption (by decide) fun event here => RuntimeEvent.size_value (events event here)
    have third : utf8Len (Json.quote "control_channel_source") = 24 := by decide
    have fourth : utf8Len (Json.quote "connected_since_unix_ms") = 25 := by decide
    have fifth : utf8Len (Json.quote "last_disconnected_or_error") = 28 := by decide
    refine Nat.le_trans (size_object _) ?_
    simp only [fieldsSize, List.map_cons, List.map_nil, List.sum_cons, List.sum_nil, kind, state,
      role, third, fourth, fifth]
    omega

/-- The room of the services, one after the other. -/
theorem room_eq (r : RuntimeSnapshot) :
    r.room = 4096 +
      ((sortedEntries r.services).map fun entry => serviceRoom entry.1 entry.2.target).sum := by
  have nodup := nodup_sortedEntries r.services
  have keys : ((sortedEntries r.services).map Prod.fst).toFinset = r.services.keys := by
    ext k
    rw [List.mem_toFinset, List.mem_map, Finmap.mem_keys, Finmap.mem_iff]
    constructor
    · rintro ⟨⟨k', v⟩, member, rfl⟩
      exact ⟨v, mem_sortedEntries.mp member⟩
    · rintro ⟨v, found⟩
      exact ⟨(k, v), mem_sortedEntries.mpr found, rfl⟩
  rw [RuntimeSnapshot.room, ← keys, List.sum_toFinset _ nodup, List.map_map]
  congr 2
  refine List.map_congr_left fun entry member => ?_
  rw [Function.comp_apply, RuntimeSnapshot.targetOf, mem_sortedEntries.mp member]
  rfl

theorem RuntimeSnapshot.size_value (inRange : r.InRange) : r.value.size ≤ r.room := by
  have each : ∀ entries : List (String × RuntimeServiceSnapshot),
      (∀ entry ∈ entries, entry.2.InRange) →
      fieldsSize (entries.map fun entry => (entry.1, entry.2.value)) ≤
        (entries.map fun entry => serviceRoom entry.1 entry.2.target).sum := by
    intro entries sound
    induction entries with
    | nil => exact Nat.le_refl 0
    | cons entry entries ih =>
      have key := Json.utf8Len_quote entry.1
      have size := RuntimeServiceSnapshot.size_value (sound entry List.mem_cons_self)
      have others := ih fun other member => sound other (List.mem_cons_of_mem entry member)
      rw [fieldsSize] at others ⊢
      rw [List.map_cons, List.map_cons, List.map_cons, List.sum_cons, List.sum_cons, serviceRoom]
      dsimp only at others ⊢
      omega
  have services := Nat.le_trans (size_object _) (Nat.add_le_add_right
    (each (sortedEntries r.services) fun entry member =>
      inRange.services entry.1 entry.2 (mem_sortedEntries.mp member)) 2)
  have version := size_ofNat (Nat.lt_trans inRange.schemaVersion (by decide : 2 ^ 32 < 2 ^ 64))
  have pid := size_ofNat (Nat.lt_trans inRange.processId (by decide : 2 ^ 32 < 2 ^ 64))
  have clock := size_ofNat inRange.capturedAtUnixMs
  have roleSize := size_string r.role.name
  have role : r.role.name.utf8ByteSize ≤ 6 := by cases r.role <;> decide
  have listener : (ofOption ServerListenerSnapshot.value r.serverListener).size ≤ 3300 :=
    size_ofOption (by decide) fun listener here =>
      ServerListenerSnapshot.size_value (inRange.listener listener here)
  have first : utf8Len (Json.quote "schema_version") = 16 := by decide
  have second : utf8Len (Json.quote "role") = 6 := by decide
  have third : utf8Len (Json.quote "process_id") = 12 := by decide
  have fourth : utf8Len (Json.quote "captured_at_unix_ms") = 21 := by decide
  have fifth : utf8Len (Json.quote "server_listener") = 17 := by decide
  have sixth : utf8Len (Json.quote "services") = 10 := by decide
  rw [room_eq]
  refine Nat.le_trans (size_object _) ?_
  simp only [fieldsSize, List.map_cons, List.map_nil, List.sum_cons,
    List.sum_nil, first, second, third, fourth, fifth, sixth]
  omega

end Bound

section Room

variable {r r' : RuntimeSnapshot}

/-- Entries that show the same, some of them perhaps gone, ask for no more room. -/
theorem room_le_of_targets
    (kept : ∀ name target, r'.targetOf name = some target → r.targetOf name = some target) :
    r'.room ≤ r.room := by
  have held : ∀ (s : RuntimeSnapshot) name, name ∈ s.services.keys ↔
      ∃ target, s.targetOf name = some target := by
    intro s name
    rw [Finmap.mem_keys, Finmap.mem_iff]
    simp [RuntimeSnapshot.targetOf]
  refine Nat.add_le_add_left ?_ 4096
  have same : ∀ name ∈ r'.services.keys, serviceRoom name ((r'.targetOf name).getD "") =
      serviceRoom name ((r.targetOf name).getD "") := by
    intro name member
    obtain ⟨target, here⟩ := (held r' name).mp member
    rw [here, kept name target here]
  rw [Finset.sum_congr rfl same]
  refine Finset.sum_le_sum_of_subset fun name member => ?_
  obtain ⟨target, here⟩ := (held r' name).mp member
  exact (held r name).mpr ⟨target, kept name target here⟩

theorem room_insert_le (r : RuntimeSnapshot) (name : String) (entry : RuntimeServiceSnapshot) :
    RuntimeSnapshot.room { r with services := r.services.insert name entry } ≤
      r.room + serviceRoom name entry.target := by
  let after : RuntimeSnapshot := { r with services := r.services.insert name entry }
  have targets : ∀ k, after.targetOf k = if k = name then some entry.target else r.targetOf k := by
    intro k
    simp only [after, RuntimeSnapshot.targetOf, lookup_insert_eq]
    split <;> rfl
  have keys : after.services.keys ⊆ insert name (r.services.keys.erase name) := by
    intro k member
    rw [Finmap.mem_keys, Finmap.mem_insert] at member
    rw [Finset.mem_insert, Finset.mem_erase, Finmap.mem_keys]
    by_cases same : k = name
    · exact Or.inl same
    · exact Or.inr ⟨same, member.resolve_left same⟩
  have added : after.services.keys.sum (fun k => serviceRoom k ((after.targetOf k).getD "")) ≤
      serviceRoom name entry.target +
        (r.services.keys.erase name).sum fun k => serviceRoom k ((r.targetOf k).getD "") := by
    refine Nat.le_trans (Finset.sum_le_sum_of_subset keys) ?_
    rw [Finset.sum_insert (Finset.notMem_erase name _), targets name, if_pos rfl]
    refine Nat.add_le_add_left (Nat.le_of_eq (Finset.sum_congr rfl fun k member => ?_)) _
    rw [targets k, if_neg (Finset.ne_of_mem_erase member)]
  have fewer : ((r.services.keys.erase name).sum fun k => serviceRoom k ((r.targetOf k).getD "")) ≤
      r.services.keys.sum fun k => serviceRoom k ((r.targetOf k).getD "") :=
    Finset.sum_le_sum_of_subset (Finset.erase_subset name r.services.keys)
  simp only [RuntimeSnapshot.room, after] at added fewer ⊢
  omega

theorem room_insert_of_target {name : String} {entry found : RuntimeServiceSnapshot}
    (here : r.services.lookup name = some found) (same : entry.target = found.target) :
    RuntimeSnapshot.room { r with services := r.services.insert name entry } ≤ r.room := by
  refine room_le_of_targets fun k target shown => ?_
  simp only [RuntimeSnapshot.targetOf, lookup_insert_eq] at shown ⊢
  split at shown
  · next equal =>
    rw [equal, here, ← shown, Option.map_some, Option.map_some, same]
  · exact shown

theorem room_modifyClient (r : RuntimeSnapshot) (name : String)
    {f : ClientSnapshot → ClientSnapshot}
    (keeps : ∀ entry, (f entry).configuredControlTarget = entry.configuredControlTarget) :
    (r.modifyClient name f).room ≤ r.room := by
  unfold RuntimeSnapshot.modifyClient
  split
  · next entry found => exact room_insert_of_target found (keeps entry)
  · exact Nat.le_refl _

/-- Only an update that adds a service asks for more room. -/
theorem Update.apply_room {now : Nat} {update : Update} (applied : update.apply now r = some r') :
    r'.room ≤ r.room + update.room := by
  cases update with
  | serverListenerPending | serverListenerListening | serverListenerStopped =>
    cases applied
    exact Nat.le_refl _
  | serverListenerError error =>
    change RuntimeStatus.serverListenerError now r error = some r' at applied
    unfold RuntimeStatus.serverListenerError at applied
    split at applied
    · obtain ⟨event, -, rfl⟩ := Option.map_eq_some_iff.mp applied
      exact Nat.le_refl _
    · cases applied
      exact Nat.le_refl _
  | clientAdd name remoteAddr =>
    cases applied
    exact room_insert_le r name (.client (.stopped remoteAddr))
  | serverAdd name =>
    cases applied
    exact room_insert_le r name (.server .waiting)
  | remove name =>
    cases applied
    refine room_le_of_targets fun k target shown => ?_
    change ((r.services.erase name).lookup k).map _ = _ at shown
    rw [lookup_erase_eq] at shown
    split at shown
    · cases shown
    · exact shown
  | clientConnecting name | clientResolved name addr | clientConnected name | clientStopped name =>
    cases applied
    exact room_modifyClient r name fun _ => rfl
  | clientRetrying name error =>
    change RuntimeStatus.clientRetrying now r name error = some r' at applied
    unfold RuntimeStatus.clientRetrying at applied
    split at applied
    · obtain ⟨event, -, rfl⟩ := Option.map_eq_some_iff.mp applied
      exact room_modifyClient r name fun _ => rfl
    · cases applied
      exact Nat.le_refl _
  | serverConnected name source =>
    cases applied
    unfold RuntimeStatus.serverConnected
    split
    · next entry found => exact room_insert_of_target found rfl
    · exact Nat.le_refl _
  | serverDisconnected name source connectedSince detail =>
    change RuntimeStatus.serverDisconnected now r name source connectedSince detail = some r'
      at applied
    unfold RuntimeStatus.serverDisconnected at applied
    split at applied
    · next entry found =>
      split at applied
      · cases applied
        exact Nat.le_refl _
      · split at applied
        · cases applied
          exact room_insert_of_target found rfl
        · obtain ⟨event, -, rfl⟩ := Option.map_eq_some_iff.mp applied
          exact room_insert_of_target found rfl
    · cases applied
      exact Nat.le_refl _

/-- The room that all updates together ask for. -/
def roomOf (calls : List Call) : Nat := (calls.map fun c => c.update.room).sum

theorem Registry.after_room {calls : List Call}
    (ready : Registry.after (.ready r) calls = .ready r') : r'.room ≤ r.room + roomOf calls := by
  induction calls using List.reverseRecOn generalizing r' with
  | nil =>
    cases ready
    exact Nat.le_refl _
  | append_singleton calls c ih =>
    rw [after_snoc] at ready
    cases before : Registry.after (.ready r) calls with
    | poisoned =>
      rw [before] at ready
      cases ready
    | ready r₁ =>
      have room := ih before
      rw [before, Registry.call] at ready
      cases applied : c.update.apply c.now r₁ with
      | none =>
        rw [applied] at ready
        cases ready
      | some r₂ =>
        rw [applied] at ready
        cases ready
        have step := Update.apply_room applied
        rw [roomOf] at room ⊢
        rw [List.map_append, List.sum_append, List.map_singleton, List.sum_singleton]
        omega

end Room

/-- Whatever connects, disconnects and fails in between, a response stays within the room that the
services of the configuration and the added ones ask for. While that is no more than a response
may have, every query is answered. -/
theorem status_response_le_room {serde : SerdeJson} (reads : serde.Reads) {r r' : RuntimeSnapshot}
    (initial : Initial r) {calls : List Call} (clocks : ∀ c ∈ calls, c.now < 2 ^ 64)
    (ready : Registry.after (.ready r) calls = .ready r') {now : Nat} (clock : now < 2 ^ 64) :
    ({ r' with capturedAtUnixMs := now } : RuntimeSnapshot).text.length ≤ r.room + roomOf calls ∧
      (r.room + roomOf calls ≤ maxStatusResponse →
        queryRuntimeStatus serde (answerStatusRequest (.ready r') now statusRequest) =
          .ok ({ r' with capturedAtUnixMs := now } : RuntimeSnapshot).shown) := by
  have kept : r'.InRange := Registry.after_induction
    (fun c member r₁ r₂ held applied => Update.apply_inRange (clocks c member) held applied)
    initial.inRange ready
  have inRange : RuntimeSnapshot.InRange { r' with capturedAtUnixMs := now } :=
    { kept with capturedAtUnixMs := clock }
  have bound : ({ r' with capturedAtUnixMs := now } : RuntimeSnapshot).text.length ≤
      r.room + roomOf calls := by
    have room : r'.room ≤ r.room + roomOf calls := Registry.after_room ready
    rw [RuntimeSnapshot.text, length_text]
    exact Nat.le_trans (RuntimeSnapshot.size_value inRange) room
  refine ⟨bound, fun small => ?_⟩
  have fits := Nat.le_trans bound small
  have nonempty : framed ({ r' with capturedAtUnixMs := now } : RuntimeSnapshot).text ≠ [] := by
    simp [framed, Bytes.leBytes]
  rw [(answerStatusRequest_eq_some_iff nonempty).mpr
    ⟨List.prefix_refl _, r', rfl, fits, rfl⟩]
  exact queryRuntimeStatus_framed reads inRange fits

/-- Two services, one of them added later, and a client that disconnects for a long reason. -/
theorem web_status_room :
    ∃ r', Registry.after (.ready (serverRegistry 1 0 ["web"]))
        [⟨2, .serverConnected "web" (.v4 2130706433#32 2333)⟩, ⟨3, .serverAdd "ssh"⟩,
          ⟨4, .serverDisconnected "web" (.v4 2130706433#32 2333) 2 (some "broken pipe")⟩] =
        .ready r' ∧
      queryRuntimeStatus SerdeJson.json (answerStatusRequest (.ready r') 7 statusRequest) =
        .ok ({ r' with capturedAtUnixMs := 7 } : RuntimeSnapshot).shown := by
  have clocks : ∀ c ∈ [(⟨2, .serverConnected "web" (.v4 2130706433#32 2333)⟩ : Call),
      ⟨3, .serverAdd "ssh"⟩,
      ⟨4, .serverDisconnected "web" (.v4 2130706433#32 2333) 2 (some "broken pipe")⟩],
      c.now < 2 ^ 64 := by decide
  have small : (serverRegistry 1 0 ["web"]).room + roomOf
      [⟨2, .serverConnected "web" (.v4 2130706433#32 2333)⟩, ⟨3, .serverAdd "ssh"⟩,
        ⟨4, .serverDisconnected "web" (.v4 2130706433#32 2333) 2 (some "broken pipe")⟩] ≤
      maxStatusResponse := by decide
  exact ⟨_, rfl, (status_response_le_room SerdeJson.json_reads
    (.server 1 0 ["web"] (by decide) (by decide)) clocks rfl (by decide)).2 small⟩

end Rathole.RuntimeStatus
