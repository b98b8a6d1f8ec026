import Rathole.Bytes
import Rathole.RegistryLock
import Rathole.StatusSnapshot

set_option autoImplicit false

/- A query of the runtime status over a local connection: a fixed request, and the snapshot behind
its length. -/
namespace Rathole.RuntimeStatus

def statusRequest : List UInt8 := asBytes "rathole-x-status-v1"

def maxStatusResponse : Nat := 64 * 1024

/-- The crate `serde_json`, as a reader of texts. -/
structure SerdeJson where
  fromSlice : List UInt8 → Option Json.Value

/-- The crate reads the text of a value as the value. -/
def SerdeJson.Reads (serde : SerdeJson) : Prop :=
  ∀ v, Json.Fits Json.maxDepth v → serde.fromSlice (asBytes v.text) = some v

/-- `to_vec` of a snapshot. -/
def RuntimeSnapshot.text (r : RuntimeSnapshot) : List UInt8 := asBytes r.value.text

/-- What a response stands behind. -/
def framed (response : List UInt8) : List UInt8 := Bytes.leBytes 4 response.length ++ response

/-- `answer_status_request`: what is written to a connection on which `received` arrives. -/
def answerStatusRequest (registry : Registry) (now : Nat) (received : List UInt8) : List UInt8 :=
  match Bytes.split statusRequest.length received with
  | some (request, _) =>
    if request ≠ statusRequest then []
    else
      match registry.snapshot now with
      | some r => if r.text.length ≤ maxStatusResponse then framed r.text else []
      | none => []
  | none => []

/-- `query_runtime_status` on a connection that has been made: `received` is what arrives up to
its end. -/
def queryRuntimeStatus (serde : SerdeJson) (received : List UInt8) :
    Except String RuntimeSnapshot :=
  match Bytes.split 4 received with
  | none => .error "failed to read runtime status response length"
  | some (length, rest) =>
    if maxStatusResponse < Bytes.ofLeBytes length then
      .error "runtime status response exceeds the maximum size"
    else
      match Bytes.split (Bytes.ofLeBytes length) rest with
      | none => .error "failed to read runtime status response"
      | some (response, _) =>
        match (serde.fromSlice response).bind RuntimeSnapshot.read with
        | some snapshot => .ok snapshot
        | none => .error "invalid runtime status response"

/-- The crate, by the reader of JSON texts. -/
def SerdeJson.json : SerdeJson where
  fromSlice bytes := (String.fromUTF8? ⟨bytes.toArray⟩).bind Json.parse

theorem SerdeJson.json_reads : SerdeJson.json.Reads := by
  intro v fits
  have bytes : (⟨(asBytes v.text).toArray⟩ : ByteArray) = v.text.toByteArray := rfl
  have decoded : String.fromUTF8? v.text.toByteArray = some v.text := by
    rw [String.fromUTF8?, dif_pos v.text.isValidUTF8]
    rfl
  rw [SerdeJson.json]
  dsimp only
  rw [bytes, decoded, Option.bind_some, Json.parse_text fits]

/-- The registry of a process that was just started. -/
inductive Initial : RuntimeSnapshot → Prop
  | client (processId now : Nat) (remoteAddr : String) (services : List String)
    (pid : processId < 2 ^ 32) (clock : now < 2 ^ 64) :
    Initial (clientRegistry processId now remoteAddr services)
  | server (processId now : Nat) (services : List String) (pid : processId < 2 ^ 32)
    (clock : now < 2 ^ 64) : Initial (serverRegistry processId now services)

section InRange

variable {r r' : RuntimeSnapshot}

theorem Initial.inRange (initial : Initial r) : r.InRange := by
  cases initial with
  | client processId now remoteAddr services pid clock =>
    refine ⟨show 2 < 2 ^ 32 by decide, pid, clock, ?_, fun name entry found => ?_⟩
    · rintro listener ⟨⟩
    · rw [lookup_collect found]
      exact ⟨by rintro at_ ⟨⟩, by rintro event ⟨⟩⟩
  | server processId now services pid clock =>
    refine ⟨show 2 < 2 ^ 32 by decide, pid, clock, ?_, fun name entry found => ?_⟩
    · rintro listener ⟨⟩ event ⟨⟩
    · rw [lookup_collect found]
      exact ⟨by rintro at_ ⟨⟩, by rintro event ⟨⟩⟩

theorem safeError_inRange {now : Nat} (clock : now < 2 ^ 64) {text : String}
    {event : RuntimeEvent} (stored : safeError now text = some event) : event.InRange := by
  have message := (safeError_stores stored).2.1
  obtain ⟨front, -, rfl⟩ := Option.map_eq_some_iff.mp stored
  exact ⟨clock, message⟩

theorem RuntimeSnapshot.InRange.insert (inRange : r.InRange) (name : String)
    {entry : RuntimeServiceSnapshot} (sound : entry.InRange) :
    RuntimeSnapshot.InRange { r with services := r.services.insert name entry } := by
  refine { inRange with services := fun k found at_ => ?_ }
  rw [lookup_insert_eq] at at_
  split at at_
  · cases at_
    exact sound
  · exact inRange.services k found at_

theorem RuntimeSnapshot.InRange.modifyClient (inRange : r.InRange) (name : String)
    {f : ClientSnapshot → ClientSnapshot}
    (keeps : ∀ entry, (RuntimeServiceSnapshot.client entry).InRange →
      (RuntimeServiceSnapshot.client (f entry)).InRange) : (r.modifyClient name f).InRange := by
  unfold RuntimeSnapshot.modifyClient
  split
  · next entry found => exact inRange.insert name (keeps entry (inRange.services name _ found))
  · exact inRange

theorem RuntimeSnapshot.InRange.setListener (inRange : r.InRange)
    {f : ServerListenerSnapshot → ServerListenerSnapshot}
    (keeps : ∀ listener, (∀ event ∈ listener.lastError, event.InRange) →
      ∀ event ∈ (f listener).lastError, event.InRange) : (r.setListener f).InRange := by
  refine { inRange with listener := fun listener here => ?_ }
  obtain ⟨before, held, rfl⟩ := Option.map_eq_some_iff.mp here
  exact keeps before (inRange.listener before held)

/-- An update keeps the numbers in the range of their types, and the texts short. -/
theorem Update.apply_inRange {now : Nat} (clock : now < 2 ^ 64) (inRange : r.InRange)
    {update : Update} (applied : update.apply now r = some r') : r'.InRange := by
  cases update with
  | serverListenerPending =>
    cases applied
    exact inRange.setListener fun _ _ => by rintro event ⟨⟩
  | serverListenerListening =>
    cases applied
    exact inRange.setListener fun _ _ => by rintro event ⟨⟩
  | serverListenerError error =>
    change RuntimeStatus.serverListenerError now r error = some r' at applied
    unfold RuntimeStatus.serverListenerError at applied
    split at applied
    · obtain ⟨event, stored, rfl⟩ := Option.map_eq_some_iff.mp applied
      refine inRange.setListener fun _ _ => ?_
      rintro event ⟨⟩
      exact safeError_inRange clock stored
    · cases applied
      exact inRange
  | serverListenerStopped =>
    cases applied
    exact inRange.setListener fun _ held => held
  | clientAdd name remoteAddr =>
    cases applied
    exact inRange.insert name ⟨by rintro at_ ⟨⟩, by rintro event ⟨⟩⟩
  | serverAdd name =>
    cases applied
    exact inRange.insert name ⟨by rintro at_ ⟨⟩, by rintro event ⟨⟩⟩
  | remove name =>
    cases applied
    refine { inRange with services := fun k found at_ => ?_ }
    change (r.services.erase name).lookup k = some found at at_
    rw [lookup_erase_eq] at at_
    split at at_
    · cases at_
    · exact inRange.services k found at_
  | clientConnecting name =>
    cases applied
    exact inRange.modifyClient name fun _ held => held
  | clientResolved name addr =>
    cases applied
    exact inRange.modifyClient name fun _ held => held
  | clientConnected name =>
    cases applied
    refine inRange.modifyClient name fun _ _ => ⟨?_, by rintro event ⟨⟩⟩
    rintro at_ ⟨⟩
    exact clock
  | clientRetrying name error =>
    change RuntimeStatus.clientRetrying now r name error = some r' at applied
    unfold RuntimeStatus.clientRetrying at applied
    split at applied
    · obtain ⟨event, stored, rfl⟩ := Option.map_eq_some_iff.mp applied
      refine inRange.modifyClient name fun _ held => ⟨held.1, ?_⟩
      rintro event ⟨⟩
      exact safeError_inRange clock stored
    · cases applied
      exact inRange
  | clientStopped name =>
    cases applied
    exact inRange.modifyClient name fun _ held => held
  | serverConnected name source =>
    cases applied
    unfold RuntimeStatus.serverConnected
    split
    · refine inRange.insert name ⟨?_, by rintro event ⟨⟩⟩
      rintro at_ ⟨⟩
      exact clock
    · exact inRange
  | serverDisconnected name source connectedSince detail =>
    change RuntimeStatus.serverDisconnected now r name source connectedSince detail = some r'
      at applied
    unfold RuntimeStatus.serverDisconnected at applied
    split at applied
    · split at applied
      · cases applied
        exact inRange
      · split at applied
        · cases applied
          exact inRange.insert name ⟨by rintro at_ ⟨⟩, by rintro event ⟨⟩⟩
        · obtain ⟨event, stored, rfl⟩ := Option.map_eq_some_iff.mp applied
          refine inRange.insert name ⟨by rintro at_ ⟨⟩, ?_⟩
          rintro event ⟨⟩
          exact safeError_inRange clock stored
    · cases applied
      exact inRange

/-- What one call keeps of a registry that can be read, all calls keep. -/
theorem Registry.after_induction {P : RuntimeSnapshot → Prop} {calls : List Call}
    (keeps : ∀ c ∈ calls, ∀ r r', P r → c.update.apply c.now r = some r' → P r')
    (held : P r) (ready : Registry.after (.ready r) calls = .ready r') : P r' := by
  induction calls using List.reverseRecOn generalizing r' with
  | nil =>
    cases ready
    exact held
  | append_singleton calls c ih =>
    rw [after_snoc] at ready
    cases before : Registry.after (.ready r) calls with
    | poisoned =>
      rw [before] at ready
      cases ready
    | ready r₁ =>
      have sound := ih (fun d member => keeps d (List.mem_append_left [c] member)) before
      rw [before, Registry.call] at ready
      cases applied : c.update.apply c.now r₁ with
      | none =>
        rw [applied] at ready
        cases ready
      | some r₂ =>
        rw [applied] at ready
        cases ready
        exact keeps c (List.mem_append_right calls (List.mem_singleton_self c)) r₁ r' sound applied

end InRange

section Exchange

variable {serde : SerdeJson} {r : RuntimeSnapshot}

theorem fromSlice_text (reads : serde.Reads) (inRange : r.InRange) :
    (serde.fromSlice r.text).bind RuntimeSnapshot.read = some r.shown := by
  have read : serde.fromSlice (asBytes r.value.text) = some r.value :=
    reads r.value (RuntimeSnapshot.fits r)
  rw [RuntimeSnapshot.text, read, Option.bind_some, RuntimeSnapshot.read_value inRange]

/-- A response that fits is what the query reads. -/
theorem queryRuntimeStatus_framed (reads : serde.Reads) (inRange : r.InRange)
    (fits : r.text.length ≤ maxStatusResponse) :
    queryRuntimeStatus serde (framed r.text) = .ok r.shown := by
  have value : Bytes.ofLeBytes (Bytes.leBytes 4 r.text.length) = r.text.length :=
    Bytes.ofLeBytes_of_lt (by unfold maxStatusResponse at fits; omega)
  have body : Bytes.split r.text.length (r.text ++ []) = some (r.text, []) :=
    Bytes.split_append rfl
  rw [List.append_nil] at body
  rw [queryRuntimeStatus, framed, Bytes.split_append (Bytes.length_leBytes 4 r.text.length)]
  simp only [value, Nat.not_lt.mpr fits, if_false, body, fromSlice_text reads inRange]

/-- A response that is cut off is no snapshot. -/
theorem eq_of_query_ok {response received : List UInt8} {snapshot : RuntimeSnapshot}
    (fits : response.length < 256 ^ 4) (arrives : received <+: framed response)
    (read : queryRuntimeStatus serde received = .ok snapshot) : received = framed response := by
  rw [queryRuntimeStatus] at read
  cases front : Bytes.split 4 received with
  | none => simp [front] at read
  | some taken =>
    obtain ⟨length, rest⟩ := taken
    obtain ⟨rfl, width⟩ := Bytes.split_spec front
    obtain ⟨tail, whole⟩ := arrives
    rw [framed, List.append_assoc] at whole
    obtain ⟨rfl, behind⟩ := List.append_inj whole (by rw [width, Bytes.length_leBytes])
    have value := Bytes.ofLeBytes_of_lt fits
    rw [front] at read
    simp only [value] at read
    split at read
    · cases read
    · cases body : Bytes.split response.length rest with
      | none => simp [body] at read
      | some taken =>
        obtain ⟨text, left⟩ := taken
        obtain ⟨rfl, count⟩ := Bytes.split_spec body
        have lengths := congrArg List.length behind
        simp only [List.length_append] at lengths
        have nothing : left = [] := List.eq_nil_of_length_eq_zero (by omega)
        have rest : tail = [] := List.eq_nil_of_length_eq_zero (by omega)
        rw [nothing, rest, List.append_nil, List.append_nil] at behind
        rw [nothing, List.append_nil, behind, framed]

/-- What is written to a connection. -/
theorem answerStatusRequest_eq_some_iff {registry : Registry} {now : Nat}
    {received answer : List UInt8} (some_ : answer ≠ []) :
    answerStatusRequest registry now received = answer ↔
      statusRequest <+: received ∧ ∃ r, registry = .ready r ∧
        ({ r with capturedAtUnixMs := now } : RuntimeSnapshot).text.length ≤ maxStatusResponse ∧
        answer = framed ({ r with capturedAtUnixMs := now } : RuntimeSnapshot).text := by
  rw [answerStatusRequest]
  cases taken : Bytes.split statusRequest.length received with
  | none =>
    refine iff_of_false (Ne.symm some_) ?_
    rintro ⟨⟨rest, rfl⟩, -⟩
    rw [Bytes.split_append rfl] at taken
    cases taken
  | some parts =>
    obtain ⟨request, rest⟩ := parts
    obtain ⟨rfl, width⟩ := Bytes.split_spec taken
    by_cases same : request = statusRequest
    · subst same
      simp only [ne_eq, not_true_eq_false, if_false]
      cases registry with
      | poisoned =>
        refine iff_of_false (Ne.symm some_) ?_
        rintro ⟨-, r, ⟨⟩, -⟩
      | ready r =>
        simp only [Registry.snapshot, List.prefix_append, true_and]
        constructor
        · intro written
          split at written
          · next fits => exact ⟨r, rfl, fits, written.symm⟩
          · exact absurd written.symm some_
        · rintro ⟨r', ⟨⟩, fits, rfl⟩
          rw [if_pos fits]
    · simp only [ne_eq, same, not_false_eq_true, if_true]
      refine iff_of_false (Ne.symm some_) ?_
      rintro ⟨⟨other, begins⟩, -⟩
      exact same (List.append_inj begins width.symm).1.symm

end Exchange

/-- A query gives a snapshot exactly when the whole response of a registry that can be read has
arrived, and it gives the snapshot of that registry. A connection that breaks before, a request
of another kind and a response over the limit end in an error. -/
theorem status_query_iff {serde : SerdeJson} (reads : serde.Reads) {r : RuntimeSnapshot}
    (initial : Initial r) {calls : List Call} (clocks : ∀ c ∈ calls, c.now < 2 ^ 64) {now : Nat}
    (clock : now < 2 ^ 64) {request received : List UInt8}
    (arrives : received <+:
      answerStatusRequest (Registry.after (.ready r) calls) now request)
    (snapshot : RuntimeSnapshot) :
    queryRuntimeStatus serde received = .ok snapshot ↔
      statusRequest <+: request ∧
        received = answerStatusRequest (Registry.after (.ready r) calls) now request ∧
        ∃ r', Registry.after (.ready r) calls = .ready r' ∧
          ({ r' with capturedAtUnixMs := now } : RuntimeSnapshot).text.length ≤
            maxStatusResponse ∧
          snapshot = ({ r' with capturedAtUnixMs := now } : RuntimeSnapshot).shown := by
  have sound : ∀ r', Registry.after (.ready r) calls = .ready r' →
      RuntimeSnapshot.InRange { r' with capturedAtUnixMs := now } := by
    intro r' ready
    have kept : r'.InRange := Registry.after_induction
      (fun c member r₁ r₂ held applied => Update.apply_inRange (clocks c member) held applied)
      initial.inRange ready
    exact { kept with capturedAtUnixMs := clock }
  constructor
  · intro read
    have some_ : answerStatusRequest (Registry.after (.ready r) calls) now request ≠ [] := by
      intro nothing
      rw [nothing, List.prefix_nil] at arrives
      rw [arrives] at read
      cases read
    obtain ⟨asked, r', ready, fits, answer⟩ :=
      (answerStatusRequest_eq_some_iff some_).mp rfl
    rw [answer] at arrives
    have whole := eq_of_query_ok (by unfold maxStatusResponse at fits; omega) arrives read
    refine ⟨asked, whole.trans answer.symm, r', ready, fits, ?_⟩
    rw [whole, queryRuntimeStatus_framed reads (sound r' ready) fits] at read
    exact (Except.ok.inj read).symm
  · rintro ⟨asked, rfl, r', ready, fits, rfl⟩
    have nonempty : framed ({ r' with capturedAtUnixMs := now } : RuntimeSnapshot).text ≠ [] := by
      simp [framed, Bytes.leBytes]
    rw [(answerStatusRequest_eq_some_iff nonempty).mpr ⟨asked, r', ready, fits, rfl⟩]
    exact queryRuntimeStatus_framed reads (sound r' ready) fits

/-- The server `web` with a connected client, a few milliseconds later. -/
theorem web_status_query :
    ∃ r, Registry.after (.ready (serverRegistry 1 0 ["web"]))
        [⟨2, .serverConnected "web" (.v4 2130706433#32 2333)⟩] = .ready r ∧
      queryRuntimeStatus SerdeJson.json (answerStatusRequest (.ready r) 7 statusRequest) =
        .ok ({ r with capturedAtUnixMs := 7 } : RuntimeSnapshot).shown := by
  refine ⟨_, rfl, ?_⟩
  have fits : (RuntimeSnapshot.text { (serverConnected 2 (serverRegistry 1 0 ["web"]) "web"
      (.v4 2130706433#32 2333)).2 with capturedAtUnixMs := 7 }).length ≤ maxStatusResponse := by
    decide +kernel
  have clocks : ∀ c ∈ [(⟨2, .serverConnected "web" (.v4 2130706433#32 2333)⟩ : Call)],
      c.now < 2 ^ 64 := by decide
  exact (status_query_iff SerdeJson.json_reads (.server 1 0 ["web"] (by decide) (by decide)) clocks
    (show 7 < 2 ^ 64 by decide) (List.prefix_refl _) _).mpr
    ⟨List.prefix_refl _, rfl, _, rfl, fits, rfl⟩

end Rathole.RuntimeStatus
