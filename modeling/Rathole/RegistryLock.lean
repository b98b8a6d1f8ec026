import Mathlib.Data.String.Basic
import Rathole.RuntimeStatus

set_option autoImplicit false

/- The registry behind its lock: what a call leaves for the calls after it when an error text is
cut to 512 bytes while the lock is held. -/
namespace Rathole.RuntimeStatus

/-- `none` is the panic of `safe_error` under the lock. -/
def serverListenerError (now : Nat) (r : RuntimeSnapshot) (error : String) :
    Option RuntimeSnapshot :=
  match r.serverListener with
  | some _ => (safeError now error).map fun event => r.setListener fun _ => ⟨.error, some event⟩
  | none => some r

inductive Update
  | serverListenerPending
  | serverListenerListening
  | serverListenerError (error : String)
  | serverListenerStopped
  | clientAdd (name remoteAddr : String)
  | serverAdd (name : String)
  | remove (name : String)
  | clientConnecting (name : String)
  | clientResolved (name : String) (addr : SocketAddr)
  | clientConnected (name : String)
  | clientRetrying (name error : String)
  | clientStopped (name : String)
  | serverConnected (name : String) (source : SocketAddr)
  | serverDisconnected (name : String) (source : SocketAddr) (connectedSince : Nat)
      (detail : Option String)
  deriving DecidableEq

/-- What an update does under the lock. -/
def Update.apply (now : Nat) (r : RuntimeSnapshot) : Update → Option RuntimeSnapshot
  | .serverListenerPending => some (RuntimeStatus.serverListenerPending r)
  | .serverListenerListening => some (RuntimeStatus.serverListenerListening r)
  | .serverListenerError error => RuntimeStatus.serverListenerError now r error
  | .serverListenerStopped => some (RuntimeStatus.serverListenerStopped r)
  | .clientAdd name remoteAddr => some (RuntimeStatus.clientAdd r name remoteAddr)
  | .serverAdd name => some (RuntimeStatus.serverAdd r name)
  | .remove name => some (RuntimeStatus.remove r name)
  | .clientConnecting name => some (RuntimeStatus.clientConnecting r name)
  | .clientResolved name addr => some (RuntimeStatus.clientResolved r name addr)
  | .clientConnected name => some (RuntimeStatus.clientConnected now r name)
  | .clientRetrying name error => RuntimeStatus.clientRetrying now r name error
  | .clientStopped name => some (RuntimeStatus.clientStopped r name)
  | .serverConnected name source => some (RuntimeStatus.serverConnected now r name source).2
  | .serverDisconnected name source connectedSince detail =>
    RuntimeStatus.serverDisconnected now r name source connectedSince detail

/-- A panic under the write guard leaves the lock poisoned, where the panic is not the end of the
process anyway. -/
inductive Registry
  | ready (r : RuntimeSnapshot)
  | poisoned
  deriving DecidableEq

/-- An update and the clock at its time. -/
structure Call where
  now : Nat
  update : Update

namespace Registry

/-- Whether the call returns, and the registry after it: `expect` panics on a poisoned lock. -/
def call (c : Call) : Registry → Bool × Registry
  | poisoned => (false, poisoned)
  | ready r =>
    match c.update.apply c.now r with
    | some r' => (true, ready r')
    | none => (false, poisoned)

/-- `snapshot`, with the panic of its `expect`. -/
def snapshot (now : Nat) : Registry → Option RuntimeSnapshot
  | poisoned => none
  | ready r => some { r with capturedAtUnixMs := now }

/-- The registry after these calls. -/
def after (registry : Registry) (calls : List Call) : Registry :=
  calls.foldl (fun registry c => (registry.call c).2) registry

end Registry

/-- Where an update writes. -/
inductive Place
  | listener
  | service (name : String)
  deriving DecidableEq

/-- The error text that an update records in this registry, and where. -/
def Update.records (r : RuntimeSnapshot) : Update → Option (Place × String)
  | .serverListenerError error =>
    if r.serverListener.isSome then some (.listener, error) else none
  | .clientRetrying name error =>
    match r.services.lookup name with
    | some (.client _) => some (.service name, error)
    | _ => none
  | .serverDisconnected name source connectedSince detail =>
    match r.services.lookup name with
    | some (.server entry) =>
      if entry.controlChannelSource = some source ∧
          entry.connectedSinceUnixMs = some connectedSince then
        detail.map fun text => (.service name, text)
      else none
    | _ => none
  | _ => none

/-- The error that a snapshot shows at a place. -/
def Place.error (r : RuntimeSnapshot) : Place → Option RuntimeEvent
  | .listener => r.serverListener.bind (·.lastError)
  | .service name =>
    match r.services.lookup name with
    | some (.client entry) => entry.lastError
    | some (.server entry) => entry.lastDisconnectedOrError
    | none => none

/-- The text fits, or a character of it ends at byte 512. -/
def Cuts (text : String) : Prop :=
  text.utf8ByteSize ≤ 512 ∨ ∃ front rest, text = front ++ rest ∧ front.utf8ByteSize = 512

/-- The error is stored, at most 512 bytes of it, and no other service is touched. -/
structure Stores (r r' : RuntimeSnapshot) (place : Place) (text : String) : Prop where
  message : ∃ event, place.error r' = some event ∧
    (∃ rest, text = event.message ++ rest) ∧ event.message.utf8ByteSize ≤ 512 ∧
    (text.utf8ByteSize ≤ 512 → event.message = text)
  others : ∀ name, place ≠ .service name → r'.services.lookup name = r.services.lookup name

section Truncate

open String (utf8Len)

theorem truncate_prefix {n : Nat} {cs front : List Char} (cut : truncate n cs = some front) :
    ∃ rest, cs = front ++ rest := by
  induction cs generalizing n front with
  | nil =>
    rw [truncate] at cut
    exact ⟨[], by simp [← Option.some.inj cut]⟩
  | cons c cs ih =>
    cases n with
    | zero =>
      rw [truncate] at cut
      exact ⟨c :: cs, by simp [← Option.some.inj cut]⟩
    | succ n =>
      rw [truncate] at cut
      split at cut
      · obtain ⟨tail, below, rfl⟩ := Option.map_eq_some_iff.mp cut
        obtain ⟨rest, rfl⟩ := ih below
        exact ⟨rest, rfl⟩
      · cases cut

theorem truncate_le {n : Nat} {cs front : List Char} (cut : truncate n cs = some front) :
    utf8Len front ≤ n := by
  induction cs generalizing n front with
  | nil =>
    rw [truncate] at cut
    simp [← Option.some.inj cut]
  | cons c cs ih =>
    cases n with
    | zero =>
      rw [truncate] at cut
      simp [← Option.some.inj cut]
    | succ n =>
      rw [truncate] at cut
      split at cut
      · next fits =>
        obtain ⟨tail, below, rfl⟩ := Option.map_eq_some_iff.mp cut
        have rest := ih below
        rw [String.utf8Len_cons]
        omega
      · cases cut

theorem truncate_of_fits {n : Nat} {cs : List Char} (fits : utf8Len cs ≤ n) :
    truncate n cs = some cs := by
  induction cs generalizing n with
  | nil => rw [truncate]
  | cons c cs ih =>
    have positive := c.utf8Size_pos
    rw [String.utf8Len_cons] at fits
    cases n with
    | zero => omega
    | succ n =>
      rw [truncate, if_pos (by omega), ih (by omega)]
      rfl

theorem truncate_append {n : Nat} {front : List Char} (rest : List Char)
    (ends : utf8Len front = n) : truncate n (front ++ rest) = some front := by
  induction front generalizing n with
  | nil =>
    subst ends
    cases rest <;> rfl
  | cons c cs ih =>
    have positive := c.utf8Size_pos
    rw [String.utf8Len_cons] at ends
    cases n with
    | zero => omega
    | succ n =>
      rw [List.cons_append, truncate, if_pos (by omega), ih (by omega)]
      rfl

/-- What is cut off a text that does not fit begins right at the bound. -/
theorem truncate_full {n : Nat} {cs front : List Char} (cut : truncate n cs = some front)
    (long : n < utf8Len cs) : utf8Len front = n := by
  induction cs generalizing n front with
  | nil => exact absurd long (by simp)
  | cons c cs ih =>
    cases n with
    | zero =>
      rw [truncate] at cut
      simp [← Option.some.inj cut]
    | succ n =>
      rw [truncate] at cut
      rw [String.utf8Len_cons] at long
      split at cut
      · next fits =>
        obtain ⟨tail, below, rfl⟩ := Option.map_eq_some_iff.mp cut
        have rest := ih below (by omega)
        rw [String.utf8Len_cons]
        omega
      · cases cut

end Truncate

theorem safeError_isSome_iff (now : Nat) {text : String} :
    (safeError now text).isSome ↔ Cuts text := by
  have size := String.utf8Len_toList text
  rw [safeError, Option.isSome_map]
  by_cases fits : text.utf8ByteSize ≤ 512
  · rw [truncate_of_fits (by omega)]
    simp [Cuts, fits]
  · constructor
    · intro cut
      obtain ⟨front, cut⟩ := Option.isSome_iff_exists.mp cut
      obtain ⟨rest, parts⟩ := truncate_prefix cut
      have full := truncate_full cut (by omega)
      refine .inr ⟨String.ofList front, String.ofList rest, ?_, ?_⟩
      · rw [← String.ofList_append, ← parts, String.ofList_toList]
      · rw [String.utf8ByteSize_ofList, full]
    · intro cuts
      obtain ⟨front, rest, rfl, ends⟩ := cuts.resolve_left fits
      rw [← String.utf8Len_toList] at ends
      rw [String.toList_append, truncate_append rest.toList ends]
      rfl

theorem safeError_stores {now : Nat} {text : String} {event : RuntimeEvent}
    (stored : safeError now text = some event) : (∃ rest, text = event.message ++ rest) ∧
      event.message.utf8ByteSize ≤ 512 ∧ (text.utf8ByteSize ≤ 512 → event.message = text) := by
  obtain ⟨front, cut, rfl⟩ := Option.map_eq_some_iff.mp stored
  obtain ⟨rest, parts⟩ := truncate_prefix cut
  refine ⟨⟨String.ofList rest, ?_⟩, ?_, ?_⟩
  · rw [← String.ofList_append, ← parts, String.ofList_toList]
  · rw [String.utf8ByteSize_ofList]
    exact truncate_le cut
  · intro fits
    rw [← String.utf8Len_toList] at fits
    rw [truncate_of_fits fits] at cut
    rw [← Option.some.inj cut, String.ofList_toList]

variable {now : Nat} {r r' : RuntimeSnapshot} {u : Update} {place : Place} {text name : String}

theorem serverListenerError_isSome_iff :
    (serverListenerError now r text).isSome ↔ (r.serverListener.isSome → Cuts text) := by
  unfold serverListenerError
  split
  · next listener found => simp [found, safeError_isSome_iff]
  · next absent => simp [absent]

theorem clientRetrying_isSome_iff : (clientRetrying now r name text).isSome ↔
    ((∃ entry, r.services.lookup name = some (.client entry)) → Cuts text) := by
  unfold clientRetrying
  split
  · next entry found => simp [found, safeError_isSome_iff]
  · next other =>
    refine iff_of_true rfl fun there => ?_
    obtain ⟨entry, found⟩ := there
    exact (other entry found).elim

theorem serverDisconnected_isSome_iff {source : SocketAddr} {since : Nat} {detail : Option String} :
    (serverDisconnected now r name source since detail).isSome ↔
      ∀ entry, r.services.lookup name = some (.server entry) →
        entry.controlChannelSource = some source → entry.connectedSinceUnixMs = some since →
        ∀ text, detail = some text → Cuts text := by
  unfold serverDisconnected
  split
  · next entry found =>
    by_cases owned : entry.controlChannelSource = some source ∧
        entry.connectedSinceUnixMs = some since
    · cases detail <;> simp [found, owned, safeError_isSome_iff]
    · rw [if_pos (by tauto)]
      simp only [Option.isSome_some, true_iff]
      intro entry' found' isSource isSince
      cases found.symm.trans found'
      exact absurd ⟨isSource, isSince⟩ owned
  · next other => exact iff_of_true rfl fun entry found => (other entry found).elim

/-- An update panics exactly when it records a text that is cut inside a character. -/
theorem apply_isSome_iff (now : Nat) : (u.apply now r).isSome ↔
    ∀ place text, u.records r = some (place, text) → Cuts text := by
  cases u with
  | serverListenerError error =>
    rw [Update.apply, serverListenerError_isSome_iff]
    simp [Update.records]
  | clientRetrying name error =>
    rw [Update.apply, clientRetrying_isSome_iff, Update.records]
    split
    · next entry found => simp [found]
    · next other =>
      refine iff_of_true (fun there => ?_) (by simp)
      obtain ⟨entry, found⟩ := there
      exact (other entry found).elim
  | serverDisconnected name source since detail =>
    rw [Update.apply, serverDisconnected_isSome_iff, Update.records]
    split
    · next entry found =>
      simp only [found, Option.some.injEq, RuntimeServiceSnapshot.server.injEq, forall_eq']
      by_cases owned : entry.controlChannelSource = some source ∧
          entry.connectedSinceUnixMs = some since
      · cases detail <;> simp [owned]
      · rw [if_neg owned]
        exact iff_of_true (fun isSource isSince => absurd ⟨isSource, isSince⟩ owned) (by simp)
    · next other =>
      exact iff_of_true (fun entry found => (other entry found).elim) (by simp)
  | _ => simp [Update.apply, Update.records]

/-- The entry that is written stays apart from the entries of the other services. -/
theorem lookup_insert_other {entry : RuntimeServiceSnapshot} (name : String) :
    ∀ k, Place.service name ≠ .service k →
      (r.services.insert name entry).lookup k = r.services.lookup k := by
  intro k apart
  rw [lookup_insert_eq, if_neg]
  rintro rfl
  exact apart rfl

theorem apply_stores (applied : u.apply now r = some r')
    (records : u.records r = some (place, text)) : Stores r r' place text := by
  cases u with
  | serverListenerError error =>
    change serverListenerError now r error = some r' at applied
    rw [Update.records] at records
    unfold serverListenerError at applied
    split at applied
    · next listener found =>
      obtain ⟨event, cut, rfl⟩ := Option.map_eq_some_iff.mp applied
      simp only [found, Option.isSome_some, if_true, Option.some.injEq, Prod.mk.injEq] at records
      obtain ⟨rfl, rfl⟩ := records
      refine ⟨⟨event, ?_, safeError_stores cut⟩, fun _ _ => rfl⟩
      simp [Place.error, RuntimeSnapshot.setListener, found]
    · next absent => simp [absent] at records
  | clientRetrying name error =>
    change clientRetrying now r name error = some r' at applied
    rw [Update.records] at records
    unfold clientRetrying at applied
    split at applied
    · next entry found =>
      obtain ⟨event, cut, rfl⟩ := Option.map_eq_some_iff.mp applied
      simp only [found, Option.some.injEq, Prod.mk.injEq] at records
      obtain ⟨rfl, rfl⟩ := records
      refine ⟨⟨event, ?_, safeError_stores cut⟩, ?_⟩
      · simp [Place.error, lookup_modifyClient, found]
      · simp only [RuntimeSnapshot.modifyClient, found]
        exact lookup_insert_other name
    · simp at records
  | serverDisconnected name source since detail =>
    change serverDisconnected now r name source since detail = some r' at applied
    rw [Update.records] at records
    unfold serverDisconnected at applied
    split at applied
    · next entry found =>
      simp only [found] at records
      split at records
      · next owned =>
        rw [if_neg (by simp [owned])] at applied
        cases detail with
        | none => cases records
        | some shown =>
          simp only [Option.map_some, Option.some.injEq, Prod.mk.injEq] at records
          obtain ⟨rfl, rfl⟩ := records
          obtain ⟨event, cut, rfl⟩ := Option.map_eq_some_iff.mp applied
          refine ⟨⟨event, ?_, safeError_stores cut⟩, lookup_insert_other name⟩
          simp [Place.error, RuntimeSnapshot.setServer]
      · cases records
    · simp at records
  | _ => cases records

/-- The call returns with the registry unlocked, and what it records is stored. -/
def Sound (registry : Registry) (c : Call) : Prop :=
  ∃ r r', registry = .ready r ∧ registry.call c = (true, .ready r') ∧
    ∀ place text, c.update.records r = some (place, text) → Stores r r' place text

theorem sound_iff {c : Call} : Sound (.ready r) c ↔
    ∀ place text, c.update.records r = some (place, text) → Cuts text := by
  rw [← apply_isSome_iff c.now, Option.isSome_iff_exists]
  constructor
  · rintro ⟨r₀, r', same, called, -⟩
    cases applied : c.update.apply c.now r with
    | some r' => exact ⟨r', rfl⟩
    | none => simp [Registry.call, applied] at called
  · rintro ⟨r', applied⟩
    exact ⟨r, r', rfl, by simp [Registry.call, applied], fun _ _ => apply_stores applied⟩

/-- Every call returns soundly, and the registry can be read before and after each of them. -/
structure Survives (r : RuntimeSnapshot) (calls : List Call) : Prop where
  sound : ∀ earlier c later, calls = earlier ++ c :: later →
    Sound (Registry.after (.ready r) earlier) c
  readable : ∀ earlier later, calls = earlier ++ later →
    ∀ now, ((Registry.after (.ready r) earlier).snapshot now).isSome

/-- Every text that a call records, in the registry that it finds, fits or is cut between two
characters. -/
def CutsAll (r : RuntimeSnapshot) (calls : List Call) : Prop :=
  ∀ earlier c later r', calls = earlier ++ c :: later →
    Registry.after (.ready r) earlier = .ready r' →
      ∀ place text, c.update.records r' = some (place, text) → Cuts text

theorem after_snoc (registry : Registry) (calls : List Call) (c : Call) :
    registry.after (calls ++ [c]) = ((registry.after calls).call c).2 := by
  simp [Registry.after]

theorem ready_of_cutsAll {calls : List Call} (cuts : CutsAll r calls) {earlier later : List Call}
    (parts : calls = earlier ++ later) : ∃ r', Registry.after (.ready r) earlier = .ready r' := by
  induction earlier using List.reverseRecOn generalizing later with
  | nil => exact ⟨r, rfl⟩
  | append_singleton earlier c ih =>
    have parts' : calls = earlier ++ c :: later := by simp [parts]
    obtain ⟨r₁, before⟩ := ih parts'
    obtain ⟨r₂, r', same, called, -⟩ := sound_iff.mpr (cuts earlier c later r₁ parts' before)
    exact ⟨r', by rw [after_snoc, before, called]⟩

/-- Status updates survive exactly the runs whose error texts are all cut between characters. -/
theorem survives_iff (r : RuntimeSnapshot) (calls : List Call) :
    Survives r calls ↔ CutsAll r calls := by
  constructor
  · intro survives earlier c later r' parts before
    have sound := survives.sound earlier c later parts
    rw [before] at sound
    exact sound_iff.mp sound
  · intro cuts
    refine ⟨fun earlier c later parts => ?_, fun earlier later parts now => ?_⟩
    · obtain ⟨r', before⟩ := ready_of_cutsAll cuts parts
      rw [before]
      exact sound_iff.mpr (cuts earlier c later r' parts before)
    · obtain ⟨r', before⟩ := ready_of_cutsAll cuts parts
      rw [before]
      rfl

/-- A character of two bytes after `n` of one byte is not cut after `n + 1` bytes. -/
theorem truncate_inside (n : Nat) : truncate (n + 1) (List.replicate n 'a' ++ ['é']) = none := by
  induction n with
  | zero => rfl
  | succ n ih =>
    have single : 'a'.utf8Size = 1 := rfl
    rw [List.replicate_succ, List.cons_append, truncate, if_pos (by omega), single,
      Nat.add_sub_cancel, ih]
    rfl

/-- `n` characters of one byte and one of two. -/
def accented (n : Nat) : String := String.ofList (List.replicate n 'a' ++ ['é'])

theorem safeError_accented (now : Nat) : safeError now (accented 511) = none := by
  have cut : truncate 512 (accented 511).toList = none := by
    unfold accented
    rw [String.toList_ofList]
    exact truncate_inside 511
  unfold safeError
  rw [cut, Option.map_none]

theorem not_cuts_accented : ¬ Cuts (accented 511) := by
  intro cuts
  have cut := (safeError_isSome_iff 0).mpr cuts
  rw [safeError_accented] at cut
  cases cut

theorem not_survives_of_not_cuts {c : Call} (records : c.update.records r = some (place, text))
    (inside : ¬ Cuts text) : ¬ Survives r [c] := by
  intro survives
  exact inside (sound_iff.mp (survives.sound [] c [] rfl) place text records)

/-- The failed bind of a listener, told by an operating system that has a long name for it. -/
theorem accented_poisons : ¬ Survives (serverRegistry 1 0 ["demo"])
    [⟨0, .serverListenerError (accented 511)⟩] :=
  have records : Update.records (serverRegistry 1 0 ["demo"])
      (.serverListenerError (accented 511)) = some (.listener, accented 511) := rfl
  not_survives_of_not_cuts records not_cuts_accented

end Rathole.RuntimeStatus
