import Rathole.Transition

set_option autoImplicit false

/- One direction of the websocket transport: the writes of one tunnel, the messages on their way,
and the reads of the other tunnel. -/
namespace Rathole.Websocket

open Transition.System (Free Run)

inductive Message
  | text (s : String)
  | binary (data : List UInt8)
  | ping (data : List UInt8)
  | pong (data : List UInt8)
  | close
  deriving DecidableEq

inductive ReadResult
  | data (bytes : List UInt8)
  /-- `Ok` without a byte -/
  | eof
  | error (message : String)
  deriving DecidableEq

/-- The limit of `WebSocketConfig`, for messages and for frames. -/
def maxMessageSize : Nat := 1048576

/-- An item of the websocket stream: a message over the limit is an error. -/
def receive : Message → Except String Message
  | .binary data =>
    if data.length ≤ maxMessageSize then .ok (.binary data)
    else
      .error s!"Space limit exceeded: Message too long: {data.length} > {maxMessageSize}"
  | m => .ok m

/-- `StreamWrapper::poll_next` on a message. -/
def pollNext : Message → Except String (List UInt8)
  | .binary b => .ok b
  | _ => .error "unexpected frame"

/-- Where the stream of messages stands. A close frame is followed by the end of the stream: at
once on a server, which has only to answer it, and on a client when the other end has closed the
connection. An error of the websocket ends the stream. -/
inductive Progress
  | flowing
  | closing
  | ended
  deriving DecidableEq

/-- `server` is the role of the reading end, and `hungUp` says that the writing end has closed the
connection. `chunk` is what is left of the message that was received last. `written` lists the
bytes of the writes, and `results` the reads. -/
structure State where
  server : Bool
  shut : Bool
  hungUp : Bool
  progress : Progress
  inFlight : List Message
  chunk : List UInt8
  written : List UInt8
  results : List ReadResult
  deriving DecidableEq

inductive Action
  | write (buf : List UInt8)
  | shutdown
  /-- The writing end, which has shut its tunnel, drops it. -/
  | hangUp
  | read (capacity : Nat)
  deriving DecidableEq

/-- What `poll_fill_buf` gives, and the stream it leaves. -/
structure Fill where
  chunk : Except String (List UInt8)
  progress : Progress
  rest : List Message

/-- `poll_fill_buf` when the chunk is used up: empty messages are skipped, and the end of the
stream is an empty chunk. `none` is pending. -/
def fillBuf (server hungUp : Bool) : Progress → List Message → Option Fill
  | .ended, rest => some ⟨.ok [], .ended, rest⟩
  | .closing, [] => if server ∨ hungUp then some ⟨.ok [], .ended, []⟩ else none
  | .closing, m :: rest =>
    if server then some ⟨.ok [], .ended, m :: rest⟩
    else some ⟨.error "WebSocket protocol error: Remote sent after having closed", .ended, rest⟩
  | .flowing, [] =>
    if hungUp then
      some ⟨.error "WebSocket protocol error: Connection reset without closing handshake", .ended,
        []⟩
    else none
  | .flowing, m :: rest =>
    match receive m with
    | .error e => some ⟨.error e, .ended, rest⟩
    | .ok m =>
      match pollNext m with
      | .error e => some ⟨.error e, if m = .close then .closing else .flowing, rest⟩
      | .ok [] => fillBuf server hungUp .flowing rest
      | .ok chunk => some ⟨.ok chunk, .flowing, rest⟩

namespace State

def start (server : Bool) : State := ⟨server, false, false, .flowing, [], [], [], []⟩

/-- `poll_write` takes the buffer as one binary message. -/
def write (s : State) (buf : List UInt8) : Option State :=
  if s.shut then none
  else some { s with inFlight := s.inFlight ++ [.binary buf], written := s.written ++ buf }

/-- `poll_shutdown` sends a close frame. -/
def shutdown (s : State) : Option State :=
  if s.shut then none else some { s with shut := true, inFlight := s.inFlight ++ [.close] }

def hangUp (s : State) : Option State :=
  if s.shut then some { s with hungUp := true } else none

def take (s : State) (chunk : List UInt8) (capacity : Nat) : State :=
  { s with
    chunk := chunk.drop capacity
    results := s.results ++ [if chunk = [] then .eof else .data (chunk.take capacity)] }

def fail (s : State) (message : String) : State :=
  { s with results := s.results ++ [.error message] }

/-- `poll_read` into a buffer with room. -/
def read (s : State) (capacity : Nat) : Option State :=
  if capacity = 0 then none
  else if s.chunk ≠ [] then some (s.take s.chunk capacity)
  else
    match fillBuf s.server s.hungUp s.progress s.inFlight with
    | none => none
    | some fill =>
      let left := { s with progress := fill.progress, inFlight := fill.rest }
      match fill.chunk with
      | .ok chunk => some (left.take chunk capacity)
      | .error e => some (left.fail e)

end State

def step (s : State) : Action → Option State
  | .write buf => s.write buf
  | .shutdown => s.shutdown
  | .hangUp => s.hangUp
  | .read capacity => s.read capacity

def system : Transition.System State Action where
  init s := ∃ server, s = .start server
  step := step

/-- Every write is at most 1 MiB. -/
def Fits (_ : State) : Action → Prop
  | .write buf => buf.length ≤ maxMessageSize
  | _ => True

def ReadResult.bytes : ReadResult → List UInt8
  | data bytes => bytes
  | eof | error _ => []

def ReadResult.isData : ReadResult → Bool
  | data _ => true
  | eof | error _ => false

def bytesOf (results : List ReadResult) : List UInt8 := (results.map ReadResult.bytes).flatten

/-- The reads up to the first that brings no data. -/
structure Finished (s : State) (reads : List ReadResult) (last : ReadResult) : Prop where
  shut : s.shut = true
  results : ∃ later, s.results = reads ++ last :: later
  data : ∀ r ∈ reads, r.isData = true
  last : last.isData = false

/-- As over a byte stream: everything that was written, and then the end of the file. -/
def CleanEnd (s : State) : Prop :=
  ∀ reads last, Finished s reads last → bytesOf reads = s.written ∧ last = .eof

section Reading

variable {s t : State} {a : Action}

def payload (messages : List (List UInt8)) : List Message := messages.map .binary

def closing (shut : Bool) : List Message := if shut then [.close] else []

/-- What was written is read, in the hand of the reader, or on its way, and the close frame is
the last message. -/
structure Open (s : State) (messages : List (List UInt8)) : Prop where
  hungUp : s.hungUp = true → s.shut = true
  flowing : s.progress = .flowing
  fits : ∀ m ∈ messages, m.length ≤ maxMessageSize
  flight : s.inFlight = payload messages ++ closing s.shut
  written : s.written = bytesOf s.results ++ s.chunk ++ messages.flatten
  data : ∀ r ∈ s.results, r.isData = true

/-- The close frame was read: as an error, behind everything that was written. No message follows
it. -/
structure Closed (s : State) (reads : List ReadResult) : Prop where
  shut : s.shut = true
  stopped : s.progress ≠ .flowing
  flight : s.inFlight = []
  chunk : s.chunk = []
  results : ∃ later, s.results = reads ++ .error "unexpected frame" :: later
  data : ∀ r ∈ reads, r.isData = true
  written : bytesOf reads = s.written

def Sound (s : State) : Prop := (∃ messages, Open s messages) ∨ ∃ reads, Closed s reads

theorem bytesOf_append (front back : List ReadResult) :
    bytesOf (front ++ back) = bytesOf front ++ bytesOf back := by
  simp [bytesOf]

theorem receive_binary {data : List UInt8} (fits : data.length ≤ maxMessageSize) :
    receive (.binary data) = .ok (.binary data) := by
  simp [receive, fits]

/-- A read finds the next message that is not empty, or the close frame. -/
theorem fillBuf_payload {messages : List (List UInt8)} (server shut hungUp : Bool)
    (left : hungUp = true → shut = true) (fits : ∀ m ∈ messages, m.length ≤ maxMessageSize) :
    messages.flatten = [] ∧ fillBuf server hungUp .flowing (payload messages ++ closing shut) =
        (if shut then some ⟨.error "unexpected frame", .closing, []⟩ else none) ∨
    ∃ chunk later, chunk ≠ [] ∧ messages.flatten = chunk ++ later.flatten ∧
      (∀ m ∈ later, m.length ≤ maxMessageSize) ∧
      fillBuf server hungUp .flowing (payload messages ++ closing shut) =
        some ⟨.ok chunk, .flowing, payload later ++ closing shut⟩ := by
  induction messages with
  | nil =>
    apply Or.inl
    cases shut with
    | true => exact ⟨rfl, rfl⟩
    | false =>
      have held : hungUp = false := by simpa using left
      rw [held]
      exact ⟨rfl, rfl⟩
  | cons m messages ih =>
    have short := fits m List.mem_cons_self
    have rest : ∀ m ∈ messages, m.length ≤ maxMessageSize :=
      fun m member => fits m (List.mem_cons_of_mem _ member)
    rw [payload, List.map_cons, List.cons_append, fillBuf, receive_binary short]
    cases m with
    | nil =>
      simp only [pollNext, List.flatten_cons, List.nil_append]
      exact ih rest
    | cons byte m =>
      apply Or.inr
      exact ⟨byte :: m, messages, by simp, by simp, rest, rfl⟩

theorem Open.take {messages : List (List UInt8)} {chunk : List UInt8} {capacity : Nat}
    (sound : Open { s with chunk := chunk } messages) (some : chunk ≠ []) :
    Open (s.take chunk capacity) messages := by
  constructor
  · exact sound.hungUp
  · exact sound.flowing
  · exact sound.fits
  · exact sound.flight
  · rw [State.take, if_neg some, bytesOf_append]
    have both := sound.written
    simp only [bytesOf, List.map_cons, List.map_nil, ReadResult.bytes, List.flatten_cons,
      List.flatten_nil, List.append_nil, List.append_assoc] at both ⊢
    rw [both, ← List.append_assoc (chunk.take capacity), List.take_append_drop]
  · intro r member
    rw [State.take, if_neg some] at member
    rcases List.mem_append.mp member with early | last
    · exact sound.data r early
    · rw [List.mem_singleton.mp last]
      rfl

/-- The bytes that are written and not read. -/
def unread (s : State) : Nat := s.written.length - (bytesOf s.results).length

theorem Open.unread_take {messages : List (List UInt8)} {chunk : List UInt8} {capacity : Nat}
    (sound : Open { s with chunk := chunk } messages) (some : chunk ≠ []) (room : 0 < capacity) :
    unread (s.take chunk capacity) < unread s := by
  have written := congrArg List.length sound.written
  have length : 0 < chunk.length := List.length_pos_iff.mpr some
  simp only [List.length_append] at written
  have taken : (bytesOf (s.take chunk capacity).results).length =
      (bytesOf s.results).length + min capacity chunk.length := by
    rw [State.take, if_neg some, bytesOf_append]
    simp [bytesOf, ReadResult.bytes]
  rw [unread, unread, taken]
  change s.written.length - _ < _
  omega

/-- A read of an open tunnel takes bytes. When there are none it waits for the writer, or meets
the close frame. -/
theorem Open.read {messages : List (List UInt8)} {capacity : Nat} (sound : Open s messages)
    (room : 0 < capacity) :
    (∃ t later, s.read capacity = some t ∧ Open t later ∧ t.shut = s.shut ∧ unread t < unread s) ∨
    bytesOf s.results = s.written ∧ s.chunk = [] ∧
      s.read capacity = if s.shut then
        some ({ s with progress := .closing, inFlight := [] }.fail "unexpected frame")
      else none := by
  have positive : capacity ≠ 0 := by omega
  rw [State.read, if_neg positive]
  by_cases left : s.chunk = []
  · rw [if_neg (not_not_intro left), sound.flowing, sound.flight]
    rcases fillBuf_payload s.server s.shut s.hungUp sound.hungUp sound.fits with
      ⟨none, found⟩ | ⟨chunk, later, some, split, fits, found⟩
    · right
      have written := sound.written
      rw [left, none, List.append_nil, List.append_nil] at written
      refine ⟨written.symm, left, ?_⟩
      rw [found]
      cases s.shut <;> rfl
    · left
      rw [found]
      have next : Open { s with
          progress := .flowing, inFlight := payload later ++ closing s.shut,
          chunk := chunk } later := by
        refine ⟨sound.hungUp, rfl, fits, rfl, ?_, sound.data⟩
        have written := sound.written
        rwa [left, List.append_nil, split, ← List.append_assoc] at written
      exact ⟨_, later, rfl, next.take some, rfl, next.unread_take some room⟩
  · left
    rw [if_pos left]
    exact ⟨_, messages, rfl, Open.take sound left, rfl, Open.unread_take sound left room⟩

/-- After the close frame only the end of the stream is left. -/
theorem fillBuf_closed {server hungUp : Bool} {progress : Progress} {fill : Fill}
    (stopped : progress ≠ .flowing) (found : fillBuf server hungUp progress [] = some fill) :
    fill = ⟨.ok [], .ended, []⟩ := by
  cases progress with
  | flowing => exact absurd rfl stopped
  | closing =>
    obtain ⟨-, ⟨⟩⟩ := Option.ite_none_right_eq_some.mp found
    rfl
  | ended =>
    cases found
    rfl

theorem Closed.read {reads : List ReadResult} {capacity : Nat} (sound : Closed s reads)
    (moved : s.read capacity = some t) : Closed t reads := by
  obtain ⟨later, results⟩ := sound.results
  rw [State.read] at moved
  split at moved
  · cases moved
  · rw [if_neg (not_not_intro sound.chunk), sound.flight] at moved
    split at moved
    · cases moved
    · next fill found =>
      rw [fillBuf_closed sound.stopped found] at moved
      cases moved
      refine ⟨sound.shut, by simp [State.take], rfl, by simp [State.take],
        ⟨later ++ [.eof], ?_⟩, sound.data, sound.written⟩
      simp [State.take, results]

theorem Sound.start (server : Bool) : Sound (.start server) :=
  .inl ⟨[], by simp [State.start], rfl, by simp, rfl, rfl, by simp [State.start]⟩

theorem Sound.step (sound : Sound s) (fits : Fits s a) (moved : step s a = some t) :
    Sound t := by
  cases a with
  | write buf =>
    obtain ⟨shut, moved⟩ := Option.ite_none_left_eq_some.mp moved
    cases moved
    rcases sound with ⟨messages, sound⟩ | ⟨reads, sound⟩
    · refine .inl ⟨messages ++ [buf], sound.hungUp, sound.flowing, ?_, ?_, ?_, sound.data⟩
      · intro m member
        rcases List.mem_append.mp member with early | last
        · exact sound.fits m early
        · rw [List.mem_singleton.mp last]
          exact fits
      · simp [sound.flight, closing, shut, payload]
      · simp [sound.written]
    · exact absurd sound.shut shut
  | shutdown =>
    obtain ⟨shut, moved⟩ := Option.ite_none_left_eq_some.mp moved
    cases moved
    rcases sound with ⟨messages, sound⟩ | ⟨reads, sound⟩
    · refine .inl ⟨messages, fun _ => rfl, sound.flowing, sound.fits, ?_, sound.written,
        sound.data⟩
      simp [sound.flight, closing, shut]
    · exact absurd sound.shut shut
  | hangUp =>
    obtain ⟨shut, moved⟩ := Option.ite_none_right_eq_some.mp moved
    cases moved
    rcases sound with ⟨messages, sound⟩ | ⟨reads, sound⟩
    · exact .inl ⟨messages, fun _ => shut, sound.flowing, sound.fits, sound.flight, sound.written,
        sound.data⟩
    · exact .inr ⟨reads, sound.shut, sound.stopped, sound.flight, sound.chunk, sound.results,
        sound.data, sound.written⟩
  | read capacity =>
    change s.read capacity = some t at moved
    rcases sound with ⟨messages, sound⟩ | ⟨reads, sound⟩
    · have room : 0 < capacity := by
        apply Nat.pos_of_ne_zero
        intro none
        simp [State.read, none] at moved
      rcases sound.read room with ⟨u, later, read, next, -, -⟩ | ⟨written, chunk, read⟩
      · rw [read] at moved
        cases moved
        exact .inl ⟨later, next⟩
      · rw [read] at moved
        obtain ⟨shut, moved⟩ := Option.ite_none_right_eq_some.mp moved
        cases moved
        exact .inr ⟨s.results, shut, by simp [State.fail], rfl, chunk, ⟨[], rfl⟩, sound.data,
          written⟩
    · exact .inr ⟨reads, sound.read moved⟩

theorem sound_of_reach (reached : system.Reach Fits s) : Sound s := by
  apply reached.invariant
  · rintro s ⟨server, rfl⟩
    exact .start server
  · intro s a t fits moved sound
    exact sound.step fits moved

/-- Reads that are as many as the bytes left, and one more, get to the close frame. -/
theorem Sound.reads {capacities : List Nat} (sound : Sound s) (shut : s.shut = true)
    (room : ∀ capacity ∈ capacities, 0 < capacity) (enough : unread s < capacities.length) :
    ∃ n t reads, n ≤ capacities.length ∧
      system.Run Fits s ((capacities.take n).map .read) t ∧ Closed t reads := by
  induction capacities generalizing s with
  | nil => exact absurd enough (Nat.not_lt_zero _)
  | cons capacity capacities ih =>
    rcases sound with ⟨messages, sound⟩ | ⟨reads, sound⟩
    · rcases sound.read (room capacity List.mem_cons_self) with
        ⟨t, left, moved, next, same, fewer⟩ | ⟨written, chunk, moved⟩
      · have enough : unread t < capacities.length := by
          rw [List.length_cons] at enough
          omega
        obtain ⟨n, u, reads, bound, run, last⟩ := ih (.inl ⟨left, next⟩) (same.trans shut)
          (fun c member => room c (.tail _ member)) enough
        exact ⟨n + 1, u, reads, Nat.succ_le_succ bound, .cons (by exact trivial) moved run, last⟩
      · rw [if_pos shut] at moved
        have closed :
            Closed ({ s with progress := .closing, inFlight := [] }.fail "unexpected frame")
              s.results :=
          ⟨shut, by simp [State.fail], rfl, chunk, ⟨[], rfl⟩, sound.data, written⟩
        exact ⟨1, _, s.results, Nat.succ_le_succ (Nat.zero_le _),
          .cons (by exact trivial) moved (.nil _), closed⟩
    · exact ⟨0, s, reads, Nat.zero_le _, .nil s, sound⟩

theorem Closed.finished {reads : List ReadResult} (sound : Closed s reads) :
    Finished s reads (.error "unexpected frame") :=
  ⟨sound.shut, sound.results, sound.data, rfl⟩

theorem takeWhile_isData {reads later : List ReadResult} {last : ReadResult}
    (data : ∀ r ∈ reads, r.isData = true) (ends : last.isData = false) :
    (reads ++ last :: later).takeWhile ReadResult.isData = reads := by
  rw [List.takeWhile_append_of_pos data, List.takeWhile_cons_of_neg (by simp [ends]),
    List.append_nil]

theorem Finished.unique {reads reads' : List ReadResult} {last last' : ReadResult}
    (one : Finished s reads last) (two : Finished s reads' last') :
    reads = reads' ∧ last = last' := by
  obtain ⟨later, results⟩ := one.results
  obtain ⟨later', results'⟩ := two.results
  have both : reads ++ last :: later = reads' ++ last' :: later' := results.symm.trans results'
  have same := congrArg (List.takeWhile ReadResult.isData) both
  rw [takeWhile_isData one.data one.last, takeWhile_isData two.data two.last] at same
  rw [same, List.append_cancel_left_eq, List.cons.injEq] at both
  exact ⟨same, both.1⟩

theorem Sound.last (sound : Sound s) {reads : List ReadResult} {last : ReadResult}
    (finished : Finished s reads last) :
    bytesOf reads = s.written ∧ last = .error "unexpected frame" := by
  rcases sound with ⟨messages, sound⟩ | ⟨before, sound⟩
  · obtain ⟨later, results⟩ := finished.results
    have data := sound.data last (by rw [results]; simp)
    rw [finished.last] at data
    cases data
  · obtain ⟨same, error⟩ := finished.unique sound.finished
    exact ⟨same ▸ sound.written, error⟩

/-- Every way of reading on gets what was written and then the error, which the reads meet that
are one more than the bytes left; no run gets a clean end. -/
theorem close_frame_fails (reached : system.Reach Fits s) (shut : s.shut = true) :
    (∀ reads last, Finished s reads last →
      bytesOf reads = s.written ∧ last = .error "unexpected frame" ∧ ¬ CleanEnd s) ∧
    ∀ capacities : List Nat, (∀ capacity ∈ capacities, 0 < capacity) →
      unread s < capacities.length → ∃ n t, n ≤ capacities.length ∧
        system.Run Fits s ((capacities.take n).map .read) t ∧ ¬ CleanEnd t := by
  have sound := sound_of_reach reached
  constructor
  · intro reads last finished
    obtain ⟨written, error⟩ := sound.last finished
    refine ⟨written, error, fun clean => ?_⟩
    have eof := (clean reads last finished).2
    rw [error] at eof
    cases eof
  · intro capacities room enough
    obtain ⟨n, t, reads, bound, run, closed⟩ := sound.reads shut room enough
    refine ⟨n, t, bound, run, fun clean => ?_⟩
    have eof := (clean reads _ closed.finished).2
    cases eof

end Reading

/-- A client reads: two bytes and a close frame are on their way to it. -/
def twoBytes : State := ⟨false, true, false, .flowing, [.binary [1, 2], .close], [], [1, 2], []⟩

theorem reach_shutdown : system.Reach Fits twoBytes :=
  Transition.System.Reach.start (m := system) (s := .start false) ⟨false, rfl⟩
    |>.next (a := .write [1, 2]) (by simp [Fits, maxMessageSize]) rfl
    |>.next (a := .shutdown) (by exact trivial) rfl

theorem close_frame_fails_two_bytes :
    ∃ n t, n ≤ 3 ∧ system.Run Fits twoBytes (([1, 8, 8].take n).map .read) t ∧ ¬ CleanEnd t :=
  (close_frame_fails reach_shutdown rfl).2 [1, 8, 8] (by decide) (by decide)

theorem error_behind_two_bytes : ¬ ∀ s, system.Reach Fits s → CleanEnd s := by
  intro clean
  have read := reach_shutdown
    |>.next (a := .read 8) (by exact trivial) rfl
    |>.next (a := .read 8) (by exact trivial) rfl
  have last := clean _ read [.data [1, 2]] (.error "unexpected frame")
    ⟨rfl, ⟨[], rfl⟩, by simp [ReadResult.isData], rfl⟩
  cases last.2

end Rathole.Websocket
