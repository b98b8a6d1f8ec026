import Rathole.Relay

set_option autoImplicit false

/- One direction of a visitor's connection, through the server, a data channel and the client. A
message stands on the data channel in front of the data. -/
namespace Rathole.TcpTunnel

open Relay (Pipe Copy Move hop)

/-- One direction: the pipe of the one who sends, the copy in front of the data channel, the
channel, the copy behind it and the pipe of the one who receives. `sent` is all that was sent, and
`unread` counts the bytes of the handshake on the channel. -/
structure Direction where
  sent : List UInt8
  first : Pipe UInt8
  front : Copy UInt8
  channel : Pipe UInt8
  unread : Nat
  back : Copy UInt8
  last : Pipe UInt8
  deriving DecidableEq

namespace Direction

def fresh : Direction := ⟨[], .fresh, .fresh, .fresh, 0, .fresh, .fresh⟩

variable (d : Direction)

def send (items : List UInt8) : Option Direction :=
  if d.first.ended = false then
    some { d with
      sent := d.sent ++ items
      first := { d.first with items := d.first.items ++ items } }
  else none

def finish : Option Direction :=
  if d.first.ended = false then some { d with first := { d.first with ended := true } } else none

/-- Bytes of the handshake are written. -/
def put (bytes : List UInt8) : Direction :=
  { d with
    channel := { d.channel with items := d.channel.items ++ bytes }
    unread := d.unread + bytes.length }

/-- The handshake is read, and `rest` is left on the channel. -/
def take (rest : List UInt8) : Direction :=
  { d with
    channel := { d.channel with items := rest }
    unread := d.unread - (d.channel.items.length - rest.length) }

def moveFront (m : Move) : Option Direction :=
  (hop m d.first d.front d.channel).map fun (p, c, q) =>
    { d with first := p, front := c, channel := q }

def moveBack (m : Move) : Option Direction :=
  (hop m d.channel d.back d.last).map fun (p, c, q) =>
    { d with channel := p, back := c, last := q }

/-- Another data channel, before anything went over this one. -/
def renew : Direction := { fresh with sent := d.sent, first := d.first }

end Direction

/-- The side of the channel that writes the message. -/
inductive Writer
  | writing (left : List UInt8)
  | written
  | gone

inductive Reader
  | reading | read | gone
  deriving DecidableEq

/-- The channel without what is left of the message. -/
def Direction.pipe (d : Direction) : Pipe UInt8 :=
  { d.channel with items := d.channel.items.drop d.unread }

def Direction.line (d : Direction) : List (Copy UInt8 × Pipe UInt8) :=
  [(d.front, d.pipe), (d.back, d.last)]

/-- The message stands in front of all data, as far as it is written. -/
structure Shaken (msg : List UInt8) (w : Writer) (r : Reader) (d : Direction) : Prop where
  bound : d.unread ≤ d.channel.items.length
  reading : r = .reading → d.unread ≤ msg.length ∧
    d.channel.items.take d.unread = msg.take d.unread ∧
    (d.unread < msg.length → d.channel.items.length = d.unread)
  writing : ∀ left, w = .writing left → left ≠ [] ∧ r ≠ .read ∧
    (r = .reading → left = msg.drop d.unread) ∧ d.channel.items.length = d.unread ∧
    d.front.held = [] ∧ d.back.held = [] ∧ d.last.items = []
  written : w = .written → r = .reading → d.unread = msg.length
  read : r = .read → d.unread = 0

/-- All that was sent is on the way, behind what is left of the message. -/
structure Direction.Sound (msg : List UInt8) (w : Writer) (r : Reader) (d : Direction) : Prop where
  shaken : Shaken msg w r d
  line : Relay.Sound d.first d.line
  content : Relay.content d.first d.line = d.sent

section Steps

variable {msg : List UInt8} {w : Writer} {r : Reader} {d e : Direction} {m : Move}

theorem Direction.Sound.fresh (some_ : msg ≠ []) :
    Direction.Sound msg (.writing msg) .reading .fresh := by
  refine ⟨⟨Nat.le_refl 0, fun _ => ⟨Nat.zero_le _, rfl, fun _ => rfl⟩, ?_, by simp, by simp⟩, ?_,
    rfl⟩
  · rintro left ⟨⟩
    exact ⟨some_, by simp, fun _ => rfl, rfl, rfl, rfl, rfl⟩
  · simp [Relay.Sound, Direction.line, Direction.fresh, Direction.pipe, Copy.fresh, Pipe.fresh]

/-- The message is on the channel, whatever stands in front of it. -/
theorem Shaken.first (shaken : Shaken msg w r d) (sent : List UInt8) (first : Pipe UInt8) :
    Shaken msg w r { d with sent := sent, first := first } :=
  ⟨shaken.bound, shaken.reading, shaken.writing, shaken.written, shaken.read⟩

theorem Direction.Sound.send {items : List UInt8} (sound : d.Sound msg w r)
    (sent : d.send items = some e) : e.Sound msg w r := by
  obtain ⟨open_, ⟨⟩⟩ := Option.ite_none_right_eq_some.mp sent
  obtain ⟨saw, later⟩ := sound.line
  refine ⟨sound.shaken.first _ _, ⟨fun seen => ?_, later⟩, ?_⟩
  · rw [(saw seen).2] at open_
    cases open_
  · have content := sound.content
    rw [Relay.content_split] at content ⊢
    change _ ++ (d.first.items ++ items) = d.sent ++ items
    rw [← content, List.append_assoc]
    rfl

theorem Direction.Sound.finish (sound : d.Sound msg w r) (finished : d.finish = some e) :
    e.Sound msg w r := by
  obtain ⟨-, ⟨⟩⟩ := Option.ite_none_right_eq_some.mp finished
  obtain ⟨saw, later⟩ := sound.line
  exact ⟨sound.shaken.first _ _, ⟨fun seen => ⟨(saw seen).1, rfl⟩, later⟩, sound.content⟩

/-- What is written of the message does not change what is on the way. -/
theorem line_put (before : d.channel.items.length = d.unread) (bytes : List UInt8) :
    (d.put bytes).line = d.line := by
  have old : d.channel.items.drop d.unread = [] := List.drop_eq_nil_iff.mpr (Nat.le_of_eq before)
  have new : (d.channel.items ++ bytes).drop (d.unread + bytes.length) = [] :=
    List.drop_eq_nil_iff.mpr (by rw [List.length_append, before])
  simp only [Direction.line, Direction.pipe, Direction.put, old, new]

theorem Direction.Sound.put {left : List UInt8} {count : Nat}
    (sound : d.Sound msg (.writing left) r) (bound : count ≤ left.length) :
    (d.put (left.take count)).Sound msg
      (if left.drop count = [] then .written else .writing (left.drop count)) r := by
  obtain ⟨-, unread, rest, before, front, back, last⟩ := sound.shaken.writing left rfl
  have same := line_put before (left.take count)
  have length : (left.take count).length = count := List.length_take_of_le bound
  have whole : (d.channel.items ++ left.take count).length = d.unread + count := by
    rw [List.length_append, before, length]
  refine ⟨⟨?_, ?_, ?_, ?_, fun read => absurd read unread⟩, ?_, ?_⟩
  · exact Nat.le_of_eq (by simp only [Direction.put, length, whole])
  · intro reading
    obtain ⟨short, taken, -⟩ := sound.shaken.reading reading
    have left_ := rest reading
    have total : left.length = msg.length - d.unread := by rw [left_, List.length_drop]
    have items : d.channel.items = msg.take d.unread := by
      rw [← taken, List.take_of_length_le (Nat.le_of_eq before)]
    refine ⟨?_, ?_, fun _ => by simp only [Direction.put, length, whole]⟩
    · simp only [Direction.put, length]
      omega
    · simp only [Direction.put, length]
      rw [List.take_of_length_le (Nat.le_of_eq whole), items, left_, List.take_add]
  · intro more writing
    split at writing
    · cases writing
    · next some_ =>
      cases writing
      refine ⟨some_, unread, fun reading => ?_, by simp only [Direction.put, length, whole], front,
        back, last⟩
      simp only [Direction.put, length]
      rw [rest reading, List.drop_drop]
  · intro written reading
    split at written
    · next nothing =>
      have left_ := rest reading
      have total : left.length = msg.length - d.unread := by rw [left_, List.length_drop]
      have short := (sound.shaken.reading reading).1
      have all := List.drop_eq_nil_iff.mp nothing
      simp only [Direction.put, length]
      omega
    · cases written
  · rw [same]
    exact sound.line
  · rw [same]
    exact sound.content

/-- A reader that has all bytes of a message has the message. -/
theorem Direction.Sound.take {front rest : List UInt8} (sound : d.Sound msg w .reading)
    (stream : d.channel.items = front ++ rest) (width : front.length = msg.length) :
    front = msg ∧ (d.take rest).line = d.line ∧ (d.take rest).Sound msg w .read := by
  obtain ⟨short, taken, before⟩ := sound.shaken.reading rfl
  have bound := sound.shaken.bound
  have length := congrArg List.length stream
  rw [List.length_append] at length
  have all : d.unread = msg.length := by
    by_contra other
    have behind := before (by omega)
    omega
  have message : front = msg := by
    rw [all, List.take_length, stream, ← width, List.take_left] at taken
    exact taken
  have nothing : d.unread - (d.channel.items.length - rest.length) = 0 := by omega
  have same : (d.take rest).line = d.line := by
    have left : d.channel.items.drop d.unread = rest := by
      rw [all, stream, ← width, List.drop_left]
    simp only [Direction.line, Direction.pipe, Direction.take, nothing, left, List.drop_zero]
  have none_ : (d.take rest).unread = 0 := nothing
  refine ⟨message, same, ⟨by simp [none_], by simp, ?_, by simp, fun _ => none_⟩, ?_, ?_⟩
  · rintro left rfl
    obtain ⟨some_, -, rest_, -⟩ := sound.shaken.writing left rfl
    exact absurd (rest_ rfl) (by simpa [all] using some_)
  · rw [same]
    exact sound.line
  · rw [same]
    exact sound.content

/-- What stands in the pipe behind a relay is not touched. -/
theorem hop_behind {p p' q q' : Pipe UInt8} {c c' : Copy UInt8} {count : Nat}
    (bound : count ≤ q.items.length) (moved : hop m p c q = some (p', c', q')) :
    hop m p c { q with items := q.items.drop count } =
      some (p', c', { q' with items := q'.items.drop count }) := by
  cases m with
  | write count' =>
    obtain ⟨enabled, ⟨⟩⟩ := Option.ite_none_right_eq_some.mp moved
    rw [hop, if_pos enabled, List.drop_append_of_le_length bound]
  | read _ | readEnd | shutdown =>
    obtain ⟨enabled, ⟨⟩⟩ := Option.ite_none_right_eq_some.mp moved
    rw [hop, if_pos enabled]
  | fail =>
    cases moved
    rfl

/-- What a move of the copy in front of the channel changes. -/
theorem line_moveFront (bound : d.unread ≤ d.channel.items.length)
    (moved : d.moveFront m = some e) :
    Relay.stepAt 0 m d.first d.line = some (e.first, e.line) ∧ e.sent = d.sent ∧
      e.unread = d.unread ∧ e.back = d.back ∧ e.last = d.last ∧
      ∃ more, e.channel.items = d.channel.items ++ more := by
  obtain ⟨⟨p, c, q⟩, done, rfl⟩ := Option.map_eq_some_iff.mp moved
  obtain ⟨more, arrived, -⟩ := (Relay.moved_of_hop done).arrived
  refine ⟨?_, rfl, rfl, rfl, rfl, more, arrived⟩
  rw [Direction.line, Relay.stepAt, Direction.pipe, hop_behind bound done]
  rfl

/-- The copy behind the channel moves data only once the message is read. -/
theorem line_moveBack (clear : d.unread = 0 ∨ m = .fail) (moved : d.moveBack m = some e) :
    Relay.stepAt 1 m d.first d.line = some (e.first, e.line) ∧ e.sent = d.sent ∧
      e.unread = d.unread ∧ e.first = d.first ∧ e.front = d.front := by
  obtain ⟨⟨p, c, q⟩, done, rfl⟩ := Option.map_eq_some_iff.mp moved
  refine ⟨?_, rfl, rfl, rfl, rfl⟩
  rcases clear with nothing | rfl
  · have whole : d.pipe = d.channel := by simp [Direction.pipe, nothing]
    rw [Direction.line, Relay.stepAt, Relay.stepAt, whole, done]
    simp [Direction.line, Direction.pipe, nothing]
  · cases done
    rfl

theorem Direction.Sound.moveFront (sound : d.Sound msg .written r)
    (moved : d.moveFront m = some e) : e.Sound msg .written r := by
  obtain ⟨step, sent, unread, -, -, more, items⟩ := line_moveFront sound.shaken.bound moved
  have bound := sound.shaken.bound
  refine ⟨⟨?_, fun reading => ?_, by simp, fun _ reading => ?_, fun read => ?_⟩,
    Relay.sound_stepAt sound.line step, ?_⟩
  · rw [unread, items, List.length_append]
    omega
  · obtain ⟨short, taken, -⟩ := sound.shaken.reading reading
    have all := sound.shaken.written rfl reading
    rw [unread, items, List.take_append_of_le_length bound]
    exact ⟨short, taken, fun less => absurd all (Nat.ne_of_lt less)⟩
  · rw [unread]
    exact sound.shaken.written rfl reading
  · rw [unread]
    exact sound.shaken.read read
  · rw [Relay.content_stepAt step, sound.content, sent]

theorem Direction.Sound.moveBack (sound : d.Sound msg w .read) (written : ∀ left, w ≠ .writing left)
    (moved : d.moveBack m = some e) : e.Sound msg w .read := by
  have nothing := sound.shaken.read rfl
  obtain ⟨step, sent, unread, -, -⟩ := line_moveBack (.inl nothing) moved
  refine ⟨⟨?_, by simp, fun left writing => absurd writing (written left), by simp, fun _ => ?_⟩,
    Relay.sound_stepAt sound.line step, ?_⟩
  · rw [unread, nothing]
    exact Nat.zero_le _
  · rw [unread, nothing]
  · rw [Relay.content_stepAt step, sound.content, sent]

theorem Direction.Sound.failFront (sound : d.Sound msg w r) (moved : d.moveFront .fail = some e) :
    e.Sound msg .gone r := by
  have step := (line_moveFront sound.shaken.bound moved).1
  have line := Relay.sound_stepAt sound.line step
  have content := Relay.content_stepAt step
  cases moved
  exact ⟨⟨sound.shaken.bound, sound.shaken.reading, by simp, by simp, sound.shaken.read⟩, line,
    content.trans sound.content⟩

theorem Direction.Sound.failBack (sound : d.Sound msg w r) (moved : d.moveBack .fail = some e) :
    e.Sound msg w .gone := by
  have step := (line_moveBack (.inr rfl) moved).1
  have line := Relay.sound_stepAt sound.line step
  have content := Relay.content_stepAt step
  cases moved
  refine ⟨⟨sound.shaken.bound, by simp, fun left writing => ?_, by simp, by simp⟩, line,
    content.trans sound.content⟩
  obtain ⟨some_, -, -, rest⟩ := sound.shaken.writing left writing
  exact ⟨some_, by simp, by simp, rest⟩

/-- A channel that is given up before anything went over it leaves the visitor's data where it
is. -/
theorem Direction.Sound.renew {left : List UInt8} (some_ : msg ≠ [])
    (sound : d.Sound msg (.writing left) r) : d.renew.Sound msg (.writing msg) .reading := by
  obtain ⟨-, -, -, before, front, back, last⟩ := sound.shaken.writing left rfl
  have empty : d.pipe.items = [] := List.drop_eq_nil_iff.mpr (Nat.le_of_eq before)
  have content := sound.content
  simp only [Direction.line, Relay.content, front, back, last, empty, List.append_nil,
    List.nil_append] at content
  have fresh := (Direction.Sound.fresh some_).shaken.first d.sent d.first
  refine ⟨fresh, ?_, ?_⟩
  · simp [Relay.Sound, Direction.line, Direction.renew, Direction.fresh, Direction.pipe, Copy.fresh,
      Pipe.fresh]
  · refine Eq.trans ?_ content
    simp [Relay.content, Direction.line, Direction.renew, Direction.fresh, Direction.pipe,
      Copy.fresh, Pipe.fresh]

end Steps

end Rathole.TcpTunnel
