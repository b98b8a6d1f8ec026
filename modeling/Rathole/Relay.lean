import Mathlib.Data.List.Basic
import Mathlib.Tactic.Ring

set_option autoImplicit false

/- A line of relays. Each copies what it reads from the pipe in front of it to the pipe behind it,
in pieces of any length, and passes the end on once everything is written. -/
namespace Relay

universe u

variable {α : Type u}

/-- One direction of a connection. `ended` is set once the writer has shut it down. -/
structure Pipe (α : Type u) where
  items : List α
  ended : Bool
  deriving DecidableEq

/-- What a relay has read and not yet written, whether it has read the end, and whether it writes
no more. -/
structure Copy (α : Type u) where
  held : List α
  sawEnd : Bool
  done : Bool
  deriving DecidableEq

def Pipe.fresh : Pipe α := ⟨[], false⟩

def Copy.fresh : Copy α := ⟨[], false, false⟩

inductive Move
  | read (count : Nat)
  | readEnd
  | write (count : Nat)
  | shutdown
  /-- an error, after which both sides are dropped -/
  | fail
  deriving DecidableEq

/-- A move of the relay between two pipes. -/
def hop (m : Move) (p : Pipe α) (c : Copy α) (q : Pipe α) : Option (Pipe α × Copy α × Pipe α) :=
  match m with
  | .read count =>
    if 0 < count ∧ count ≤ p.items.length ∧ c.sawEnd = false ∧ c.done = false then
      some ({ p with items := p.items.drop count },
        { c with held := c.held ++ p.items.take count }, q)
    else none
  | .readEnd =>
    if p.items = [] ∧ p.ended = true ∧ c.sawEnd = false ∧ c.done = false then
      some (p, { c with sawEnd := true }, q)
    else none
  | .write count =>
    if 0 < count ∧ count ≤ c.held.length ∧ c.done = false then
      some (p, { c with held := c.held.drop count },
        { q with items := q.items ++ c.held.take count })
    else none
  | .shutdown =>
    if c.held = [] ∧ c.sawEnd = true ∧ c.done = false then
      some (p, { c with done := true }, { q with ended := true })
    else none
  | .fail => some (p, { c with done := true }, { q with ended := true })

/-- A move of the relay at some place of the line. -/
def stepAt : Nat → Move → Pipe α → List (Copy α × Pipe α) →
    Option (Pipe α × List (Copy α × Pipe α))
  | 0, m, p, (c, q) :: rest => (hop m p c q).map fun (p, c, q) => (p, (c, q) :: rest)
  | k + 1, m, p, (c, q) :: rest => (stepAt k m q rest).map fun (q, rest) => (p, (c, q) :: rest)
  | _, _, _, [] => none

/-- What is on the line, the oldest in front. -/
def content : Pipe α → List (Copy α × Pipe α) → List α
  | p, [] => p.items
  | p, (c, q) :: rest => content q rest ++ c.held ++ p.items

def last : Pipe α → List (Copy α × Pipe α) → Pipe α
  | p, [] => p
  | _, (_, q) :: rest => last q rest

/-- The end is read once there is nothing in front of it, and a pipe ends with its relay. -/
def Sound : Pipe α → List (Copy α × Pipe α) → Prop
  | _, [] => True
  | p, (c, q) :: rest =>
    (c.sawEnd = true → p.items = [] ∧ p.ended = true) ∧ q.ended = c.done ∧ Sound q rest

/-- No relay has failed. -/
def Clean : List (Copy α × Pipe α) → Prop
  | [] => True
  | (c, _) :: rest => (c.done = true → c.sawEnd = true ∧ c.held = []) ∧ Clean rest

/-- What the line has left to do. -/
def work : Pipe α → List (Copy α × Pipe α) → Nat
  | _, [] => 0
  | p, (c, q) :: rest =>
    2 * (rest.length + 1) * p.items.length + (2 * rest.length + 1) * c.held.length +
      (!c.sawEnd).toNat + (!c.done).toNat + work q rest

section Hop

variable {m : Move} {p p' q q' : Pipe α} {c c' : Copy α}

/-- What a move does to what stands around the relay. -/
structure Moved (m : Move) (p : Pipe α) (c : Copy α) (q p' : Pipe α) (c' : Copy α)
    (q' : Pipe α) : Prop where
  content : q'.items ++ c'.held ++ p'.items = q.items ++ c.held ++ p.items
  arrived : ∃ more, q'.items = q.items ++ more ∧ (c.done = true → more = [])
  left : p'.items <:+ p.items
  front : p'.ended = p.ended
  sound : (c.sawEnd = true → p.items = [] ∧ p.ended = true) →
    c'.sawEnd = true → p'.items = [] ∧ p'.ended = true
  ended : q.ended = c.done → q'.ended = c'.done
  kept : c.done = true → c'.done = true
  clean : m ≠ .fail → (c.done = true → c.sawEnd = true ∧ c.held = []) →
    c'.done = true → c'.sawEnd = true ∧ c'.held = []

theorem moved_of_hop (moved : hop m p c q = some (p', c', q')) : Moved m p c q p' c' q' := by
  cases m with
  | read count =>
    obtain ⟨⟨-, -, open_, running⟩, ⟨⟩⟩ := Option.ite_none_right_eq_some.mp moved
    refine ⟨?_, ⟨[], by simp⟩, List.drop_suffix _ _, rfl, ?_, id, id, ?_⟩
    · simp [List.append_assoc]
    · intro _ saw
      exact absurd saw (by simp [open_])
    · intro _ _ done
      exact absurd done (by simp [running])
  | readEnd =>
    obtain ⟨⟨nothing, ended, -, running⟩, ⟨⟩⟩ := Option.ite_none_right_eq_some.mp moved
    refine ⟨rfl, ⟨[], by simp⟩, List.suffix_refl _, rfl, fun _ _ => ⟨nothing, ended⟩, id, id, ?_⟩
    intro _ _ done
    exact absurd done (by simp [running])
  | write count =>
    obtain ⟨⟨-, -, running⟩, ⟨⟩⟩ := Option.ite_none_right_eq_some.mp moved
    refine ⟨?_, ⟨c.held.take count, rfl, ?_⟩, List.suffix_refl _, rfl, id, id, id, ?_⟩
    · simp [List.append_assoc, List.take_append_drop]
    · intro done
      exact absurd done (by simp [running])
    · intro _ _ done
      exact absurd done (by simp [running])
  | shutdown =>
    obtain ⟨⟨nothing, saw, -⟩, ⟨⟩⟩ := Option.ite_none_right_eq_some.mp moved
    exact ⟨rfl, ⟨[], by simp⟩, List.suffix_refl _, rfl, id, fun _ => rfl, fun _ => rfl,
      fun _ _ _ => ⟨saw, nothing⟩⟩
  | fail =>
    cases moved
    exact ⟨rfl, ⟨[], by simp⟩, List.suffix_refl _, rfl, id, fun _ => rfl, fun _ => rfl,
      fun other => absurd rfl other⟩

/-- A move that is no failure leaves less to do: `left` is the number of relays behind. -/
theorem work_of_hop (left : Nat) (noFailure : m ≠ .fail)
    (moved : hop m p c q = some (p', c', q')) :
    2 * (left + 1) * p'.items.length + (2 * left + 1) * c'.held.length + (!c'.sawEnd).toNat +
        (!c'.done).toNat + 2 * left * q'.items.length <
      2 * (left + 1) * p.items.length + (2 * left + 1) * c.held.length + (!c.sawEnd).toNat +
        (!c.done).toNat + 2 * left * q.items.length := by
  cases m with
  | read count =>
    obtain ⟨⟨some_, bound, -, -⟩, ⟨⟩⟩ := Option.ite_none_right_eq_some.mp moved
    have taken := List.length_take_of_le bound
    have total : (p.items.drop count).length + count = p.items.length := by simp [bound]
    dsimp only
    rw [List.length_append, taken, ← total]
    ring_nf
    omega
  | readEnd =>
    obtain ⟨⟨-, -, open_, -⟩, ⟨⟩⟩ := Option.ite_none_right_eq_some.mp moved
    simp only [open_, Bool.not_false, Bool.not_true, Bool.toNat_true, Bool.toNat_false]
    omega
  | write count =>
    obtain ⟨⟨some_, bound, -⟩, ⟨⟩⟩ := Option.ite_none_right_eq_some.mp moved
    have taken := List.length_take_of_le bound
    have total : (c.held.drop count).length + count = c.held.length := by simp [bound]
    dsimp only
    rw [List.length_append, taken, ← total]
    ring_nf
    omega
  | shutdown =>
    obtain ⟨⟨-, -, running⟩, ⟨⟩⟩ := Option.ite_none_right_eq_some.mp moved
    simp only [running, Bool.not_false, Bool.not_true, Bool.toNat_true, Bool.toNat_false]
    omega
  | fail => exact absurd rfl noFailure

end Hop

section Line

variable {k : Nat} {m : Move} {p p' q : Pipe α} {c : Copy α} {hops hops' : List (Copy α × Pipe α)}

/-- The first pipe loses items at its front, or nothing. -/
theorem front_stepAt (moved : stepAt k m p hops = some (p', hops')) :
    p'.ended = p.ended ∧ p'.items <:+ p.items ∧ hops'.length = hops.length := by
  induction k generalizing p hops p' hops' with
  | zero =>
    cases hops with
    | nil => cases moved
    | cons first rest =>
      obtain ⟨c, q⟩ := first
      obtain ⟨⟨p₁, c₁, q₁⟩, done, ⟨⟩⟩ := Option.map_eq_some_iff.mp moved
      have step := moved_of_hop done
      exact ⟨step.front, step.left, rfl⟩
  | succ k ih =>
    cases hops with
    | nil => cases moved
    | cons first rest =>
      obtain ⟨c, q⟩ := first
      obtain ⟨⟨q₁, rest₁⟩, done, ⟨⟩⟩ := Option.map_eq_some_iff.mp moved
      obtain ⟨-, -, length⟩ := ih done
      exact ⟨rfl, List.suffix_refl _, by rw [List.length_cons, List.length_cons, length]⟩

theorem content_cons (p q : Pipe α) (c : Copy α) (rest : List (Copy α × Pipe α)) :
    content p ((c, q) :: rest) = content q rest ++ c.held ++ p.items := rfl

/-- The items of the pipe in front come last. -/
theorem content_split (p : Pipe α) (hops : List (Copy α × Pipe α)) :
    content p hops = content .fresh hops ++ p.items := by
  cases hops with
  | nil => rfl
  | cons first rest =>
    obtain ⟨c, q⟩ := first
    simp [content_cons, Pipe.fresh]

/-- Nothing is lost on the line, doubled or swapped. -/
theorem content_stepAt (moved : stepAt k m p hops = some (p', hops')) :
    content p' hops' = content p hops := by
  induction k generalizing p hops p' hops' with
  | zero =>
    cases hops with
    | nil => cases moved
    | cons first rest =>
      obtain ⟨c, q⟩ := first
      obtain ⟨⟨p₁, c₁, q₁⟩, done, ⟨⟩⟩ := Option.map_eq_some_iff.mp moved
      have step := (moved_of_hop done).content
      rw [content_cons, content_cons, content_split q₁, content_split q, List.append_assoc,
        List.append_assoc, ← List.append_assoc q₁.items, step]
      simp only [List.append_assoc]
  | succ k ih =>
    cases hops with
    | nil => cases moved
    | cons first rest =>
      obtain ⟨c, q⟩ := first
      obtain ⟨⟨q₁, rest₁⟩, done, ⟨⟩⟩ := Option.map_eq_some_iff.mp moved
      rw [content_cons, content_cons, ih done]

/-- What has reached the end of the line is the front of what is on it. -/
theorem last_prefix (p : Pipe α) (hops : List (Copy α × Pipe α)) :
    (last p hops).items <+: content p hops := by
  induction hops generalizing p with
  | nil => exact List.prefix_refl _
  | cons first rest ih =>
    obtain ⟨c, q⟩ := first
    rw [last, content_cons, List.append_assoc]
    exact (ih q).trans (List.prefix_append _ _)

theorem sound_grow {q q' : Pipe α} (sound : Sound q hops) (open_ : q.ended = true → q'.ended = true)
    (more : q.ended = true → q.items = [] → q'.items = []) : Sound q' hops := by
  cases hops with
  | nil => trivial
  | cons first rest =>
    obtain ⟨c, r⟩ := first
    obtain ⟨saw, others⟩ := sound
    refine ⟨fun here => ?_, others⟩
    obtain ⟨nothing, ended⟩ := saw here
    exact ⟨more ended nothing, open_ ended⟩

theorem sound_stepAt (sound : Sound p hops) (moved : stepAt k m p hops = some (p', hops')) :
    Sound p' hops' := by
  induction k generalizing p hops p' hops' with
  | zero =>
    cases hops with
    | nil => cases moved
    | cons first rest =>
      obtain ⟨c, q⟩ := first
      obtain ⟨⟨p₁, c₁, q₁⟩, done, ⟨⟩⟩ := Option.map_eq_some_iff.mp moved
      obtain ⟨saw, ended, later⟩ := sound
      have step := moved_of_hop done
      refine ⟨step.sound saw, step.ended ended, sound_grow later (fun closed => ?_) ?_⟩
      · rw [step.ended ended]
        exact step.kept (ended.symm.trans closed)
      · intro closed nothing
        obtain ⟨more, items, none_⟩ := step.arrived
        rw [items, nothing, none_ (ended.symm.trans closed), List.append_nil]
  | succ k ih =>
    cases hops with
    | nil => cases moved
    | cons first rest =>
      obtain ⟨c, q⟩ := first
      obtain ⟨⟨q₁, rest₁⟩, done, ⟨⟩⟩ := Option.map_eq_some_iff.mp moved
      obtain ⟨saw, ended, later⟩ := sound
      exact ⟨saw, (front_stepAt done).1.trans ended, ih later done⟩

theorem clean_stepAt (noFailure : m ≠ .fail) (clean : Clean hops)
    (moved : stepAt k m p hops = some (p', hops')) : Clean hops' := by
  induction k generalizing p hops p' hops' with
  | zero =>
    cases hops with
    | nil => cases moved
    | cons first rest =>
      obtain ⟨c, q⟩ := first
      obtain ⟨⟨p₁, c₁, q₁⟩, done, ⟨⟩⟩ := Option.map_eq_some_iff.mp moved
      exact ⟨(moved_of_hop done).clean noFailure clean.1, clean.2⟩
  | succ k ih =>
    cases hops with
    | nil => cases moved
    | cons first rest =>
      obtain ⟨c, q⟩ := first
      obtain ⟨⟨q₁, rest₁⟩, done, ⟨⟩⟩ := Option.map_eq_some_iff.mp moved
      exact ⟨clean.1, ih clean.2 done⟩

/-- The work behind a pipe, with that of its own items. -/
theorem work_eq (p : Pipe α) (hops : List (Copy α × Pipe α)) :
    work p hops = 2 * hops.length * p.items.length + work .fresh hops := by
  cases hops with
  | nil => simp [work]
  | cons first rest =>
    obtain ⟨c, q⟩ := first
    simp only [work, Pipe.fresh, List.length_cons, List.length_nil, Nat.mul_zero]
    omega

theorem work_stepAt (noFailure : m ≠ .fail) (moved : stepAt k m p hops = some (p', hops')) :
    work p' hops' < work p hops := by
  induction k generalizing p hops p' hops' with
  | zero =>
    cases hops with
    | nil => cases moved
    | cons first rest =>
      obtain ⟨c, q⟩ := first
      obtain ⟨⟨p₁, c₁, q₁⟩, done, ⟨⟩⟩ := Option.map_eq_some_iff.mp moved
      have less := work_of_hop rest.length noFailure done
      rw [work, work, work_eq q₁, work_eq q]
      omega
  | succ k ih =>
    cases hops with
    | nil => cases moved
    | cons first rest =>
      obtain ⟨c, q⟩ := first
      obtain ⟨⟨q₁, rest₁⟩, done, ⟨⟩⟩ := Option.map_eq_some_iff.mp moved
      have less := ih done
      rw [work, work, (front_stepAt done).2.2]
      omega

/-- The end reaches the end of the line behind everything that was sent. -/
theorem last_of_ended (sound : Sound p hops) (clean : Clean hops)
    (ended : (last p hops).ended = true) :
    p.ended = true ∧ (last p hops).items = content p hops := by
  induction hops generalizing p with
  | nil => exact ⟨ended, rfl⟩
  | cons first rest ih =>
    obtain ⟨c, q⟩ := first
    obtain ⟨saw, same, later⟩ := sound
    obtain ⟨closed, all⟩ := ih later clean.2 ended
    obtain ⟨seen, nothing⟩ := clean.1 (same.symm.trans closed)
    obtain ⟨taken, front⟩ := saw seen
    refine ⟨front, ?_⟩
    rw [content_cons, nothing, taken, List.append_nil, List.append_nil]
    exact all

/-- A line on which no relay can move has delivered everything, the end included. -/
theorem last_of_stuck (sound : Sound p hops) (clean : Clean hops)
    (stuck : ∀ k m, m ≠ .fail → stepAt k m p hops = none) :
    (last p hops).items = content p hops ∧ (p.ended = true → (last p hops).ended = true) := by
  induction hops generalizing p with
  | nil => exact ⟨rfl, id⟩
  | cons first rest ih =>
    obtain ⟨c, q⟩ := first
    obtain ⟨saw, same, later⟩ := sound
    have here : ∀ m, m ≠ .fail → hop m p c q = none := fun m other =>
      Option.map_eq_none_iff.mp (stuck 0 m other)
    obtain ⟨all, closes⟩ := ih later clean.2 fun k m other =>
      Option.map_eq_none_iff.mp (stuck (k + 1) m other)
    have settled : c.held = [] ∧ p.items = [] ∧ (p.ended = true → q.ended = true) := by
      cases done : c.done with
      | true =>
        obtain ⟨seen, nothing⟩ := clean.1 done
        exact ⟨nothing, (saw seen).1, fun _ => same.trans done⟩
      | false =>
        have nothing : c.held = [] := by
          by_contra some_
          have write := here (.write c.held.length) (by simp)
          simp [hop, List.length_pos_iff, some_, done] at write
        have open_ : c.sawEnd = false := by
          by_contra seen
          have shut := here .shutdown (by simp)
          simp [hop, nothing, done, seen] at shut
        have taken : p.items = [] := by
          by_contra some_
          have read := here (.read p.items.length) (by simp)
          simp [hop, List.length_pos_iff, some_, done, open_] at read
        refine ⟨nothing, taken, fun ended => ?_⟩
        have readEnd := here .readEnd (by simp)
        simp [hop, taken, ended, open_, done] at readEnd
    obtain ⟨nothing, taken, ends⟩ := settled
    refine ⟨?_, fun ended => closes (ends ended)⟩
    rw [content_cons, nothing, taken, List.append_nil, List.append_nil]
    exact all

end Line

end Relay
