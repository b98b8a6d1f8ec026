import Mathlib.Data.Finmap

set_option autoImplicit false

/- A bounded broadcast channel: every receiver reads the values sent after it
subscribed, and a value sent while nobody is subscribed is not stored. -/
namespace Broadcast

variable {ρ α : Type} [DecidableEq ρ]

/-- `cursors` maps each live receiver to the index of the next value it reads. -/
structure Channel (ρ α : Type) where
  capacity : Nat
  log : List α
  cursors : Finmap fun _ : ρ => Nat
  senders : Nat

inductive Received (α : Type)
  | value (v : α)
  | lagged
  | closed
  | empty
  deriving DecidableEq

namespace Channel

/-- A new channel with one sender, whose first receiver was dropped at once. -/
def new (capacity : Nat) : Channel ρ α := ⟨capacity, [], ∅, 1⟩

def clone (c : Channel ρ α) : Channel ρ α := { c with senders := c.senders + 1 }

def dropSender (c : Channel ρ α) : Channel ρ α := { c with senders := c.senders - 1 }

def subscribe (c : Channel ρ α) (r : ρ) : Channel ρ α :=
  { c with cursors := c.cursors.insert r c.log.length }

def dropReceiver (c : Channel ρ α) (r : ρ) : Channel ρ α :=
  { c with cursors := c.cursors.erase r }

/-- With no receiver, sending is an error and stores nothing. -/
def send (c : Channel ρ α) (v : α) : Channel ρ α :=
  if c.cursors = ∅ then c else { c with log := c.log ++ [v] }

/-- A receiver that fell behind by more than the capacity skips to the oldest
value still kept. -/
def recv (c : Channel ρ α) (r : ρ) : Received α × Channel ρ α :=
  match c.cursors.lookup r with
  | none => (.closed, c)
  | some i =>
    if c.capacity < c.log.length - i then
      (.lagged, { c with cursors := c.cursors.insert r (c.log.length - c.capacity) })
    else
      match c.log[i]? with
      | some v => (.value v, { c with cursors := c.cursors.insert r (i + 1) })
      | none => (if c.senders = 0 then .closed else .empty, c)

/-- The receiver has a value to read. -/
def Pending (c : Channel ρ α) (r : ρ) : Prop :=
  ∃ i, c.cursors.lookup r = some i ∧ i < c.log.length

def Closed (c : Channel ρ α) : Prop := c.senders = 0

theorem send_pending {c : Channel ρ α} {r : ρ} {i : Nat} (v : α)
    (subscribed : c.cursors.lookup r = some i) (bounded : i ≤ c.log.length) :
    (c.send v).Pending r := by
  have occupied : c.cursors ≠ ∅ := by
    intro vacant
    rw [vacant, Finmap.lookup_empty] at subscribed
    cases subscribed
  refine ⟨i, ?_, ?_⟩
  · simpa only [send, occupied, ↓reduceIte] using subscribed
  · simp only [send, occupied, ↓reduceIte, List.length_append, List.length_singleton]
    omega

@[simp] theorem send_cursors (c : Channel ρ α) (v : α) : (c.send v).cursors = c.cursors := by
  unfold send
  split <;> rfl

@[simp] theorem send_senders (c : Channel ρ α) (v : α) : (c.send v).senders = c.senders := by
  unfold send
  split <;> rfl

theorem send_log_length (c : Channel ρ α) (v : α) : c.log.length ≤ (c.send v).log.length := by
  unfold send
  split
  · exact Nat.le_refl _
  · simp

/-- A value sent before the subscription is not pending after it. -/
theorem subscribe_not_pending (c : Channel ρ α) (r : ρ) : ¬ (c.subscribe r).Pending r := by
  rintro ⟨i, found, below⟩
  simp only [subscribe, Finmap.lookup_insert, Option.some.injEq] at found below
  omega

theorem not_pending_of_vacant {c : Channel ρ α} (r : ρ) (vacant : c.cursors = ∅) :
    ¬ c.Pending r := by
  rintro ⟨i, found, -⟩
  rw [vacant, Finmap.lookup_empty] at found
  cases found

theorem recv_empty_iff {c : Channel ρ α} {r : ρ} :
    (c.recv r).1 = .empty ↔
      (∃ i, c.cursors.lookup r = some i ∧ c.log.length ≤ i) ∧ ¬ c.Closed := by
  unfold recv Closed
  cases found : c.cursors.lookup r with
  | none => simp
  | some i =>
    simp only [Option.some.injEq, exists_eq_left']
    split
    · next behind => simp; omega
    · cases stored : c.log[i]? with
      | none =>
        have past := List.getElem?_eq_none_iff.mp stored
        by_cases closed : c.senders = 0 <;> simp [closed, past]
      | some v =>
        have inside := (List.getElem?_eq_some_iff.mp stored).1
        simp; omega

end Channel

end Broadcast
