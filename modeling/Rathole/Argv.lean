import Mathlib.Data.List.Basic

set_option autoImplicit false

/- How a Windows program splits its command line into arguments, after the program name: the rules
of CommandLineToArgvW. -/
namespace Argv

/-- An argument that is being read, and the backslashes whose meaning the next character decides. -/
structure Word where
  read : List Char
  quoted : Bool
  backslashes : Nat

def Word.start : Word := ⟨[], false, 0⟩

def slashes (n : Nat) : List Char := List.replicate n '\\'

/-- Backslashes in front of a quote are read in pairs, and one without a partner takes the quote.
In front of anything else they stand for themselves. -/
def Word.feed (w : Word) (c : Char) : Word :=
  if c = '\\' then { w with backslashes := w.backslashes + 1 }
  else if c = '"' then
    let read := w.read ++ slashes (w.backslashes / 2)
    if w.backslashes % 2 = 0 then ⟨read, !w.quoted, 0⟩ else ⟨read ++ ['"'], w.quoted, 0⟩
  else ⟨w.read ++ slashes w.backslashes ++ [c], w.quoted, 0⟩

def Word.close (w : Word) : List Char := w.read ++ slashes w.backslashes

def blank (c : Char) : Bool := c = ' ' ∨ c = '\t'

/-- The arguments in a text, given the argument that the text begins in. -/
def split : Option Word → List Char → List (List Char)
  | none, [] => []
  | some w, [] => [w.close]
  | none, c :: cs => if blank c then split none cs else split (some (Word.start.feed c)) cs
  | some w, c :: cs =>
    if blank c ∧ w.quoted = false then w.close :: split none cs else split (some (w.feed c)) cs

section Laws

variable {w : Word} {c : Char} {cs rest read : List Char}

/-- What may follow a whole argument. -/
def Ends (rest : List Char) : Prop := rest = [] ∨ ∃ more, rest = ' ' :: more

theorem Ends.blank {more : List Char} : Ends (' ' :: more) := .inr ⟨more, rfl⟩

@[simp] theorem slashes_zero : slashes 0 = [] := rfl

@[simp] theorem slashes_one : slashes 1 = ['\\'] := rfl

theorem slashes_succ (n : Nat) : slashes (n + 1) = '\\' :: slashes n := rfl

theorem slashes_add (m n : Nat) : slashes (m + n) = slashes m ++ slashes n := by
  unfold slashes
  exact List.replicate_add ..

@[simp] theorem feed_backslash (w : Word) :
    w.feed '\\' = { w with backslashes := w.backslashes + 1 } := if_pos rfl

theorem feed_other (backslash : c ≠ '\\') (quote : c ≠ '"') :
    w.feed c = ⟨w.read ++ slashes w.backslashes ++ [c], w.quoted, 0⟩ := by
  simp [Word.feed, backslash, quote]

theorem feed_quote_even {n : Nat} (even : w.backslashes = 2 * n) :
    w.feed '"' = ⟨w.read ++ slashes n, !w.quoted, 0⟩ := by
  have half : 2 * n / 2 = n := by omega
  have pairs : 2 * n % 2 = 0 := by omega
  simp [Word.feed, even, half, pairs]

theorem feed_quote_odd {n : Nat} (odd : w.backslashes = 2 * n + 1) :
    w.feed '"' = ⟨w.read ++ slashes n ++ ['"'], w.quoted, 0⟩ := by
  have half : (2 * n + 1) / 2 = n := by omega
  simp [Word.feed, odd, half]

theorem split_feed (inside : blank c = false ∨ w.quoted = true) :
    split (some w) (c :: cs) = split (some (w.feed c)) cs := by
  have stays : ¬ (blank c = true ∧ w.quoted = false) := by
    rcases inside with plain | quoted
    · simp [plain]
    · simp [quoted]
  simp [split, stays]

theorem split_slashes (n : Nat) (w : Word) :
    split (some w) (slashes n ++ rest) =
      split (some { w with backslashes := w.backslashes + n }) rest := by
  induction n generalizing w with
  | zero => rfl
  | succ n ih =>
    rw [slashes_succ, List.cons_append, split_feed (.inl rfl), feed_backslash, ih]
    simp only [Nat.add_assoc, Nat.add_comm 1 n]

theorem split_none (plain : blank c = false) :
    split none (c :: cs) = split (some .start) (c :: cs) := by
  rw [split_feed (.inl plain)]
  simp [split, plain]

/-- A text without blanks and quotes belongs to the argument it stands in. -/
theorem split_plain (plain : ∀ c ∈ cs, blank c = false ∧ c ≠ '"') (ends : Ends rest)
    (open_ : w.quoted = false) :
    split (some w) (cs ++ rest) = (w.close ++ cs) :: split none rest := by
  induction cs generalizing w with
  | nil =>
    rcases ends with rfl | ⟨more, rfl⟩
    · simp [split]
    · simp [split, blank, open_]
  | cons c cs ih =>
    have here := plain c List.mem_cons_self
    have below := fun c member => plain c (List.mem_cons_of_mem _ member)
    rw [List.cons_append, split_feed (.inl here.1)]
    by_cases backslash : c = '\\'
    · have after := ih (w := w.feed c) below (by rw [backslash]; exact open_)
      rw [after, backslash, feed_backslash]
      simp [Word.close, slashes_add]
    · have fed := feed_other (w := w) backslash here.2
      have after := ih (w := w.feed c) below (by rw [fed]; exact open_)
      rw [after, fed]
      simp [Word.close]

end Laws

end Argv
