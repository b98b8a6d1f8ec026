import Mathlib.Tactic.Ring
import Mathlib.Data.List.Basic

set_option autoImplicit false

/- Fixed-width little-endian numbers in a list of bytes, and how many bytes a reader
takes off its front. -/
namespace Bytes

def leBytes : Nat → Nat → List UInt8
  | 0, _ => []
  | width + 1, value => UInt8.ofNat value :: leBytes width (value / 256)

def ofLeBytes : List UInt8 → Nat
  | [] => 0
  | byte :: rest => byte.toNat + 256 * ofLeBytes rest

@[simp] theorem length_leBytes (width value : Nat) : (leBytes width value).length = width := by
  induction width generalizing value with
  | zero => rfl
  | succ width ih => rw [leBytes, List.length_cons, ih]

/-- A number that is too wide loses its high bytes. -/
theorem ofLeBytes_leBytes (width value : Nat) :
    ofLeBytes (leBytes width value) = value % 256 ^ width := by
  induction width generalizing value with
  | zero => simp [leBytes, ofLeBytes, Nat.mod_one]
  | succ width ih =>
    have byte : (UInt8.ofNat value).toNat = value % 256 := UInt8.toNat_ofNat'
    rw [leBytes, ofLeBytes, ih, byte, pow_succ' 256 width, Nat.mod_mul (a := 256)]

theorem ofLeBytes_of_lt {width value : Nat} (fits : value < 256 ^ width) :
    ofLeBytes (leBytes width value) = value := by
  rw [ofLeBytes_leBytes, Nat.mod_eq_of_lt fits]

theorem leBytes_ofLeBytes (bytes : List UInt8) :
    leBytes bytes.length (ofLeBytes bytes) = bytes := by
  induction bytes with
  | nil => rfl
  | cons byte rest ih =>
    have small := byte.toNat_lt
    have low : UInt8.ofNat (byte.toNat + 256 * ofLeBytes rest) = byte := by
      apply UInt8.toNat_inj.mp
      rw [UInt8.toNat_ofNat']
      omega
    have high : (byte.toNat + 256 * ofLeBytes rest) / 256 = ofLeBytes rest := by omega
    rw [List.length_cons, ofLeBytes, leBytes, low, high, ih]

/-- The first `count` bytes and those behind them. -/
def split (count : Nat) (bytes : List UInt8) : Option (List UInt8 × List UInt8) :=
  if count ≤ bytes.length then some (bytes.take count, bytes.drop count) else none

theorem split_append {count : Nat} {front rest : List UInt8} (width : front.length = count) :
    split count (front ++ rest) = some (front, rest) := by
  subst width
  simp [split]

theorem split_spec {count : Nat} {bytes front rest : List UInt8}
    (taken : split count bytes = some (front, rest)) :
    bytes = front ++ rest ∧ front.length = count := by
  obtain ⟨enough, ⟨⟩⟩ := Option.ite_none_right_eq_some.mp taken
  exact ⟨(List.take_append_drop _ _).symm, List.length_take_of_le enough⟩

/-- What follows on the stream does not change what was there to take. -/
theorem split_extend {count : Nat} {bytes front rest : List UInt8}
    (taken : split count bytes = some (front, rest)) (more : List UInt8) :
    split count (bytes ++ more) = some (front, rest ++ more) := by
  obtain ⟨rfl, width⟩ := split_spec taken
  rw [List.append_assoc, split_append width]

end Bytes
