import Mathlib.Data.Option.Basic

set_option autoImplicit false

/- Machines that read a list one item at a time, write as they go, and can refuse. -/
namespace Transduce

section Runs

variable {S I O : Type}

/-- A run over the input: the state it ends in and what it has written. -/
def run (step : S → I → Option (S × List O)) (s : S) : List I → Option (S × List O)
  | [] => some (s, [])
  | i :: rest => do
    let first ← step s i
    let more ← run step first.1 rest
    some (more.1, first.2 ++ more.2)

variable {step : S → I → Option (S × List O)} {s t : S} {i : I} {a b : List I} {out : List O}

@[simp] theorem run_nil (s : S) : run step s [] = some (s, []) := rfl

theorem run_cons (reads : step s i = some (t, out)) :
    run step s (i :: a) = (run step t a).map fun more => (more.1, out ++ more.2) := by
  rw [run, reads, Option.bind_eq_bind, Option.bind_some]
  cases run step t a <;> rfl

theorem run_refused (refuses : step s i = none) : run step s (i :: a) = none := by
  rw [run, refuses]
  rfl

theorem run_append (s : S) (a b : List I) :
    run step s (a ++ b) = (run step s a).bind fun first =>
      (run step first.1 b).map fun more => (more.1, first.2 ++ more.2) := by
  induction a generalizing s with
  | nil =>
    simp only [List.nil_append, run_nil, Option.bind_some]
    cases run step s b <;> rfl
  | cons i a ih =>
    cases reads : step s i with
    | none =>
      rw [List.cons_append, run_refused reads, run_refused reads]
      rfl
    | some one =>
      rw [List.cons_append, run_cons reads, run_cons reads, ih]
      cases run step one.1 a with
      | none => rfl
      | some first =>
        simp only [Option.bind_some, Option.map_some]
        cases run step first.1 b <;> simp

theorem run_append_of (reads : run step s a = some (t, out)) :
    run step s (a ++ b) = (run step t b).map fun more => (more.1, out ++ more.2) := by
  rw [run_append, reads]
  rfl

end Runs

end Transduce
