import Mathlib.Data.List.Basic

set_option autoImplicit false

/- Computations that stop at their first error and leave a trace, and when nothing in the trace
is of some kind. -/
namespace Traced

structure Flow (W E A : Type) where
  result : Except E A
  trace : List W

variable {W E A B : Type}

instance : Monad (Flow W E) where
  pure a := ⟨.ok a, []⟩
  bind x f :=
    match x.result with
    | .ok a => ⟨(f a).result, x.trace ++ (f a).trace⟩
    | .error e => ⟨.error e, x.trace⟩

namespace Flow

def fail (e : E) : Flow W E A := ⟨.error e, []⟩

def emit (w : W) : Flow W E Unit := ⟨.ok (), [w]⟩

/-- The result as a value. -/
def attempt (x : Flow W E A) : Flow W E (Except E A) := ⟨.ok x.result, x.trace⟩

/-- The same computation with another trace. -/
def mapTrace {W' : Type} (g : W → W') (x : Flow W E A) : Flow W' E A := ⟨x.result, x.trace.map g⟩

/-- The same computation with another kind of error. -/
def mapError {E' : Type} (g : E → E') (x : Flow W E A) : Flow W E' A :=
  ⟨x.result.mapError g, x.trace⟩

variable {x : Flow W E A} {f : A → Flow W E B} {noise : W → Prop}

theorem bind_ok {a : A} (ran : x.result = .ok a) :
    x >>= f = ⟨(f a).result, x.trace ++ (f a).trace⟩ := by
  show (match x.result with
    | .ok a => (⟨(f a).result, x.trace ++ (f a).trace⟩ : Flow W E B)
    | .error e => ⟨.error e, x.trace⟩) = _
  rw [ran]

theorem bind_error {e : E} (ran : x.result = .error e) : x >>= f = ⟨.error e, x.trace⟩ := by
  show (match x.result with
    | .ok a => (⟨(f a).result, x.trace ++ (f a).trace⟩ : Flow W E B)
    | .error e => ⟨.error e, x.trace⟩) = _
  rw [ran]

@[simp] theorem result_pure (a : A) : (pure a : Flow W E A).result = .ok a := rfl

@[simp] theorem result_fail (e : E) : (fail e : Flow W E A).result = .error e := rfl

@[simp] theorem result_emit (w : W) : (emit w : Flow W E Unit).result = .ok () := rfl

@[simp] theorem result_mapTrace {W' : Type} (g : W → W') : (x.mapTrace g).result = x.result := rfl

@[simp] theorem result_mapError_ok {E' : Type} (g : E → E') {a : A} :
    (x.mapError g).result = .ok a ↔ x.result = .ok a := by
  unfold mapError
  cases x.result <;> simp [Except.mapError]

@[simp] theorem result_attempt : x.attempt.result = .ok x.result := rfl

/-- A sequence succeeds when both halves do. -/
@[simp] theorem result_bind_ok {b : B} : (x >>= f).result = .ok b ↔
    ∃ a, x.result = .ok a ∧ (f a).result = .ok b := by
  cases ran : x.result with
  | ok a => simp [bind_ok ran]
  | error e => simp [bind_error ran]

/-- Nothing in the trace is noise. -/
def Silent (noise : W → Prop) (x : Flow W E A) : Prop := ∀ w ∈ x.trace, ¬ noise w

@[simp] theorem silent_pure (a : A) : Silent noise (pure a : Flow W E A) ↔ True :=
  iff_true_intro fun _ member => absurd member List.not_mem_nil

@[simp] theorem silent_fail (e : E) : Silent noise (fail e : Flow W E A) ↔ True :=
  iff_true_intro fun _ member => absurd member List.not_mem_nil

@[simp] theorem silent_emit (w : W) : Silent noise (emit w : Flow W E Unit) ↔ ¬ noise w := by
  simp [Silent, emit]

@[simp] theorem silent_attempt : Silent noise x.attempt ↔ Silent noise x := Iff.rfl

@[simp] theorem silent_mapTrace {W' : Type} {loud : W' → Prop} (g : W → W') :
    Silent loud (x.mapTrace g) ↔ Silent (fun w => loud (g w)) x := by
  simp [Silent, mapTrace]

@[simp] theorem silent_mapError {E' : Type} (g : E → E') :
    Silent noise (x.mapError g) ↔ Silent noise x := Iff.rfl

/-- A sequence is silent when its first half is, and the second whenever it is reached. -/
@[simp] theorem silent_bind : Silent noise (x >>= f) ↔
    Silent noise x ∧ ∀ a, x.result = .ok a → Silent noise (f a) := by
  cases ran : x.result with
  | ok a =>
    simp only [Silent, bind_ok ran, List.mem_append, Except.ok.injEq]
    constructor
    · intro quiet
      refine ⟨fun w member => quiet w (Or.inl member), ?_⟩
      rintro b rfl w member
      exact quiet w (Or.inr member)
    · rintro ⟨first, rest⟩ w (member | member)
      · exact first w member
      · exact rest a rfl w member
  | error e => simp [Silent, bind_error ran]

@[simp] theorem result_ite_ok {c : Prop} [Decidable c] {y : Flow W E A} {a : A} :
    (if c then x else y).result = .ok a ↔
      (c → x.result = .ok a) ∧ (¬ c → y.result = .ok a) := by
  split <;> simp [*]

@[simp] theorem silent_ite {c : Prop} [Decidable c] {y : Flow W E A} :
    Silent noise (if c then x else y) ↔ (c → Silent noise x) ∧ (¬ c → Silent noise y) := by
  split <;> simp [*]

end Flow

end Traced
