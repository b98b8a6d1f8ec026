import Mathlib.Logic.Basic

set_option autoImplicit false

/- Programs over a state that stop at their first error and keep what they have done until then,
with the rules of their pre- and postconditions. -/
namespace Fallible

def Program (σ E A : Type) := σ → Except E A × σ

variable {σ E A B : Type}

instance : Monad (Program σ E) where
  pure a s := (.ok a, s)
  bind x f s :=
    match x s with
    | (.ok a, t) => f a t
    | (.error e, t) => (.error e, t)

namespace Program

/-- A computation that does not see the state. -/
def lift (x : Except E A) : Program σ E A := fun s => (x, s)

def state : Program σ E σ := fun s => (.ok s, s)

def modify (f : σ → σ) : Program σ E Unit := fun s => (.ok (), f s)

/-- `undo` cleans up after an error, which is reported as `report` says. -/
def orElse (x : Program σ E A) (undo : σ → σ) (report : E → σ → E) : Program σ E A := fun s =>
  match x s with
  | (.ok a, t) => (.ok a, t)
  | (.error e, t) => (.error (report e t), undo t)

/-- From `s` the program ends in `done`, or with an error in `failed`. -/
def Ensures (x : Program σ E A) (s : σ) (done : A → σ → Prop) (failed : σ → Prop) : Prop :=
  match x s with
  | (.ok a, t) => done a t
  | (.error _, t) => failed t

variable {x : Program σ E A} {s t : σ} {done : A → σ → Prop} {failed : σ → Prop}

theorem bind_ok {f : A → Program σ E B} {a : A} (ran : x s = (.ok a, t)) :
    (x >>= f) s = f a t := by
  show (match x s with
    | (.ok a, t) => f a t
    | (.error e, t) => (.error e, t)) = _
  rw [ran]

theorem bind_error {f : A → Program σ E B} {e : E} (ran : x s = (.error e, t)) :
    (x >>= f) s = (.error e, t) := by
  show (match x s with
    | (.ok a, t) => f a t
    | (.error e, t) => (.error e, t)) = _
  rw [ran]

theorem orElse_ok {undo : σ → σ} {report : E → σ → E} {a : A} (ran : x s = (.ok a, t)) :
    (x.orElse undo report) s = (.ok a, t) := by
  unfold orElse
  rw [ran]

theorem Ensures.ok (ensures : x.Ensures s done failed) {a : A} (ran : x s = (.ok a, t)) :
    done a t := by
  unfold Ensures at ensures
  rw [ran] at ensures
  exact ensures

theorem Ensures.error (ensures : x.Ensures s done failed) {e : E} (ran : x s = (.error e, t)) :
    failed t := by
  unfold Ensures at ensures
  rw [ran] at ensures
  exact ensures

theorem ensures_of {done : A → σ → Prop} {failed : σ → Prop}
    (ok : ∀ a t, x s = (.ok a, t) → done a t) (error : ∀ e t, x s = (.error e, t) → failed t) :
    x.Ensures s done failed := by
  unfold Ensures
  cases ran : x s with
  | mk result t =>
    cases result with
    | ok a => exact ok a t ran
    | error e => exact error e t ran

theorem ensures_pure {a : A} (holds : done a s) :
    (pure a : Program σ E A).Ensures s done failed := holds

theorem ensures_lift {y : Except E A} (ok : ∀ a, y = .ok a → done a s) (error : failed s) :
    (lift y : Program σ E A).Ensures s done failed := by
  cases y with
  | ok a => exact ok a rfl
  | error e => exact error

theorem ensures_state {done : σ → σ → Prop} (holds : done s s) :
    (state : Program σ E σ).Ensures s done failed := holds

theorem ensures_modify {f : σ → σ} {done : Unit → σ → Prop} (holds : done () (f s)) :
    (modify f : Program σ E Unit).Ensures s done failed := holds

/-- The rule of a sequence, with `middle` between its two halves. -/
theorem ensures_bind {f : A → Program σ E B} {done : B → σ → Prop} (middle : A → σ → Prop)
    (first : x.Ensures s middle failed)
    (rest : ∀ a t, middle a t → (f a).Ensures t done failed) :
    (x >>= f).Ensures s done failed := by
  apply ensures_of
  · intro b u ran
    cases halfway : x s with
    | mk result t =>
      cases result with
      | ok a =>
        rw [bind_ok halfway] at ran
        exact (rest a t (first.ok halfway)).ok ran
      | error e =>
        rw [bind_error halfway] at ran
        cases ran
  · intro e u ran
    cases halfway : x s with
    | mk result t =>
      cases result with
      | ok a =>
        rw [bind_ok halfway] at ran
        exact (rest a t (first.ok halfway)).error ran
      | error e' =>
        rw [bind_error halfway] at ran
        cases ran
        exact first.error halfway

theorem ensures_orElse {undo : σ → σ} {report : E → σ → E} (halfway : σ → Prop)
    (ensures : x.Ensures s done halfway) (undone : ∀ t, halfway t → failed (undo t)) :
    (x.orElse undo report).Ensures s done failed := by
  unfold Ensures orElse
  cases ran : x s with
  | mk result t =>
    cases result with
    | ok a => exact ensures.ok ran
    | error e => exact undone t (ensures.error ran)

/-- What holds at the end in either case. -/
theorem Ensures.either {P : σ → Prop} (ensures : x.Ensures s (fun _ => P) P) : P (x s).2 := by
  cases ran : x s with
  | mk result t =>
    cases result with
    | ok a => exact ensures.ok ran
    | error e => exact ensures.error ran

/-- A program that only looks leaves the state alone. -/
def Looks (x : Program σ E A) : Prop := ∀ s, (x s).2 = s

theorem looks_pure (a : A) : Looks (pure a : Program σ E A) := fun _ => rfl

theorem looks_lift (y : Except E A) : Looks (lift y : Program σ E A) := fun _ => rfl

theorem looks_state : Looks (state : Program σ E σ) := fun _ => rfl

theorem Looks.bind {f : A → Program σ E B} (first : x.Looks) (rest : ∀ a, (f a).Looks) :
    (x >>= f).Looks := by
  intro s
  have same := first s
  cases ran : x s with
  | mk result t =>
    rw [ran] at same
    cases same
    cases result with
    | ok a =>
      rw [bind_ok ran]
      exact rest a t
    | error e => rw [bind_error ran]

theorem Looks.ensures (looks : x.Looks) (ok : ∀ a, x s = (.ok a, s) → done a s)
    (error : failed s) : x.Ensures s done failed := by
  apply ensures_of
  · intro a t ran
    have same := looks s
    rw [ran] at same
    cases same
    exact ok a ran
  · intro e t ran
    have same := looks s
    rw [ran] at same
    cases same
    exact error

end Program

end Fallible
