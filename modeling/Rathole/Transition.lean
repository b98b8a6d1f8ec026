import Mathlib.Logic.Basic

set_option autoImplicit false

/- Labelled transition systems with a partial, executable step function. Every
choice of the environment and of the scheduler is part of the label. -/
namespace Transition

universe u v w

/-- `step state action` is `none` where the action is not enabled. -/
structure System (σ : Type u) (α : Type v) where
  init : σ → Prop
  step : σ → α → Option σ

namespace System

variable {σ : Type u} {α : Type v} {τ : Type w}

/-- Runs all of whose steps meet `ok`, a condition on the state before the step
and the action taken. -/
inductive Run (m : System σ α) (ok : σ → α → Prop) : σ → List α → σ → Prop
  | nil (s : σ) : Run m ok s [] s
  | cons {s t u : σ} {a : α} {as : List α} (allowed : ok s a)
      (moved : m.step s a = some t) (rest : Run m ok t as u) : Run m ok s (a :: as) u

/-- The condition every step meets. -/
def Free : σ → α → Prop := fun _ _ => True

def Reach (m : System σ α) (ok : σ → α → Prop) (s : σ) : Prop :=
  ∃ start as, m.init start ∧ m.Run ok start as s

abbrev Reachable (m : System σ α) (s : σ) : Prop := m.Reach Free s

/-- Run a whole schedule whose steps all pass a check; `none` once a step does
not, or is not enabled. -/
def exec (m : System σ α) (check : σ → α → Bool) : σ → List α → Option σ
  | s, [] => some s
  | s, a :: as => if check s a then (m.step s a).bind fun t => exec m check t as else none

variable {m : System σ α} {ok good : σ → α → Prop}

theorem Run.single {s t : σ} {a : α} (allowed : ok s a) (moved : m.step s a = some t) :
    m.Run ok s [a] t :=
  .cons allowed moved (.nil t)

theorem Run.append {s t u : σ} {as bs : List α} (first : m.Run ok s as t)
    (second : m.Run ok t bs u) : m.Run ok s (as ++ bs) u := by
  induction first with
  | nil => exact second
  | cons allowed moved _ ih => exact .cons allowed moved (ih second)

theorem Run.weaken {s t : σ} {as : List α} (run : m.Run ok s as t)
    (implied : ∀ s a, ok s a → good s a) : m.Run good s as t := by
  induction run with
  | nil => exact .nil _
  | cons allowed moved _ ih => exact .cons (implied _ _ allowed) moved ih

theorem Run.free {s t : σ} {as : List α} (run : m.Run ok s as t) : m.Run Free s as t :=
  run.weaken fun _ _ _ => trivial

theorem run_of_exec {check : σ → α → Bool} (implied : ∀ s a, check s a = true → ok s a)
    {s t : σ} {as : List α} (executed : m.exec check s as = some t) : m.Run ok s as t := by
  induction as generalizing s with
  | nil =>
    cases executed
    exact .nil _
  | cons a as ih =>
    obtain ⟨passed, executed⟩ := Option.ite_none_right_eq_some.mp executed
    obtain ⟨next, moved, rest⟩ := Option.bind_eq_some_iff.mp executed
    exact .cons (implied s a passed) moved (ih rest)

/-- A schedule leads to one state only. -/
theorem Run.exec {s t : σ} {as : List α} (run : m.Run ok s as t) :
    m.exec (fun _ _ => true) s as = some t := by
  induction run with
  | nil => rfl
  | cons allowed moved _ ih => rw [System.exec, if_pos rfl, moved, Option.bind_some, ih]

/-- A schedule that passes the check at every step and ends in a state with `p`. -/
theorem exists_reach {start : σ} (initial : m.init start) (as : List α) (p : σ → Bool)
    (check : σ → α → Bool) (implied : ∀ s a, check s a = true → ok s a)
    (executed : (m.exec check start as).any p = true) : ∃ s, m.Reach ok s ∧ p s = true := by
  obtain ⟨s, done, holds⟩ := (Option.any_eq_true _ _).mp executed
  exact ⟨s, ⟨start, as, initial, run_of_exec implied done⟩, holds⟩

theorem exists_reachable {start : σ} (initial : m.init start) (as : List α) (p : σ → Bool)
    (executed : (m.exec (fun _ _ => true) start as).any p = true) :
    ∃ s, m.Reachable s ∧ p s = true :=
  exists_reach initial as p _ (fun _ _ _ => trivial) executed

/-- What a step keeps, a run keeps. -/
theorem Run.invariant {I : σ → Prop}
    (keep : ∀ s a t, ok s a → m.step s a = some t → I s → I t)
    {s t : σ} {as : List α} (run : m.Run ok s as t) (base : I s) : I t := by
  induction run with
  | nil => exact base
  | cons allowed moved _ ih => exact ih (keep _ _ _ allowed moved base)

/-- The invariant rule for runs that remember their labels: `I` may speak of the steps
taken so far. -/
theorem Run.history {I : List α → σ → Prop} {start s : σ} {as : List α}
    (keep : ∀ as s a t, m.Run ok start as s → ok s a → m.step s a = some t → I as s →
      I (as ++ [a]) t)
    (run : m.Run ok start as s) (base : I [] start) : I as s := by
  have later : ∀ {u v : σ} {bs : List α}, m.Run ok u bs v → ∀ before, m.Run ok start before u →
      I before u → I (before ++ bs) v := by
    intro u v bs rest
    induction rest with
    | nil =>
      intro before _ holds
      rwa [List.append_nil]
    | @cons u w v a bs allowed moved _ ih =>
      intro before first holds
      have reached : m.Run ok start (before ++ [a]) w := first.append (.single allowed moved)
      have there := ih (before ++ [a]) reached (keep before u a w first allowed moved holds)
      rwa [List.append_assoc, List.singleton_append] at there
  exact later run [] (.nil start) base

/-- What holds of the label of every step that starts in the invariant holds of
every label of the run. -/
theorem Run.labels {I : σ → Prop} {L : α → Prop}
    (keep : ∀ s a t, ok s a → m.step s a = some t → I s → L a ∧ I t)
    {s t : σ} {as : List α} (run : m.Run ok s as t) (base : I s) : ∀ a ∈ as, L a := by
  induction run with
  | nil => intro a member; cases member
  | cons allowed moved _ ih =>
    obtain ⟨here, next⟩ := keep _ _ _ allowed moved base
    intro a member
    rcases List.mem_cons.mp member with rfl | member
    · exact here
    · exact ih next a member

theorem Reach.start {s : σ} (initial : m.init s) : m.Reach ok s :=
  ⟨s, [], initial, .nil s⟩

theorem Reach.run {s t : σ} {as : List α} (reached : m.Reach ok s) (run : m.Run ok s as t) :
    m.Reach ok t := by
  obtain ⟨start, before, initial, first⟩ := reached
  exact ⟨start, before ++ as, initial, first.append run⟩

theorem Reach.next {s t : σ} {a : α} (reached : m.Reach ok s) (allowed : ok s a)
    (moved : m.step s a = some t) : m.Reach ok t :=
  reached.run (.single allowed moved)

theorem Reach.weaken {s : σ} (reached : m.Reach ok s) (implied : ∀ s a, ok s a → good s a) :
    m.Reach good s := by
  obtain ⟨start, as, initial, run⟩ := reached
  exact ⟨start, as, initial, run.weaken implied⟩

theorem Reach.reachable {s : σ} (reached : m.Reach ok s) : m.Reachable s :=
  reached.weaken fun _ _ _ => trivial

/-- The invariant rule: what holds initially and is kept by every allowed step
holds in every state reached. -/
theorem Reach.invariant {I : σ → Prop} (base : ∀ s, m.init s → I s)
    (keep : ∀ s a t, ok s a → m.step s a = some t → I s → I t)
    {s : σ} (reached : m.Reach ok s) : I s := by
  obtain ⟨start, as, initial, run⟩ := reached
  exact run.invariant keep (base start initial)

/-- The invariant rule relative to a fact already known of every state reached. -/
theorem Reach.invariant_with {I K : σ → Prop} (known : ∀ s, m.Reach ok s → K s)
    (base : ∀ s, m.init s → I s)
    (keep : ∀ s a t, K s → K t → ok s a → m.step s a = some t → I s → I t)
    {s : σ} (reached : m.Reach ok s) : I s := by
  have both : m.Reach ok s ∧ I s := by
    refine Reach.invariant (I := fun s => m.Reach ok s ∧ I s)
      (fun s initial => ⟨.start initial, base s initial⟩) ?_ reached
    rintro s a t allowed moved ⟨here, holds⟩
    have there := here.next allowed moved
    exact ⟨there, keep s a t (known s here) (known t there) allowed moved holds⟩
  exact both.2

end System

end Transition
