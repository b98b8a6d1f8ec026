import Mathlib.Logic.Function.Basic

set_option autoImplicit false

/- Programs over files whose operations may fail, and what an observer sees of one of the files
at any moment. Directories are no part of the state. -/
namespace Disk

structure Fault where
  notFound : Bool
  message : String

def Fault.missing : Fault := ⟨true, "No such file or directory (os error 2)"⟩

def Fault.directory : Fault := ⟨false, "Is a directory (os error 21)"⟩

/-- How an operation goes. A write that fails has left `written` bytes in the file, or has not
opened it. -/
inductive Outcome
  | done
  | fails (fault : Fault) (written : Option Nat)

/-- The files between two steps, and the file that a step has just replaced. -/
structure Moment (P B : Type) where
  files : P → Option (List B)
  replaced : Option P

structure State (P B : Type) where
  files : P → Option (List B)
  past : List (Moment P B)
  outcomes : Nat → Outcome

/-- A program stops at its first error. -/
def Program (P B E A : Type) := State P B → Except E A × State P B

variable {P B E A A' : Type}

namespace State

def outcome (s : State P B) : Outcome := s.outcomes 0

/-- The state after an operation that passes through these moments. -/
def pass (s : State P B) (moments : List (Moment P B)) (files : P → Option (List B)) :
    State P B where
  files := files
  past := s.past ++ moments
  outcomes n := s.outcomes (n + 1)

/-- The state after an operation that changes nothing. -/
def skip (s : State P B) : State P B := s.pass [] s.files

@[simp] theorem files_pass (s : State P B) (moments : List (Moment P B))
    (files : P → Option (List B)) : (s.pass moments files).files = files := rfl

@[simp] theorem past_pass (s : State P B) (moments : List (Moment P B))
    (files : P → Option (List B)) : (s.pass moments files).past = s.past ++ moments := rfl

@[simp] theorem files_skip (s : State P B) : s.skip.files = s.files := rfl

@[simp] theorem past_skip (s : State P B) : s.skip.past = s.past := List.append_nil _

end State

instance : Monad (Program P B E) where
  pure a s := (.ok a, s)
  bind x f s :=
    match x s with
    | (.ok a, t) => f a t
    | (.error e, t) => (.error e, t)

/-- A computation that sees no file. -/
def Program.lift (x : Except E A) : Program P B E A := fun s => (x, s)

instance : MonadLift (Except E) (Program P B E) where
  monadLift := Program.lift

/-- The result of a program as a value. -/
def Program.attempt (x : Program P B E A) : Program P B E (Except E A) := fun s =>
  (.ok (x s).1, (x s).2)

def Program.mapError (x : Program P B E A) (f : E → E) : Program P B E A := fun s =>
  ((x s).1.mapError f, (x s).2)

theorem bind_ok {x : Program P B E A} {f : A → Program P B E A'} {s t : State P B} {a : A}
    (ran : x s = (.ok a, t)) : (x >>= f) s = f a t := by
  show (match x s with
    | (.ok a, t) => f a t
    | (.error e, t) => (.error e, t)) = _
  rw [ran]

theorem bind_error {x : Program P B E A} {f : A → Program P B E A'} {s t : State P B} {e : E}
    (ran : x s = (.error e, t)) : (x >>= f) s = (.error e, t) := by
  show (match x s with
    | (.ok a, t) => f a t
    | (.error e, t) => (.error e, t)) = _
  rw [ran]

/-- A program that has succeeded has succeeded in both of its parts. -/
theorem bind_inv {x : Program P B E A} {f : A → Program P B E A'} {s t : State P B} {b : A'}
    (ran : (x >>= f) s = (.ok b, t)) : ∃ a u, x s = (.ok a, u) ∧ f a u = (.ok b, t) := by
  cases first : x s with
  | mk result u =>
    cases result with
    | ok a => exact ⟨a, u, rfl, (bind_ok first).symm.trans ran⟩
    | error e => cases (bind_error first).symm.trans ran

theorem mapError_ok {x : Program P B E A} {f : E → E} {s t : State P B} {a : A}
    (ran : x.mapError f s = (.ok a, t)) : x s = (.ok a, t) := by
  cases first : x s with
  | mk result u =>
    have same : ((result.mapError f, u) : Except E A × State P B) = (.ok a, t) := by
      rw [← ran, Program.mapError, first]
    cases result with
    | ok b =>
      cases same
      rfl
    | error e => cases same

theorem lift_ok {y : Except E A} {s t : State P B} {a : A}
    (ran : (Program.lift y : Program P B E A) s = (.ok a, t)) : y = .ok a ∧ t = s := by
  cases y with
  | ok b =>
    cases ran
    exact ⟨rfl, rfl⟩
  | error e => cases ran

section Operations

variable [DecidableEq P]

/-- A file whose metadata cannot be read is taken for missing. -/
def fileExists (p : P) : Program P B E Bool := fun s =>
  match s.outcome with
  | .done => (.ok (s.files p).isSome, s.skip)
  | .fails _ _ => (.ok false, s.skip)

def contentOf : Option A → Except Fault A
  | some content => .ok content
  | none => .error .missing

def read (p : P) : Program P B E (Except Fault (List B)) := fun s =>
  match s.outcome with
  | .done => (.ok (contentOf (s.files p)), s.skip)
  | .fails fault _ => (.ok (.error fault), s.skip)

def createDirAll : Program P B E (Except Fault Unit) := fun s =>
  match s.outcome with
  | .done => (.ok (.ok ()), s.skip)
  | .fails fault _ => (.ok (.error fault), s.skip)

/-- A write empties the file, and then the bytes arrive one after the other. -/
def arriving (files : P → Option (List B)) (p : P) (content : List B) : List (Moment P B) :=
  (List.range (content.length + 1)).map fun n =>
    ⟨Function.update files p (some (content.take n)), none⟩

/-- What `names` refuses is no place for a file. -/
def write (names : P → Bool) (p : P) (content : List B) :
    Program P B E (Except Fault Unit) := fun s =>
  if names p then
    match s.outcome with
    | .done => (.ok (.ok ()),
        s.pass (arriving s.files p content) (Function.update s.files p (some content)))
    | .fails fault none => (.ok (.error fault), s.skip)
    | .fails fault (some n) => (.ok (.error fault), s.pass (arriving s.files p (content.take n))
        (Function.update s.files p (some (content.take n))))
  else (.ok (.error .directory), s.skip)

def setPermissions (p : P) : Program P B E (Except Fault Unit) := fun s =>
  match s.outcome, s.files p with
  | .done, some _ => (.ok (.ok ()), s.skip)
  | .done, none => (.ok (.error .missing), s.skip)
  | .fails fault _, _ => (.ok (.error fault), s.skip)

/-- The files when `source` has taken the place of `target`. -/
def moved (files : P → Option (List B)) (source target : P) (content : List B) :
    P → Option (List B) :=
  Function.update (Function.update files source none) target (some content)

/-- A rename happens at once or not at all. -/
def rename (source target : P) : Program P B E (Except Fault Unit) := fun s =>
  match s.outcome, s.files source with
  | .done, some content => (.ok (.ok ()),
      s.pass [⟨moved s.files source target content, some target⟩]
        (moved s.files source target content))
  | .done, none => (.ok (.error .missing), s.skip)
  | .fails fault _, _ => (.ok (.error fault), s.skip)

/-- A rename over a file that is there. -/
def replace (source target : P) : Program P B E (Except Fault Unit) := fun s =>
  match s.files target with
  | some _ => rename source target s
  | none => (.ok (.error .missing), s.skip)

/-- A replacement that fails with a fault of `loses` has already taken the target away. -/
def replaceLosing (loses : Fault → Bool) (source target : P) : Program P B E (Except Fault Unit) :=
  fun s =>
    match s.files target with
    | some _ =>
      match s.outcome with
      | .done => rename source target s
      | .fails fault _ =>
        if !fault.notFound && loses fault then (.ok (.error fault),
          s.pass [⟨Function.update s.files target none, none⟩] (Function.update s.files target none))
        else (.ok (.error fault), s.skip)
    | none => (.ok (.error .missing), s.skip)

def remove (p : P) : Program P B E (Except Fault Unit) := fun s =>
  match s.outcome, s.files p with
  | .done, some _ => (.ok (.ok ()),
      s.pass [⟨Function.update s.files p none, none⟩] (Function.update s.files p none))
  | .done, none => (.ok (.error .missing), s.skip)
  | .fails fault _, _ => (.ok (.error fault), s.skip)

/-- The program with an error in place of a fault. -/
def orFail (x : Program P B E (Except Fault A)) (error : Fault → E) : Program P B E A := do
  match ← x with
  | .ok a => pure a
  | .error fault => .lift (.error (error fault))

/-- What follows a fault. -/
def recover (x : Program P B E (Except Fault A))
    (failed : Fault → Program P B E (Except Fault A)) : Program P B E (Except Fault A) := do
  match ← x with
  | .ok a => pure (.ok a)
  | .error fault => failed fault

end Operations

section Observed

variable {p q : P} {s t u : State P B}

/-- The file at `p` is the same all the time. -/
structure Untouched (p : P) (s t : State P B) : Prop where
  files : t.files p = s.files p
  past : ∃ new, t.past = s.past ++ new ∧ ∀ m ∈ new, m.files p = s.files p ∧ m.replaced ≠ some p

/-- The file at `p` is as before, is replaced once, and holds `content` from there on. -/
structure Replaced (p : P) (content : List B) (s t : State P B) : Prop where
  files : t.files p = some content
  past : ∃ earlier here later, t.past = s.past ++ (earlier ++ here :: later) ∧
    (∀ m ∈ earlier, m.files p = s.files p ∧ m.replaced ≠ some p) ∧
    (here.files p = some content ∧ here.replaced = some p) ∧
    ∀ m ∈ later, m.files p = some content ∧ m.replaced ≠ some p

theorem Untouched.refl (p : P) (s : State P B) : Untouched p s s := by
  refine ⟨rfl, [], (List.append_nil _).symm, ?_⟩
  intro m member
  cases member

theorem Untouched.trans (first : Untouched p s t) (second : Untouched p t u) : Untouched p s u := by
  obtain ⟨new, past, seen⟩ := first.past
  obtain ⟨new', past', seen'⟩ := second.past
  refine ⟨second.files.trans first.files, new ++ new', ?_, ?_⟩
  · rw [past', past, List.append_assoc]
  · intro m member
    rcases List.mem_append.mp member with early | late
    · exact seen m early
    · rw [← first.files]
      exact seen' m late

theorem Untouched.replaced {content : List B} (first : Untouched p s t)
    (second : Replaced p content t u) : Replaced p content s u := by
  obtain ⟨new, past, seen⟩ := first.past
  obtain ⟨earlier, here, later, past', before, change, after⟩ := second.past
  refine ⟨second.files, new ++ earlier, here, later, ?_, ?_, change, after⟩
  · rw [past', past, List.append_assoc, List.append_assoc]
  · intro m member
    rcases List.mem_append.mp member with early | late
    · exact seen m early
    · rw [← first.files]
      exact before m late

theorem untouched_skip (p : P) (s : State P B) : Untouched p s s.skip := by
  refine ⟨rfl, [], rfl, ?_⟩
  intro m member
  cases member

theorem untouched_pass {moments : List (Moment P B)} {files : P → Option (List B)}
    (same : files p = s.files p)
    (seen : ∀ m ∈ moments, m.files p = s.files p ∧ m.replaced ≠ some p) :
    Untouched p s (s.pass moments files) :=
  ⟨same, moments, rfl, seen⟩

/-- What each result says of the file at `p`: `some` content has replaced it, and with `none` or
an error nothing has. -/
def Ends (p : P) (s t : State P B) : Option (List B) → Prop
  | none => Untouched p s t
  | some content => Replaced p content s t

theorem Untouched.ends {content : Option (List B)} (first : Untouched p s t)
    (second : Ends p t u content) : Ends p s u content := by
  cases content with
  | none => exact first.trans second
  | some content => exact first.replaced second

/-- No operation of the program touches the file at `p`. -/
def Leaves (p : P) (x : Program P B E A) : Prop := ∀ s, Untouched p s (x s).2

/-- The program replaces the file at `p` by what its result says it has written, or leaves it. -/
def AtomicAt (p : P) (written : A → Option (List B)) (x : Program P B E A) (s : State P B) : Prop :=
  Ends p s (x s).2 ((x s).1.toOption.bind written)

def Atomic (p : P) (written : A → Option (List B)) (x : Program P B E A) : Prop :=
  ∀ s, AtomicAt p written x s

variable {x : Program P B E A} {f : A → Program P B E A'} {written : A → Option (List B)}
  {written' : A' → Option (List B)}

theorem leaves_pure (p : P) (a : A) : Leaves p (pure a : Program P B E A) := fun s => .refl p s

theorem leaves_lift (p : P) (y : Except E A) : Leaves p (.lift y : Program P B E A) :=
  fun s => .refl p s

theorem Leaves.bind (first : Leaves p x) (next : ∀ a, Leaves p (f a)) : Leaves p (x >>= f) := by
  intro s
  have before := first s
  cases ran : x s with
  | mk result t =>
    rw [ran] at before
    cases result with
    | ok a =>
      rw [bind_ok ran]
      exact before.trans (next a t)
    | error e =>
      rw [bind_error ran]
      exact before

theorem atomic_pure {a : A} (nothing : written a = none) :
    Atomic p written (pure a : Program P B E A) := by
  intro s
  show Ends p s s (written a)
  rw [nothing]
  exact .refl p s

/-- What comes before the replacement leaves the file alone. -/
theorem Untouched.andThen (first : Untouched p s (x s).2)
    (next : ∀ a t, x s = (.ok a, t) → AtomicAt p written' (f a) t) :
    AtomicAt p written' (x >>= f) s := by
  unfold AtomicAt at next ⊢
  cases ran : x s with
  | mk result t =>
    rw [ran] at first
    cases result with
    | ok a =>
      rw [bind_ok ran]
      exact first.ends (next a t ran)
    | error e =>
      rw [bind_error ran]
      exact first

theorem Leaves.andThen (first : Leaves p x) (next : ∀ a, Atomic p written' (f a)) :
    Atomic p written' (x >>= f) :=
  fun s => (first s).andThen fun a t _ => next a t

theorem atomic_error (written : A → Option (List B)) (e : E) :
    Atomic p written (.lift (.error e) : Program P B E A) := fun s => .refl p s

theorem Atomic.map (atomic : Atomic p written x) {g : A → A'}
    (same : ∀ a, written' (g a) = written a) :
    Atomic p written' (x >>= fun a => pure (g a)) := by
  intro s
  have here := atomic s
  unfold AtomicAt at here ⊢
  cases ran : x s with
  | mk result t =>
    rw [ran] at here
    cases result with
    | ok a =>
      rw [bind_ok ran]
      show Ends p s t (written' (g a))
      rw [same]
      exact here
    | error e =>
      rw [bind_error ran]
      exact here

theorem leaves_fileExists (p q : P) : Leaves p (fileExists q : Program P B E Bool) := by
  intro s
  unfold fileExists
  split <;> exact untouched_skip p s

theorem leaves_read (p q : P) : Leaves p (read q : Program P B E _) := by
  intro s
  unfold read
  split <;> exact untouched_skip p s

theorem leaves_createDirAll (p : P) : Leaves p (createDirAll : Program P B E _) := by
  intro s
  unfold createDirAll
  split <;> exact untouched_skip p s

theorem leaves_setPermissions (p q : P) : Leaves p (setPermissions q : Program P B E _) := by
  intro s
  unfold setPermissions
  split <;> exact untouched_skip p s

theorem orFail_state (y : Program P B E (Except Fault A)) (error : Fault → E) (s : State P B) :
    (orFail y error s).2 = (y s).2 := by
  unfold orFail
  cases here : y s with
  | mk result t =>
    cases result with
    | ok answer =>
      rw [bind_ok here]
      cases answer <;> rfl
    | error e => rw [bind_error here]

theorem Leaves.orFail {y : Program P B E (Except Fault A)} (leaves : Leaves p y)
    (error : Fault → E) : Leaves p (orFail y error) := by
  intro s
  rw [orFail_state]
  exact leaves s

theorem files_setPermissions (s : State P B) :
    ((setPermissions q : Program P B E _) s).2.files = s.files := by
  unfold setPermissions
  split <;> rfl

/-- The content has arrived, unless there was a fault. -/
def swapped (content : List B) (result : Except Fault Unit) : Option (List B) :=
  result.toOption.map fun _ => content

theorem AtomicAt.recover {content : List B} {y : Program P B E (Except Fault Unit)}
    {failed : Fault → Program P B E (Except Fault Unit)}
    (first : AtomicAt p (swapped content) y s)
    (next : ∀ fault t, y s = (.ok (.error fault), t) →
      AtomicAt p (swapped content) (failed fault) t) :
    AtomicAt p (swapped content) (recover y failed) s := by
  unfold AtomicAt Disk.recover at *
  cases here : y s with
  | mk result t =>
    rw [here] at first
    cases result with
    | ok answer =>
      rw [bind_ok here]
      cases answer with
      | ok a => exact first
      | error fault => exact Untouched.ends first (next fault t here)
    | error e =>
      rw [bind_error here]
      exact first

theorem recover_ok {y : Program P B E (Except Fault A)} {a : A}
    {failed : Fault → Program P B E (Except Fault A)}
    (ran : recover y failed s = (.ok (.ok a), t)) : y s = (.ok (.ok a), t) ∨
      ∃ fault u, y s = (.ok (.error fault), u) ∧ failed fault u = (.ok (.ok a), t) := by
  obtain ⟨answer, u, first, next⟩ := bind_inv ran
  cases answer with
  | ok b =>
    cases next
    exact .inl first
  | error fault => exact .inr ⟨fault, u, first, next⟩

theorem AtomicAt.orFail {content : List B} {y : Program P B E (Except Fault Unit)}
    (first : AtomicAt p (swapped content) y s) (error : Fault → E) :
    AtomicAt p (fun _ => some content) (orFail y error) s := by
  unfold AtomicAt Disk.orFail at *
  cases here : y s with
  | mk result t =>
    rw [here] at first
    cases result with
    | ok answer =>
      rw [bind_ok here]
      cases answer with
      | ok a => exact first
      | error fault => exact first
    | error e =>
      rw [bind_error here]
      exact first

theorem orFail_ok {y : Program P B E (Except Fault A)} {error : Fault → E} {a : A}
    (ran : orFail y error s = (.ok a, t)) : y s = (.ok (.ok a), t) := by
  unfold orFail at ran
  cases here : y s with
  | mk result u =>
    cases result with
    | ok answer =>
      rw [bind_ok here] at ran
      cases answer with
      | ok b =>
        cases ran
        rfl
      | error fault => cases ran
    | error e =>
      rw [bind_error here] at ran
      cases ran

theorem orFail_of_ok {y : Program P B E (Except Fault A)} {error : Fault → E} {a : A}
    (ran : y s = (.ok (.ok a), t)) : orFail y error s = (.ok a, t) := by
  unfold orFail
  rw [bind_ok ran]
  rfl

theorem orFail_error {y : Program P B E (Except Fault A)} {error : Fault → E} {fault : Fault}
    (ran : y s = (.ok (.error fault), t)) : orFail y error s = (.error (error fault), t) := by
  unfold orFail
  rw [bind_ok ran]
  rfl

theorem mapError_error {y : Program P B E A} {change : E → E} {e : E}
    (ran : y s = (.error e, t)) : y.mapError change s = (.error (change e), t) := by
  unfold Program.mapError
  rw [ran]
  rfl

theorem Leaves.attempt (leaves : Leaves p x) : Leaves p x.attempt := leaves

theorem Leaves.mapError (leaves : Leaves p x) (change : E → E) : Leaves p (x.mapError change) :=
  leaves

theorem Atomic.mapError (atomic : Atomic p written x) (change : E → E) :
    Atomic p written (x.mapError change) := by
  intro s
  have same : ((x s).1.mapError change).toOption = (x s).1.toOption := by
    cases (x s).1 <;> rfl
  show Ends p s (x s).2 (((x s).1.mapError change).toOption.bind written)
  rw [same]
  exact atomic s

variable [DecidableEq P]

theorem untouched_arriving {content : List B} {last : Option (List B)} (apart : q ≠ p)
    (s : State P B) :
    Untouched p s (s.pass (arriving s.files q content) (Function.update s.files q last)) := by
  apply untouched_pass
  · exact Function.update_of_ne apart.symm last s.files
  · intro m member
    obtain ⟨n, -, rfl⟩ := List.mem_map.mp member
    refine ⟨Function.update_of_ne apart.symm _ s.files, ?_⟩
    intro absurd
    cases absurd

theorem leaves_write {names : P → Bool} {content : List B} (apart : names q = true → q ≠ p) :
    Leaves p (write names q content : Program P B E _) := by
  intro s
  unfold write
  split
  · next named =>
    split
    · exact untouched_arriving (apart named) s
    · exact untouched_skip p s
    · exact untouched_arriving (apart named) s
  · exact untouched_skip p s

/-- A write that fails has left a part of the content there. -/
theorem write_fails {names : P → Bool} {fault : Fault} {n : Nat} (content : List B)
    (named : names q = true) (full : s.outcome = .fails fault (some n)) :
    ∃ t, (write names q content : Program P B E _) s = (.ok (.error fault), t) ∧
      t.files q = some (content.take n) := by
  unfold write
  rw [if_pos named, full]
  refine ⟨_, rfl, ?_⟩
  rw [State.files_pass, Function.update_self]

theorem leaves_remove (apart : q ≠ p) : Leaves p (remove q : Program P B E _) := by
  intro s
  unfold remove
  split
  · apply untouched_pass
    · exact Function.update_of_ne apart.symm none s.files
    · intro m member
      rw [List.mem_singleton.mp member]
      refine ⟨Function.update_of_ne apart.symm none s.files, ?_⟩
      intro absurd
      cases absurd
  · exact untouched_skip p s
  · exact untouched_skip p s

/-- A write that has not failed has put all of the content there. -/
theorem files_of_write {names : P → Bool} {content : List B}
    (ran : (write names q content : Program P B E _) s = (.ok (.ok ()), t)) :
    names q = true ∧ t.files q = some content := by
  unfold write at ran
  split at ran
  · next named =>
    split at ran
    · cases ran
      refine ⟨named, ?_⟩
      rw [State.files_pass, Function.update_self]
    · cases ran
    · cases ran
  · cases ran

/-- A rename replaces the target by what the source holds, or changes nothing. -/
theorem rename_atomic {content : List B} (held : s.files q = some content) :
    AtomicAt p (swapped content) (rename q p : Program P B E _) s := by
  unfold AtomicAt rename
  rw [held]
  cases s.outcome with
  | done =>
    have target : moved s.files q p content p = some content := by
      unfold moved
      rw [Function.update_self]
    refine ⟨target, [], _, [], rfl, ?_, ⟨target, rfl⟩, ?_⟩
    · intro m member
      cases member
    · intro m member
      cases member
  | fails fault n => exact untouched_skip p s

/-- A rename that has not failed has put the content of its source there. -/
theorem files_of_rename {content : List B} (held : s.files q = some content)
    (ran : (rename q p : Program P B E _) s = (.ok (.ok ()), t)) : t.files p = some content := by
  have atomic : AtomicAt p (swapped content) (rename q p : Program P B E _) s := rename_atomic held
  unfold AtomicAt at atomic
  rw [ran] at atomic
  exact Replaced.files atomic

theorem replace_atomic {content : List B} (held : s.files q = some content) :
    AtomicAt p (swapped content) (replace q p : Program P B E _) s := by
  unfold AtomicAt replace
  split
  · exact rename_atomic held
  · exact untouched_skip p s

/-- A replacement that has met a fault has moved nothing. -/
theorem files_of_replace {fault : Fault}
    (ran : (replace q p : Program P B E _) s = (.ok (.error fault), t)) : t.files = s.files := by
  unfold replace rename at ran
  split at ran
  · split at ran <;> cases ran <;> rfl
  · cases ran
    rfl

end Observed

section Clean

variable {files : P → Option (List B)} {s t : State P B} {x : Program P B E A}
  {f : A → Program P B E A'} {r : Except E A} {g : A → Except E A'}

/-- These are the files, and no operation fails. -/
structure Clean (files : P → Option (List B)) (s : State P B) : Prop where
  files : s.files = files
  done : ∀ n, s.outcomes n = .done

/-- The program answers this for these files, and leaves all of them alone. -/
def Reads (files : P → Option (List B)) (x : Program P B E A) (r : Except E A) : Prop :=
  ∀ s, Clean files s → (x s).1 = r ∧ Clean files (x s).2

/-- The program answers this for these files. -/
def Returns (files : P → Option (List B)) (x : Program P B E A) (r : Except E A) : Prop :=
  ∀ s, Clean files s → (x s).1 = r

theorem Reads.returns (reads : Reads files x r) : Returns files x r :=
  fun s clean => (reads s clean).1

theorem Clean.pass (clean : Clean files s) (moments : List (Moment P B))
    (after : P → Option (List B)) : Clean after (s.pass moments after) :=
  ⟨rfl, fun n => clean.done (n + 1)⟩

theorem Clean.skip (clean : Clean files s) : Clean files s.skip :=
  ⟨clean.files, fun n => clean.done (n + 1)⟩

theorem reads_pure (a : A) : Reads files (pure a : Program P B E A) (.ok a) :=
  fun _ clean => ⟨rfl, clean⟩

theorem reads_lift (r : Except E A) : Reads files (.lift r : Program P B E A) r :=
  fun _ clean => ⟨rfl, clean⟩

theorem Reads.bind (first : Reads files x r)
    (next : ∀ a, r = .ok a → Reads files (f a) (g a)) : Reads files (x >>= f) (r >>= g) := by
  intro s clean
  obtain ⟨same, after⟩ := first s clean
  cases ran : x s with
  | mk result t =>
    rw [ran] at same after
    obtain rfl : result = r := same
    cases result with
    | ok a =>
      rw [bind_ok ran]
      exact next a rfl t after
    | error e =>
      rw [bind_error ran]
      exact ⟨rfl, after⟩

theorem Reads.andThen (first : Reads files x r)
    (next : ∀ a, r = .ok a → Returns files (f a) (g a)) : Returns files (x >>= f) (r >>= g) := by
  intro s clean
  obtain ⟨same, after⟩ := first s clean
  cases ran : x s with
  | mk result t =>
    rw [ran] at same after
    obtain rfl : result = r := same
    cases result with
    | ok a =>
      rw [bind_ok ran]
      exact next a rfl t after
    | error e =>
      rw [bind_error ran]
      rfl

theorem Returns.map (returns : Returns files x r) (change : A → A') :
    Returns files (x >>= fun a => pure (change a)) (r >>= fun a => .ok (change a)) := by
  intro s clean
  have same := returns s clean
  cases ran : x s with
  | mk result t =>
    rw [ran] at same
    obtain rfl : result = r := same
    cases result with
    | ok a =>
      rw [bind_ok ran]
      rfl
    | error e =>
      rw [bind_error ran]
      rfl

theorem Reads.attempt (reads : Reads files x r) : Reads files x.attempt (.ok r) := by
  intro s clean
  obtain ⟨same, after⟩ := reads s clean
  exact ⟨congrArg Except.ok same, after⟩

theorem reads_fileExists (p : P) :
    Reads files (fileExists p : Program P B E Bool) (.ok (files p).isSome) := by
  intro s clean
  unfold fileExists
  rw [State.outcome, clean.done, clean.files]
  exact ⟨rfl, clean.skip⟩

theorem reads_read (p : P) :
    Reads files (read p : Program P B E _) (.ok (contentOf (files p))) := by
  intro s clean
  unfold read
  rw [State.outcome, clean.done, clean.files]
  exact ⟨rfl, clean.skip⟩

theorem reads_createDirAll : Reads files (createDirAll : Program P B E _) (.ok (.ok ())) := by
  intro s clean
  unfold createDirAll
  rw [State.outcome, clean.done]
  exact ⟨rfl, clean.skip⟩

theorem Reads.orFail {y : Program P B E (Except Fault A)} {a : A}
    (reads : Reads files y (.ok (.ok a))) (error : Fault → E) :
    Reads files (orFail y error) (.ok a) :=
  reads.bind (g := fun _ => .ok a) fun b same => by
    cases same
    exact reads_pure a

theorem reads_setPermissions {p : P} {content : List B} (held : files p = some content) :
    Reads files (setPermissions p : Program P B E _) (.ok (.ok ())) := by
  intro s clean
  unfold setPermissions
  rw [State.outcome, clean.done, clean.files, held]
  exact ⟨rfl, clean.skip⟩

/-- Without a failure, the program answers `a` and makes these files of the others. -/
def Takes (files : P → Option (List B)) (x : Program P B E A) (a : A)
    (after : P → Option (List B)) : Prop :=
  ∀ s, Clean files s → ∃ t, x s = (.ok a, t) ∧ Clean after t

variable {after last : P → Option (List B)} {a : A} {b : A'}

theorem Takes.returns (takes : Takes files x a after) : Returns files x (.ok a) := by
  intro s clean
  obtain ⟨t, ran, -⟩ := takes s clean
  rw [ran]

theorem Reads.takes {a : A} (reads : Reads files x (.ok a)) : Takes files x a files := by
  intro s clean
  obtain ⟨same, after⟩ := reads s clean
  cases ran : x s with
  | mk result t =>
    rw [ran] at same after
    obtain rfl : result = Except.ok a := same
    exact ⟨t, rfl, after⟩

theorem takes_pure (a : A) : Takes files (pure a : Program P B E A) a files :=
  fun s clean => ⟨s, rfl, clean⟩

theorem Takes.bind (first : Takes files x a after) (next : Takes after (f a) b last) :
    Takes files (x >>= f) b last := by
  intro s clean
  obtain ⟨t, ran, there⟩ := first s clean
  rw [bind_ok ran]
  exact next t there

theorem Takes.orFail {y : Program P B E (Except Fault A)} (takes : Takes files y (.ok a) after)
    (error : Fault → E) : Takes files (orFail y error) a after :=
  takes.bind (takes_pure a)

theorem Takes.mapError (takes : Takes files x a after) (change : E → E) :
    Takes files (x.mapError change) a after := by
  intro s clean
  obtain ⟨t, ran, there⟩ := takes s clean
  refine ⟨t, ?_, there⟩
  unfold Program.mapError
  rw [ran]
  rfl

theorem Takes.recover {y : Program P B E (Except Fault A)} (takes : Takes files y (.ok a) after)
    (failed : Fault → Program P B E (Except Fault A)) :
    Takes files (recover y failed) (.ok a) after :=
  takes.bind (takes_pure (Except.ok a))

theorem Takes.recovered {y : Program P B E (Except Fault A)} {fault : Fault}
    {failed : Fault → Program P B E (Except Fault A)}
    (first : Takes files y (.error fault) after) (next : Takes after (failed fault) (.ok a) last) :
    Takes files (Disk.recover y failed) (.ok a) last :=
  first.bind next

variable [DecidableEq P] {p q : P} {content : List B}

theorem takes_write {names : P → Bool} (named : names p = true) (content : List B) :
    Takes files (write names p content : Program P B E _) (.ok ())
      (Function.update files p (some content)) := by
  intro s clean
  unfold write
  rw [if_pos named, State.outcome, clean.done, clean.files]
  exact ⟨_, rfl, clean.pass _ _⟩

theorem takes_rename (held : files q = some content) :
    Takes files (rename q p : Program P B E _) (.ok ()) (moved files q p content) := by
  intro s clean
  unfold rename
  rw [State.outcome, clean.done, clean.files, held]
  exact ⟨_, rfl, clean.pass _ _⟩

theorem takes_replace (held : files q = some content) (there : (files p).isSome = true) :
    Takes files (replace q p : Program P B E _) (.ok ()) (moved files q p content) := by
  intro s clean
  unfold replace
  rw [clean.files]
  cases found : files p with
  | none =>
    rw [found] at there
    cases there
  | some old => exact takes_rename held s clean

theorem takes_replace_missing (absent : files p = none) :
    Takes files (replace q p : Program P B E _) (.error .missing) files := by
  intro s clean
  unfold replace
  rw [clean.files, absent]
  exact ⟨_, rfl, clean.skip⟩

end Clean

end Disk
