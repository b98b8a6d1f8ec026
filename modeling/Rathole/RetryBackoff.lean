import Mathlib.Tactic.Linarith
import Mathlib.Tactic.NormNum
import Rathole.Transition

set_option autoImplicit false

/- The sleeps of the retry loop around `ControlChannel::run`. -/
namespace Rathole.Client

open Transition.System (Free)

/-- The policy of the `backoff` crate. Durations are in nanoseconds. -/
structure ExponentialBackoff where
  currentInterval : Nat
  initialInterval : Nat
  randomizationFactor : ℚ
  multiplier : ℚ
  maxInterval : Nat
  maxElapsedTime : Option Nat

/-- The crate: `R` is what a call reads of the clock and of the random source. -/
structure BackoffCrate (R : Type) where
  default : ExponentialBackoff
  reset : ExponentialBackoff → ExponentialBackoff
  nextBackoff : ExponentialBackoff → R → Option Nat × ExponentialBackoff

/-- What the documentation of the crate says of the three. -/
structure BackoffCrate.Documented {R : Type} (crate : BackoffCrate R) : Prop where
  initial : crate.default.initialInterval = 500000000
  current : crate.default.currentInterval = crate.default.initialInterval
  reset : ∀ x, crate.reset x = { x with currentInterval := x.initialInterval }
  /-- without a limit on the elapsed time there always is a next one -/
  unlimited : ∀ x r, x.maxElapsedTime = none → (crate.nextBackoff x r).1.isSome
  /-- at most the factor below the interval, in whole nanoseconds -/
  range : ∀ x r d, (crate.nextBackoff x r).1 = some d →
    x.currentInterval * (1 - x.randomizationFactor) < d + 1
  /-- the interval grows until it reaches the maximal one -/
  grows : ∀ x r, 1 ≤ x.multiplier → ∃ interval, min x.currentInterval x.maxInterval ≤ interval ∧
    (crate.nextBackoff x r).2 = { x with currentInterval := interval }

def fromSecs (secs : Nat) : Nat := secs * 1000000000

section Loop

variable {R : Type} (crate : BackoffCrate R)

def runControlChanBackoff (interval : Nat) : ExponentialBackoff :=
  { crate.default with
    randomizationFactor := 1 / 5
    maxElapsedTime := none
    multiplier := 3
    maxInterval := fromSecs interval }

/-- `slept` lists the sleeps, and `exhausted` says that the loop broke off for want of a next. -/
structure RetryLoop where
  retryBackoff : ExponentialBackoff
  slept : List Nat
  exhausted : Bool

/-- A failed run, after more than three seconds or not. -/
structure RetryFailure (R : Type) where
  lasted : Bool
  random : R

def RetryLoop.start (interval : Nat) : RetryLoop := ⟨runControlChanBackoff crate interval, [], false⟩

/-- The body of the loop, once the shutdown channel was found empty. -/
def RetryLoop.fail (s : RetryLoop) (a : RetryFailure R) : RetryLoop :=
  let retryBackoff := if a.lasted then crate.reset s.retryBackoff else s.retryBackoff
  match crate.nextBackoff retryBackoff a.random with
  | (some duration, next) => { s with retryBackoff := next, slept := s.slept ++ [duration] }
  | (none, next) => { s with retryBackoff := next, exhausted := true }

def retryLoop (interval : Nat) : Transition.System RetryLoop (RetryFailure R) where
  init s := s = .start crate interval
  step s a := if s.exhausted then none else some (s.fail crate a)

variable {crate} {s t : RetryLoop}

/-- The interval never falls under half a second. -/
structure RetryLoop.Sound (s : RetryLoop) : Prop where
  initial : s.retryBackoff.initialInterval = 500000000
  current : 500000000 ≤ s.retryBackoff.currentInterval
  max : 500000000 ≤ s.retryBackoff.maxInterval
  factor : s.retryBackoff.randomizationFactor = 1 / 5
  multiplier : s.retryBackoff.multiplier = 3
  unlimited : s.retryBackoff.maxElapsedTime = none
  slept : ∀ duration ∈ s.slept, 0 < duration
  exhausted : s.exhausted = false

theorem RetryLoop.Sound.start (documented : crate.Documented) {interval : Nat}
    (positive : 0 < interval) : (start crate interval).Sound := by
  have current := documented.current
  have initial := documented.initial
  refine ⟨initial, ?_, ?_, rfl, rfl, rfl, by simp [RetryLoop.start], rfl⟩
  · change 500000000 ≤ crate.default.currentInterval
    omega
  · change 500000000 ≤ interval * 1000000000
    omega

theorem RetryLoop.Sound.reset (documented : crate.Documented) (sound : s.Sound) :
    { s with retryBackoff := crate.reset s.retryBackoff }.Sound := by
  have initial := sound.initial
  rw [documented.reset]
  refine ⟨initial, ?_, sound.max, sound.factor, sound.multiplier, sound.unlimited, sound.slept,
    sound.exhausted⟩
  change 500000000 ≤ s.retryBackoff.initialInterval
  omega

theorem RetryLoop.Sound.next (documented : crate.Documented) (sound : s.Sound) (r : R) :
    ∃ duration next, crate.nextBackoff s.retryBackoff r = (some duration, next) ∧
      { s with retryBackoff := next, slept := s.slept ++ [duration] }.Sound := by
  have multiplier : 1 ≤ s.retryBackoff.multiplier := by
    rw [sound.multiplier]
    norm_num
  obtain ⟨interval, above, next⟩ := documented.grows s.retryBackoff r multiplier
  obtain ⟨duration, made⟩ :=
    Option.isSome_iff_exists.mp (documented.unlimited s.retryBackoff r sound.unlimited)
  have current := sound.current
  have max := sound.max
  have positive : 0 < duration := by
    have range := documented.range s.retryBackoff r duration made
    have held : (500000000 : ℚ) ≤ s.retryBackoff.currentInterval := by exact_mod_cast current
    rw [sound.factor] at range
    have whole : (0 : ℚ) < duration := by linarith
    exact_mod_cast whole
  refine ⟨duration, _, Prod.ext made next, sound.initial, ?_, max, sound.factor,
    sound.multiplier, sound.unlimited, ?_, sound.exhausted⟩
  · change 500000000 ≤ interval
    omega
  · intro d member
    rcases List.mem_append.mp member with before | last
    · exact sound.slept d before
    · rw [List.mem_singleton.mp last]
      exact positive

theorem RetryLoop.Sound.fail (documented : crate.Documented) (sound : s.Sound)
    (a : RetryFailure R) : (s.fail crate a).Sound := by
  have started : { s with retryBackoff :=
      if a.lasted then crate.reset s.retryBackoff else s.retryBackoff }.Sound := by
    split
    · exact sound.reset documented
    · exact sound
  obtain ⟨duration, next, made, later⟩ := started.next documented a.random
  simp only [RetryLoop.fail]
  change crate.nextBackoff (if a.lasted then _ else _) _ = _ at made
  rw [made]
  exact later

/-- The loop goes on for ever, and no sleep of it is zero. -/
theorem RetryLoop.sound_of_reachable (documented : crate.Documented) {interval : Nat}
    (positive : 0 < interval) (reached : (retryLoop crate interval).Reachable s) : s.Sound := by
  apply reached.invariant
  · intro s initial
    exact initial ▸ .start documented positive
  · intro s a t _ moved sound
    obtain ⟨-, same⟩ := Option.ite_none_left_eq_some.mp moved
    cases same
    exact sound.fail documented a

end Loop

end Rathole.Client
