import Rathole.Broadcast
import Rathole.Transition

set_option autoImplicit false

/- How the external shutdown signal reaches `run_with_config`: the forwarder task, the
retry loop of the start-up, the watcher it ends with, and the main loop. -/
namespace Rathole.Startup

open Broadcast (Channel)
open Broadcast.Channel (Pending)
open Transition.System (Free)

/-- The receivers subscribed to `shutdown_tx`. -/
inductive Receiver
  | retry
  | attempt (n : Nat)
  | process
  deriving DecidableEq

/-- Where `run_with_config` stands; `n` counts the attempts to create the watcher. -/
inductive Phase
  /-- the forwarder is spawned, `retry_rx` is still to subscribe -/
  | spawned
  /-- at the head of the retry loop -/
  | retrying (n : Nat)
  /-- in `ConfigWatcherHandle::new` -/
  | attempting (n : Nat)
  /-- at the `select!` between `retry_rx` and the sleep, which may have elapsed -/
  | sleeping (n : Nat) (elapsed : Bool)
  /-- out of the loop, `process_shutdown_rx` is still to subscribe -/
  | connected (n : Nat)
  /-- at the `select!` of the main loop -/
  | selecting (n : Nat)
  /-- handling an event of the watcher -/
  | handling (n : Nat)
  | returned
  deriving DecidableEq

/-- `signalled` says whether the external receiver of the forwarder has its value, and
`watcher` whether `config_watcher` runs and so keeps the event channel open. -/
structure State where
  signalled : Bool
  forwarded : Bool
  shutdown : Channel Receiver Bool
  phase : Phase
  watcher : Bool

inductive Action
  | signal
  | forward
  | subscribeRetry
  | attempt
  | succeed
  | fail
  | elapse
  | wake
  | stop
  | subscribeProcess
  | watcherShutdown
  | watcherFail
  | event
  | handled
  | eventsClosed
  | processShutdown
  deriving DecidableEq

/-- The attempt whose receiver the watcher got. -/
def Phase.watched : Phase → Option Nat
  | .connected n | .selecting n | .handling n => some n
  | _ => none

/-- A receiver whose `recv` is ready. -/
def State.ready (s : State) (r : Receiver) : Bool := (s.shutdown.recv r).1 ≠ .empty

/-- `shutdown_tx` and the clone of it that the forwarder owns. -/
def State.start : State := ⟨false, false, (Channel.new 1).clone, .spawned, false⟩

def State.subscribe (s : State) (r : Receiver) (next : Phase) : State :=
  { s with shutdown := s.shutdown.subscribe r, phase := next }

def State.goto (s : State) (next : Phase) : State := { s with phase := next }

/-- The watcher ends; its receiver and `event_tx` are dropped. -/
def State.endWatcher (s : State) (n : Nat) : State :=
  { s with watcher := false, shutdown := s.shutdown.dropReceiver (.attempt n) }

/-- The forwarder re-sends once, and drops its sender. -/
def State.forward (s : State) : Option State :=
  if s.signalled ∧ s.forwarded = false then
    some { s with forwarded := true, shutdown := (s.shutdown.send true).dropSender }
  else none

/-- The failed attempt drops its receiver. The `select!` polls both branches at once, and
the sleep has just begun. -/
def State.fail (s : State) : Option State :=
  match s.phase with
  | .attempting n =>
    let s := { s with shutdown := s.shutdown.dropReceiver (.attempt n) }
    some (s.goto (if s.ready .retry then .returned else .sleeping n false))
  | _ => none

/-- The steps of the retry loop. -/
def State.startUp (s : State) : Action → Option State
  | .subscribeRetry => if s.phase = .spawned then some (s.subscribe .retry (.retrying 0)) else none
  | .attempt =>
    match s.phase with
    | .retrying n => some (s.subscribe (.attempt n) (.attempting n))
    | _ => none
  | .succeed =>
    match s.phase with
    | .attempting n => some { s.goto (.connected n) with watcher := true }
    | _ => none
  | .fail => s.fail
  | .elapse =>
    match s.phase with
    | .sleeping n _ => some (s.goto (.sleeping n true))
    | _ => none
  | .wake =>
    match s.phase with
    | .sleeping n true => some (s.goto (.retrying (n + 1)))
    | _ => none
  | .stop =>
    match s.phase with
    | .sleeping _ _ => if s.ready .retry then some (s.goto .returned) else none
    | _ => none
  | .subscribeProcess =>
    match s.phase with
    | .connected n => some (s.subscribe .process (.selecting n))
    | _ => none
  | _ => none

/-- The steps of the watcher and of the main loop. -/
def State.main (s : State) : Action → Option State
  | .watcherShutdown =>
    match s.phase.watched with
    | some n => if s.watcher ∧ s.ready (.attempt n) then some (s.endWatcher n) else none
    | none => none
  | .watcherFail =>
    match s.phase.watched with
    | some n => if s.watcher then some (s.endWatcher n) else none
    | none => none
  | .event =>
    match s.phase with
    | .selecting n => some (s.goto (.handling n))
    | _ => none
  | .handled =>
    match s.phase with
    | .handling n => some (s.goto (.selecting n))
    | _ => none
  | .eventsClosed =>
    match s.phase with
    | .selecting _ => if s.watcher then none else some (s.goto .returned)
    | _ => none
  | .processShutdown =>
    match s.phase with
    | .selecting _ => if s.ready .process then some (s.goto .returned) else none
    | _ => none
  | _ => none

def step (s : State) (a : Action) : Option State :=
  match a with
  | .signal => if s.signalled then none else some { s with signalled := true }
  | .forward => s.forward
  | .subscribeRetry | .attempt | .succeed | .fail | .elapse | .wake | .stop | .subscribeProcess =>
    s.startUp a
  | _ => s.main a

def system : Transition.System State Action where
  init s := s = .start
  step := step

/-- The signal was re-sent, and the supervisor waits without a value in any receiver that
it, or the watcher that feeds its events, still polls. -/
def Lost (s : State) : Prop :=
  s.forwarded = true ∧ match s.phase with
    | .attempting n => ¬ Pending s.shutdown .retry ∧ ¬ Pending s.shutdown (.attempt n)
    | .sleeping _ _ => ¬ Pending s.shutdown .retry
    | .selecting n | .handling n => s.watcher = true ∧ ¬ Pending s.shutdown (.attempt n) ∧
        ¬ Pending s.shutdown .process
    | _ => False

/-- The signal is re-sent once `retry_rx` is subscribed, and the attempt that succeeds has it
in its receiver if it was re-sent before. -/
def Heard (s : State) (a : Action) : Prop :=
  (a = .forward → s.phase ≠ .spawned) ∧
  ∀ n, a = .succeed → s.phase = .attempting n → s.forwarded = true →
    Pending s.shutdown (.attempt n)

/-- A receiver that has the value once it was re-sent. -/
def Hears (s : State) (r : Receiver) : Prop :=
  ∃ i, s.shutdown.cursors.lookup r = some i ∧ i ≤ s.shutdown.log.length ∧
    (s.forwarded = true → i < s.shutdown.log.length)

def Phase.polls : Phase → Bool
  | .retrying _ | .attempting _ | .sleeping _ _ => true
  | _ => false

structure Sound (s : State) : Prop where
  spawned : s.phase = .spawned → s.forwarded = false
  retry : s.phase.polls = true → Hears s .retry
  attempt : ∀ n, s.phase = .attempting n →
    ∃ i, s.shutdown.cursors.lookup (.attempt n) = some i ∧ i ≤ s.shutdown.log.length
  watching : ∀ n, s.watcher = true → s.phase.watched = some n → Hears s (.attempt n)

variable {s t : State}

theorem Hears.pending {r : Receiver} (hears : Hears s r) (sent : s.forwarded = true) :
    Pending s.shutdown r := by
  obtain ⟨i, found, -, below⟩ := hears
  exact ⟨i, found, below sent⟩

theorem Sound.not_lost (sound : Sound s) : ¬ Lost s := by
  rintro ⟨sent, lost⟩
  cases phase : s.phase with
  | attempting n =>
    rw [phase] at lost
    have hears := sound.retry (by rw [phase]; rfl)
    exact lost.1 (hears.pending sent)
  | sleeping n elapsed =>
    rw [phase] at lost
    have hears := sound.retry (by rw [phase]; rfl)
    exact lost (hears.pending sent)
  | selecting n | handling n =>
    rw [phase] at lost
    have hears := sound.watching n lost.1 (by rw [phase]; rfl)
    exact lost.2.1 (hears.pending sent)
  | _ =>
    rw [phase] at lost
    exact lost

/-- A receiver that another step leaves alone. -/
theorem Hears.keep {r : Receiver} (hears : Hears s r)
    (cursor : t.shutdown.cursors.lookup r = s.shutdown.cursors.lookup r)
    (log : t.shutdown.log = s.shutdown.log) (forwarded : t.forwarded = s.forwarded) :
    Hears t r := by
  unfold Hears
  rw [cursor, log, forwarded]
  exact hears

theorem lookup_subscribe_ne (c : Channel Receiver Bool) {r r' : Receiver} (other : r' ≠ r) :
    (c.subscribe r).cursors.lookup r' = c.cursors.lookup r' :=
  Finmap.lookup_insert_of_ne _ other

theorem lookup_drop_ne (c : Channel Receiver Bool) {r r' : Receiver} (other : r' ≠ r) :
    (c.dropReceiver r).cursors.lookup r' = c.cursors.lookup r' :=
  Finmap.lookup_erase_ne other

/-- Between two phases that poll the same receivers. -/
theorem Sound.goto (sound : Sound s) (next : Phase) (spawned : next ≠ .spawned)
    (polls : next.polls = true → s.phase.polls = true)
    (attempting : ∀ n, next ≠ .attempting n)
    (watched : ∀ n, next.watched = some n → s.phase.watched = some n) : Sound (s.goto next) where
  spawned same := absurd same spawned
  retry polled := sound.retry (polls polled)
  attempt n same := absurd same (attempting n)
  watching n alive same := sound.watching n alive (watched n same)

theorem Sound.returned (sound : Sound s) : Sound (s.goto .returned) := by
  apply sound.goto
  · intro same
    cases same
  · intro polled
    cases polled
  · intro n same
    cases same
  · intro n same
    cases same

theorem send_log {c : Channel Receiver Bool} {r : Receiver} {i : Nat} (v : Bool)
    (subscribed : c.cursors.lookup r = some i) : (c.send v).log = c.log ++ [v] := by
  have occupied : c.cursors ≠ ∅ := by
    intro vacant
    rw [vacant, Finmap.lookup_empty] at subscribed
    cases subscribed
  rw [Channel.send, if_neg occupied]

theorem Hears.forward {r : Receiver} (hears : Hears s r) :
    Hears { s with forwarded := true, shutdown := (s.shutdown.send true).dropSender } r := by
  obtain ⟨i, found, bounded, -⟩ := hears
  have log := send_log true found
  have longer : i < (s.shutdown.send true).log.length := by
    rw [log, List.length_append, List.length_singleton]
    omega
  refine ⟨i, ?_, Nat.le_of_lt longer, fun _ => longer⟩
  simpa only [Channel.dropSender, Broadcast.Channel.send_cursors] using found

theorem Sound.forward (sound : Sound s) (heard : s.phase ≠ .spawned)
    (moved : s.forward = some t) : Sound t := by
  obtain ⟨-, ⟨⟩⟩ := Option.ite_none_right_eq_some.mp moved
  refine ⟨fun same => absurd same heard, fun polled => (sound.retry polled).forward, ?_,
    fun n alive same => (sound.watching n alive same).forward⟩
  intro n same
  obtain ⟨i, found, bounded⟩ := sound.attempt n same
  refine ⟨i, ?_, Nat.le_trans bounded (Broadcast.Channel.send_log_length _ _)⟩
  simpa only [Channel.dropSender, Broadcast.Channel.send_cursors] using found

theorem Sound.subscribeRetry (sound : Sound s) (spawned : s.phase = .spawned) :
    Sound (s.subscribe .retry (.retrying 0)) := by
  have unsent := sound.spawned spawned
  refine ⟨?_, fun _ => ?_, ?_, ?_⟩
  · intro same
    cases same
  · refine ⟨s.shutdown.log.length, Finmap.lookup_insert _, Nat.le_refl _, ?_⟩
    intro sent
    have sent : s.forwarded = true := sent
    rw [unsent] at sent
    cases sent
  · intro n same
    cases same
  · intro n _ same
    cases same

theorem Sound.attempting {n : Nat} (sound : Sound s) (retrying : s.phase = .retrying n) :
    Sound (s.subscribe (.attempt n) (.attempting n)) := by
  refine ⟨?_, fun _ => ?_, ?_, ?_⟩
  · intro same
    cases same
  · have hears := sound.retry (by rw [retrying]; rfl)
    refine hears.keep (lookup_subscribe_ne _ ?_) rfl rfl
    intro same
    cases same
  · rintro n' ⟨⟩
    exact ⟨s.shutdown.log.length, Finmap.lookup_insert _, Nat.le_refl _⟩
  · intro n' _ same
    cases same

/-- The watcher takes the receiver of the attempt along. -/
theorem Sound.succeed {n : Nat} (sound : Sound s) (attempting : s.phase = .attempting n)
    (heard : s.forwarded = true → Pending s.shutdown (.attempt n)) :
    Sound { s.goto (.connected n) with watcher := true } := by
  refine ⟨?_, ?_, ?_, ?_⟩
  · intro same
    cases same
  · intro polled
    cases polled
  · intro n' same
    cases same
  · rintro n' - ⟨⟩
    obtain ⟨i, found, bounded⟩ := sound.attempt n attempting
    refine ⟨i, found, bounded, fun sent => ?_⟩
    obtain ⟨i', found', below⟩ := heard sent
    cases found.symm.trans found'
    exact below

theorem Sound.fail (sound : Sound s) (moved : s.fail = some t) : Sound t := by
  unfold State.fail at moved
  split at moved
  · next n attempting =>
    cases moved
    have hears : Hears { s with shutdown := s.shutdown.dropReceiver (.attempt n) } .retry := by
      have hears := sound.retry (by rw [attempting]; rfl)
      refine hears.keep (lookup_drop_ne _ ?_) rfl rfl
      intro same
      cases same
    split
    · refine ⟨?_, ?_, ?_, ?_⟩
      · intro same
        cases same
      · intro polled
        cases polled
      · intro n' same
        cases same
      · intro n' _ same
        cases same
    · refine ⟨?_, fun _ => hears, ?_, ?_⟩
      · intro same
        cases same
      · intro n' same
        cases same
      · intro n' _ same
        cases same
  · cases moved

theorem Sound.subscribeProcess {n : Nat} (sound : Sound s) (connected : s.phase = .connected n) :
    Sound (s.subscribe .process (.selecting n)) := by
  refine ⟨?_, ?_, ?_, ?_⟩
  · intro same
    cases same
  · intro polled
    cases polled
  · intro n' same
    cases same
  · rintro n' alive ⟨⟩
    have hears := sound.watching n alive (by rw [connected]; rfl)
    refine hears.keep (lookup_subscribe_ne _ ?_) rfl rfl
    intro same
    cases same

theorem Sound.endWatcher {n : Nat} (sound : Sound s) (watched : s.phase.watched = some n) :
    Sound (s.endWatcher n) := by
  refine ⟨sound.spawned, ?_, ?_, ?_⟩
  · intro polled
    have polled : s.phase.polls = true := polled
    cases phase : s.phase <;> rw [phase] at watched polled <;> cases watched <;> cases polled
  · intro n' same
    have same : s.phase = .attempting n' := same
    rw [same] at watched
    cases watched
  · intro n' alive
    cases alive

/-- A step to a phase that is reached from one with the same receivers. -/
theorem Sound.startUp {a : Action} (sound : Sound s) (heard : Heard s a)
    (moved : s.startUp a = some t) : Sound t := by
  cases a with
  | subscribeRetry =>
    obtain ⟨spawned, ⟨⟩⟩ := Option.ite_none_right_eq_some.mp moved
    exact sound.subscribeRetry spawned
  | attempt =>
    simp only [State.startUp] at moved
    split at moved
    · next n retrying =>
      cases moved
      exact sound.attempting retrying
    · cases moved
  | succeed =>
    simp only [State.startUp] at moved
    split at moved
    · next n attempting =>
      cases moved
      exact sound.succeed attempting (heard.2 n rfl attempting)
    · cases moved
  | fail => exact sound.fail moved
  | elapse =>
    simp only [State.startUp] at moved
    split at moved
    · next n elapsed sleeping =>
      cases moved
      apply sound.goto
      · intro same
        cases same
      · rw [sleeping]
        exact id
      · intro n' same
        cases same
      · intro n' same
        cases same
    · cases moved
  | wake =>
    simp only [State.startUp] at moved
    split at moved
    · next n sleeping =>
      cases moved
      apply sound.goto
      · intro same
        cases same
      · rw [sleeping]
        exact id
      · intro n' same
        cases same
      · intro n' same
        cases same
    · cases moved
  | stop =>
    simp only [State.startUp] at moved
    split at moved
    · next n elapsed sleeping =>
      obtain ⟨-, ⟨⟩⟩ := Option.ite_none_right_eq_some.mp moved
      exact sound.returned
    · cases moved
  | subscribeProcess =>
    simp only [State.startUp] at moved
    split at moved
    · next n connected =>
      cases moved
      exact sound.subscribeProcess connected
    · cases moved
  | _ => cases moved

/-- The main loop goes between its `select!` and the event it handles. -/
theorem Sound.turn {next : Phase} (sound : Sound s) (spawned : next ≠ .spawned)
    (polls : next.polls = false) (watched : next.watched = s.phase.watched) : Sound (s.goto next) := by
  refine sound.goto next spawned ?_ ?_ ?_
  · intro polled
    rw [polls] at polled
    cases polled
  · rintro n rfl
    cases polls
  · intro n same
    rw [← watched, same]

theorem Sound.main {a : Action} (sound : Sound s) (moved : s.main a = some t) : Sound t := by
  cases a with
  | watcherShutdown =>
    simp only [State.main] at moved
    split at moved
    · next n watched =>
      obtain ⟨-, ⟨⟩⟩ := Option.ite_none_right_eq_some.mp moved
      exact sound.endWatcher watched
    · cases moved
  | watcherFail =>
    simp only [State.main] at moved
    split at moved
    · next n watched =>
      obtain ⟨-, ⟨⟩⟩ := Option.ite_none_right_eq_some.mp moved
      exact sound.endWatcher watched
    · cases moved
  | event =>
    simp only [State.main] at moved
    split at moved
    · next n selecting =>
      cases moved
      exact sound.turn (by simp) rfl (by rw [selecting]; rfl)
    · cases moved
  | handled =>
    simp only [State.main] at moved
    split at moved
    · next n handling =>
      cases moved
      exact sound.turn (by simp) rfl (by rw [handling]; rfl)
    · cases moved
  | eventsClosed =>
    simp only [State.main] at moved
    split at moved
    · split at moved <;> cases moved
      exact sound.returned
    · cases moved
  | processShutdown =>
    simp only [State.main] at moved
    split at moved
    · obtain ⟨-, ⟨⟩⟩ := Option.ite_none_right_eq_some.mp moved
      exact sound.returned
    · cases moved
  | _ => cases moved

theorem Sound.step {a : Action} (sound : Sound s) (heard : Heard s a)
    (moved : step s a = some t) : Sound t := by
  cases a with
  | signal =>
    simp only [Startup.step] at moved
    split at moved <;> cases moved
    exact ⟨sound.spawned, sound.retry, sound.attempt, sound.watching⟩
  | forward => exact sound.forward (heard.1 rfl) moved
  | subscribeRetry => exact sound.startUp heard moved
  | attempt => exact sound.startUp heard moved
  | succeed => exact sound.startUp heard moved
  | fail => exact sound.startUp heard moved
  | elapse => exact sound.startUp heard moved
  | wake => exact sound.startUp heard moved
  | stop => exact sound.startUp heard moved
  | subscribeProcess => exact sound.startUp heard moved
  | watcherShutdown => exact sound.main (a := .watcherShutdown) moved
  | watcherFail => exact sound.main (a := .watcherFail) moved
  | event => exact sound.main (a := .event) moved
  | handled => exact sound.main (a := .handled) moved
  | eventsClosed => exact sound.main (a := .eventsClosed) moved
  | processShutdown => exact sound.main (a := .processShutdown) moved

theorem sound_start : Sound .start where
  spawned _ := rfl
  retry polled := by cases polled
  attempt n same := by cases same
  watching n alive := by cases alive

/-- In runs in which every re-sent signal is heard, none is lost. -/
theorem not_lost_of_heard (reached : system.Reach Heard s) : ¬ Lost s := by
  have sound : Sound s := by
    refine reached.invariant ?_ fun s a t heard moved sound => sound.step heard moved
    rintro s rfl
    exact sound_start
  exact sound.not_lost

theorem not_pending_subscribe {r r' : Receiver} (unheard : ¬ Pending s.shutdown r') :
    ¬ Pending (s.shutdown.subscribe r) r' := by
  rintro ⟨i, found, below⟩
  by_cases here : r' = r
  · subst here
    exact Broadcast.Channel.subscribe_not_pending _ _ ⟨i, found, below⟩
  · rw [lookup_subscribe_ne _ here] at found
    exact unheard ⟨i, found, below⟩

/-- After a step outside the condition the supervisor can be waiting for good. -/
theorem lost_of_not_heard {a : Action} (unheard : ¬ Heard s a) (moved : step s a = some t) :
    ∃ as u, system.Run Free t as u ∧ Lost u := by
  rcases not_and_or.mp unheard with early | late
  · obtain ⟨rfl, spawned⟩ := Classical.not_imp.mp early
    have spawned := not_not.mp spawned
    obtain ⟨-, ⟨⟩⟩ := Option.ite_none_right_eq_some.mp moved
    refine ⟨[.subscribeRetry, .attempt], _, .cons trivial (if_pos spawned) (.single trivial rfl),
      rfl, ?_, ?_⟩
    · exact not_pending_subscribe (s := State.subscribe _ .retry (.retrying 0))
        (Broadcast.Channel.subscribe_not_pending _ _)
    · exact Broadcast.Channel.subscribe_not_pending _ _
  · simp only [Classical.not_forall] at late
    obtain ⟨n, rfl, attempting, sent, missed⟩ := late
    simp only [step, State.startUp, attempting, Option.some.injEq] at moved
    subst moved
    refine ⟨[.subscribeProcess], _, .single trivial rfl, sent, rfl, ?_, ?_⟩
    · exact not_pending_subscribe missed
    · exact Broadcast.Channel.subscribe_not_pending _ _

/-- `Heard` as a check. -/
def heard (s : State) : Action → Bool
  | .forward => s.phase ≠ .spawned
  | .succeed => s.forwarded = false
  | _ => true

theorem heard_of_check (s : State) (a : Action) (passed : heard s a = true) : Heard s a := by
  constructor
  · rintro rfl
    exact of_decide_eq_true passed
  · rintro n rfl - sent
    rw [of_decide_eq_true passed] at sent
    cases sent

/-- A signal that arrives while the retry loop sleeps ends it. -/
theorem not_lost_sleeping : ∃ s, system.Reach Heard s ∧ s.forwarded = true ∧
    s.phase = .sleeping 0 false ∧ ¬ Lost s := by
  have initial : system.init .start := rfl
  obtain ⟨s, reached, held⟩ := Transition.System.exists_reach initial
    [.subscribeRetry, .attempt, .fail, .signal, .forward]
    (fun s => s.forwarded = true ∧ s.phase = .sleeping 0 false) heard heard_of_check
    (by decide +kernel)
  obtain ⟨sent, sleeping⟩ := of_decide_eq_true held
  exact ⟨s, reached, sent, sleeping, not_lost_of_heard reached⟩

/-- No receiver is subscribed when the forwarder re-sends the signal. -/
theorem signal_lost_before_subscription : ¬ ∀ s, system.Reachable s → ¬ Lost s := by
  intro heard
  have started : system.Reachable .start := .start rfl
  have signalled := started.next (a := .signal) trivial rfl
  have unheard := signalled.next (a := .forward) trivial rfl
  have subscribed := unheard.next (a := .subscribeRetry) trivial rfl
  have attempting := subscribed.next (a := .attempt) trivial rfl
  refine heard _ attempting ⟨rfl, ?_, ?_⟩
  · rintro ⟨i, found, below⟩
    exact absurd below (Nat.not_lt_zero i)
  · rintro ⟨i, found, below⟩
    exact absurd below (Nat.not_lt_zero i)

end Rathole.Startup
