import Rathole.HotReload
import Rathole.Supervisor
import Rathole.SupervisorStartup
import Rathole.Watcher

set_option autoImplicit false

/- `run_with_config` as a whole: the start-up and main loops, the watcher with the file it
watches, and the instances. What can end the two loops. -/
namespace Rathole.Process

open Broadcast (Channel)
open Broadcast.Channel (Closed)
open Transition.System (Free Run)

/-- `taken` counts the events that the main loop took from the event channel. -/
structure State (Text : Type) where
  startup : Startup.State
  watcher : Watcher.State Text
  supervisor : Supervisor.State
  taken : Nat

/-- `setup` is the way of `config_watcher` to its loop: the current directory, the watcher of
the operating system and the watch on the parent directory, each of which may fail. -/
inductive Action (Text : Type)
  | startup (a : Startup.Action)
  | files (a : Watcher.Action Text)
  | attempt
  | finishRead (text : Text) (order : HashOrder)
  | setup (ok : Bool)
  | watcherShutdown
  | event
  | handled
  | eventsClosed
  | processShutdown
  | supervisor (a : Supervisor.Action)

/-- The steps of the forwarder and of the start-up that touch nothing else. -/
def aloneInStartup : Startup.Action → Bool
  | .signal | .forward | .subscribeRetry | .elapse | .wake | .stop | .subscribeProcess => true
  | _ => false

/-- Other programs, the operating system, and the watcher in its loop. -/
def aloneInFiles {Text : Type} : Watcher.Action Text → Bool
  | .write .. | .touch | .deliver | .receive | .rescan .. => true
  | _ => false

/-- The handling of an event, and the instances: an exit may be an error or a panic. -/
def aloneInSupervisor : Supervisor.Action → Bool
  | .forward | .join | .poll _ | .receiveShutdown _ | .takeUpdate _ | .exit _ => true
  | _ => false

variable {Text : Type} [DecidableEq Text] (tomlFromStr : Text → Except String Config)

namespace State

def onStartup (s : State Text) (a : Startup.Action) : Option (State Text) :=
  (Startup.step s.startup a).map fun t => { s with startup := t }

def onWatcher (s : State Text) (a : Watcher.Action Text) : Option (State Text) :=
  (Watcher.step tomlFromStr s.watcher a).map fun t => { s with watcher := t }

def onSupervisor (s : State Text) (a : Supervisor.Action) : Option (State Text) :=
  (Supervisor.step s.supervisor a).map fun t => { s with supervisor := t }

/-- The end of `ConfigWatcherHandle::new`, which fails when the configuration is not accepted. -/
def finishRead (s : State Text) (text : Text) (order : HashOrder) : Option (State Text) :=
  (s.onWatcher tomlFromStr (.finishRead text order)).bind fun t =>
    t.onStartup (if t.watcher.phase = .idle then .fail else .succeed)

/-- A failed set-up returns from the detached task, which drops the sender of the events. -/
def setup (s : State Text) (ok : Bool) : Option (State Text) :=
  match s.watcher.phase, ok with
  | .spawned _, true => s.onWatcher tomlFromStr .register
  | .spawned _, false =>
    { s with watcher := { s.watcher with phase := .exited } }.onStartup .watcherFail
  | _, _ => none

def event (s : State Text) : Option (State Text) :=
  match s.watcher.sent[s.taken]? with
  | none => none
  | some ev =>
    ({ s with taken := s.taken + 1 }.onStartup .event).bind fun t =>
      t.onSupervisor (match ev with
        | .general config => .general config
        | change => .serviceChange change)

end State

def step (s : State Text) : Action Text → Option (State Text)
  | .startup a => if aloneInStartup a then s.onStartup a else none
  | .files a => if aloneInFiles a then s.onWatcher tomlFromStr a else none
  | .attempt => (s.onStartup .attempt).bind fun t => t.onWatcher tomlFromStr .beginRead
  | .finishRead text order => s.finishRead tomlFromStr text order
  | .setup ok => s.setup tomlFromStr ok
  | .watcherShutdown =>
    (s.onWatcher tomlFromStr .shutdown).bind fun t => t.onStartup .watcherShutdown
  | .event => s.event
  | .handled => if s.supervisor.loop = .selecting then s.onStartup .handled else none
  -- `recv` yields `None` once the sender is gone and the queue is empty.
  | .eventsClosed =>
    if s.watcher.sent.length ≤ s.taken then
      (s.onStartup .eventsClosed).bind fun t => t.onSupervisor .eventsClosed
    else none
  | .processShutdown =>
    (s.onStartup .processShutdown).bind fun t => t.onSupervisor .processShutdown
  | .supervisor a => if aloneInSupervisor a then s.onSupervisor a else none

def system : Transition.System (State Text) (Action Text) where
  init s := ∃ file, s = ⟨.start, ⟨file, .idle, 0, 0, []⟩, .start, 0⟩
  step := step tomlFromStr

/-- The two loops are left by the shutdown signal only, and the event channel is open before. -/
structure OnlyShutdownEnds (s : State Text) : Prop where
  left : s.startup.phase = .returned → s.startup.signalled = true
  closed : ∀ t, step tomlFromStr s .eventsClosed = some t → s.startup.signalled = true

/-- The watch on the file is set up without an error. -/
def Watches (_ : State Text) (a : Action Text) : Prop := a ≠ .setup false

section Startup

open Startup (Phase Receiver)

variable {s t : Startup.State} {a : Startup.Action}

def Subscribed (s : Startup.State) (r : Receiver) : Prop :=
  ∃ i, s.shutdown.cursors.lookup r = some i

/-- The receiver of `process_shutdown_rx` is polled. -/
def inMainLoop : Phase → Bool
  | .selecting _ | .handling _ => true
  | _ => false

/-- Every receiver that is polled is subscribed to a channel that stays open, and only the
forwarder sends. The watcher ends by the value alone. -/
structure Alive (s : Startup.State) : Prop where
  told : s.forwarded = true → s.signalled = true
  sent : s.shutdown.log ≠ [] → s.forwarded = true
  senders : s.shutdown.senders = if s.forwarded then 1 else 2
  retry : s.phase.polls = true → Subscribed s .retry
  attempt : ∀ n, s.phase = .attempting n → Subscribed s (.attempt n)
  watching : ∀ n, s.phase.watched = some n →
    if s.watcher then Subscribed s (.attempt n) else s.forwarded = true
  process : inMainLoop s.phase = true → Subscribed s .process
  left : s.phase = .returned → s.signalled = true

/-- A receiver wakes by the forwarded value only. -/
theorem Alive.of_ready (alive : Alive s) {r : Receiver} (subscribed : Subscribed s r)
    (ready : s.ready r = true) : s.forwarded = true := by
  apply alive.sent
  intro empty
  obtain ⟨i, found⟩ := subscribed
  have open_ : ¬ Closed s.shutdown := by
    intro closed
    have senders := alive.senders
    rw [show s.shutdown.senders = 0 from closed] at senders
    split at senders <;> omega
  have silent : (s.shutdown.recv r).1 = .empty := by
    apply Broadcast.Channel.recv_empty_iff.mpr
    exact ⟨⟨i, found, by simp [empty]⟩, open_⟩
  simp [Startup.State.ready, silent] at ready

theorem Alive.goto (alive : Alive s) (next : Phase)
    (polls : next.polls = true → s.phase.polls = true)
    (attempting : ∀ n, next ≠ .attempting n)
    (watched : ∀ n, next.watched = some n → s.phase.watched = some n)
    (mainLoop : inMainLoop next = true → inMainLoop s.phase = true)
    (left : next = .returned → s.signalled = true) : Alive (s.goto next) where
  told := alive.told
  sent := alive.sent
  senders := alive.senders
  retry polled := alive.retry (polls polled)
  attempt n same := absurd same (attempting n)
  watching n same := alive.watching n (watched n same)
  process here := alive.process (mainLoop here)
  left := left

theorem Alive.returned (alive : Alive s) (signalled : s.signalled = true) :
    Alive (s.goto .returned) := by
  apply alive.goto
  · simp [Phase.polls]
  · simp
  · simp [Phase.watched]
  · simp [inMainLoop]
  · exact fun _ => signalled

theorem Subscribed.subscribe {r : Receiver} (subscribed : Subscribed s r) (r' : Receiver)
    (next : Phase) : Subscribed (s.subscribe r' next) r := by
  by_cases here : r = r'
  · exact ⟨s.shutdown.log.length, here ▸ Finmap.lookup_insert _⟩
  · obtain ⟨i, found⟩ := subscribed
    exact ⟨i, (Startup.lookup_subscribe_ne _ here).trans found⟩

theorem subscribed_now (r : Receiver) (next : Phase) : Subscribed (s.subscribe r next) r :=
  ⟨s.shutdown.log.length, Finmap.lookup_insert _⟩

theorem Alive.subscribe (alive : Alive s) (r : Receiver) (next : Phase)
    (polls : next.polls = true → s.phase.polls = true ∨ r = .retry)
    (attempting : ∀ n, next = .attempting n → r = .attempt n)
    (watched : ∀ n, next.watched = some n → s.phase.watched = some n)
    (mainLoop : inMainLoop next = true → inMainLoop s.phase = true ∨ r = .process)
    (left : next ≠ .returned) : Alive (s.subscribe r next) where
  told := alive.told
  sent := alive.sent
  senders := alive.senders
  retry polled := by
    rcases polls polled with before | here
    · exact (alive.retry before).subscribe r next
    · exact here ▸ subscribed_now r next
  attempt n same := attempting n same ▸ subscribed_now r next
  watching n same := by
    have before := alive.watching n (watched n same)
    show if s.watcher = true then Subscribed (s.subscribe r next) (.attempt n)
      else s.forwarded = true
    split at before
    · next on => exact (if_pos on).symm ▸ before.subscribe r next
    · next off => exact (if_neg off).symm ▸ before
  process here := by
    rcases mainLoop here with before | now
    · exact (alive.process before).subscribe r next
    · exact now ▸ subscribed_now r next
  left same := absurd same left

theorem Alive.forward (alive : Alive s) (moved : s.forward = some t) : Alive t := by
  obtain ⟨⟨signalled, unsent⟩, same⟩ := Option.ite_none_right_eq_some.mp moved
  cases same
  have cursors : ((s.shutdown.send true).dropSender).cursors = s.shutdown.cursors := by
    simp [Channel.dropSender]
  have kept : ∀ r, Subscribed s r →
      Subscribed { s with forwarded := true, shutdown := (s.shutdown.send true).dropSender } r := by
    intro r subscribed
    simpa only [Subscribed, cursors] using subscribed
  constructor
  · exact fun _ => signalled
  · exact fun _ => rfl
  · have senders := alive.senders
    simp only [unsent] at senders
    simp only [Channel.dropSender, Broadcast.Channel.send_senders, senders]
    simp
  · exact fun polled => kept _ (alive.retry polled)
  · exact fun n same => kept _ (alive.attempt n same)
  · intro n same
    have before := alive.watching n same
    show if s.watcher = true then _ else _
    split at before
    · next on => exact (if_pos on).symm ▸ kept _ before
    · next off => exact (if_neg off).symm ▸ rfl
  · exact fun here => kept _ (alive.process here)
  · exact fun _ => signalled

theorem Subscribed.drop {r : Receiver} (subscribed : Subscribed s r) {n : Nat}
    (other : r ≠ .attempt n) :
    Subscribed { s with shutdown := s.shutdown.dropReceiver (.attempt n) } r := by
  obtain ⟨i, found⟩ := subscribed
  exact ⟨i, (Startup.lookup_drop_ne _ other).trans found⟩

theorem Alive.fail (alive : Alive s) (moved : s.fail = some t) : Alive t := by
  unfold Startup.State.fail at moved
  split at moved
  · next n attempting =>
    cases moved
    have retry := alive.retry (by rw [attempting]; rfl)
    have dropped : Alive ({ s with shutdown := s.shutdown.dropReceiver (.attempt n) }.goto
        (.sleeping n false)) := by
      constructor
      · exact alive.told
      · exact alive.sent
      · exact alive.senders
      · exact fun _ => retry.drop (by simp)
      · simp [Startup.State.goto]
      · simp [Startup.State.goto, Phase.watched]
      · simp [Startup.State.goto, inMainLoop]
      · simp [Startup.State.goto]
    split
    · next ready =>
      apply dropped.returned
      apply alive.told
      exact dropped.of_ready (retry.drop (by simp)) ready
    · exact dropped
  · cases moved

/-- The watcher ends after the signal was re-sent. -/
theorem Alive.endWatcher {n : Nat} (alive : Alive s) (watched : s.phase.watched = some n)
    (sent : s.forwarded = true) : Alive (s.endWatcher n) := by
  constructor
  · exact alive.told
  · exact alive.sent
  · exact alive.senders
  · intro polled
    have polled : s.phase.polls = true := polled
    cases phase : s.phase <;> simp [phase, Phase.watched, Phase.polls] at watched polled
  · intro m same
    have same : s.phase = .attempting m := same
    simp [same, Phase.watched] at watched
  · intro m _
    exact sent
  · exact fun here => (alive.process here).drop (by simp)
  · exact alive.left

theorem Alive.startUp (alive : Alive s) (moved : s.startUp a = some t) : Alive t := by
  cases a with
  | subscribeRetry =>
    obtain ⟨spawned, same⟩ := Option.ite_none_right_eq_some.mp moved
    cases same
    apply alive.subscribe <;> simp [Phase.watched, inMainLoop]
  | attempt =>
    simp only [Startup.State.startUp] at moved
    split at moved
    · next n retrying =>
      cases moved
      apply alive.subscribe <;> simp [Phase.watched, Phase.polls, inMainLoop, retrying]
    · cases moved
  | succeed =>
    simp only [Startup.State.startUp] at moved
    split at moved
    · next n attempting =>
      cases moved
      constructor
      · exact alive.told
      · exact alive.sent
      · exact alive.senders
      · simp [Startup.State.goto, Phase.polls]
      · simp [Startup.State.goto]
      · intro m same
        have same : n = m := by simpa [Startup.State.goto, Phase.watched] using same
        exact same ▸ alive.attempt n attempting
      · simp [Startup.State.goto, inMainLoop]
      · simp [Startup.State.goto]
    · cases moved
  | fail => exact alive.fail moved
  | elapse =>
    simp only [Startup.State.startUp] at moved
    split at moved
    · next n elapsed sleeping =>
      cases moved
      apply alive.goto <;> simp [Phase.watched, Phase.polls, inMainLoop, sleeping]
    · cases moved
  | wake =>
    simp only [Startup.State.startUp] at moved
    split at moved
    · next n sleeping =>
      cases moved
      apply alive.goto <;> simp [Phase.watched, Phase.polls, inMainLoop, sleeping]
    · cases moved
  | stop =>
    simp only [Startup.State.startUp] at moved
    split at moved
    · next n elapsed sleeping =>
      obtain ⟨ready, same⟩ := Option.ite_none_right_eq_some.mp moved
      cases same
      have retry := alive.retry (by rw [sleeping]; rfl)
      exact alive.returned (alive.told (alive.of_ready retry ready))
    · cases moved
  | subscribeProcess =>
    simp only [Startup.State.startUp] at moved
    split at moved
    · next n connected =>
      cases moved
      apply alive.subscribe <;> simp [Phase.watched, Phase.polls, inMainLoop, connected]
    · cases moved
  | _ => cases moved

theorem Alive.main (alive : Alive s) (watches : a ≠ .watcherFail) (moved : s.main a = some t) :
    Alive t := by
  cases a with
  | watcherShutdown =>
    simp only [Startup.State.main] at moved
    split at moved
    · next n watched =>
      obtain ⟨⟨on, ready⟩, same⟩ := Option.ite_none_right_eq_some.mp moved
      cases same
      have subscribed := alive.watching n watched
      rw [if_pos on] at subscribed
      exact alive.endWatcher watched (alive.of_ready subscribed ready)
    · cases moved
  | watcherFail => exact absurd rfl watches
  | event =>
    simp only [Startup.State.main] at moved
    split at moved
    · next n selecting =>
      cases moved
      apply alive.goto <;> simp [Phase.watched, Phase.polls, inMainLoop, selecting]
    · cases moved
  | handled =>
    simp only [Startup.State.main] at moved
    split at moved
    · next n handling =>
      cases moved
      apply alive.goto <;> simp [Phase.watched, Phase.polls, inMainLoop, handling]
    · cases moved
  | eventsClosed =>
    simp only [Startup.State.main] at moved
    split at moved
    · next n selecting =>
      obtain ⟨off, same⟩ := Option.ite_none_left_eq_some.mp moved
      cases same
      have ended := alive.watching n (by rw [selecting]; rfl)
      rw [if_neg off] at ended
      exact alive.returned (alive.told ended)
    · cases moved
  | processShutdown =>
    simp only [Startup.State.main] at moved
    split at moved
    · next n selecting =>
      obtain ⟨ready, same⟩ := Option.ite_none_right_eq_some.mp moved
      cases same
      have process := alive.process (by rw [selecting]; rfl)
      exact alive.returned (alive.told (alive.of_ready process ready))
    · cases moved
  | _ => cases moved

theorem Alive.step (alive : Alive s) (watches : a ≠ .watcherFail)
    (moved : Startup.step s a = some t) : Alive t := by
  cases a with
  | signal =>
    obtain ⟨-, same⟩ := Option.ite_none_left_eq_some.mp moved
    cases same
    exact ⟨fun _ => rfl, alive.sent, alive.senders, alive.retry, alive.attempt, alive.watching,
      alive.process, fun _ => rfl⟩
  | forward => exact alive.forward moved
  | subscribeRetry => exact alive.startUp (a := .subscribeRetry) moved
  | attempt => exact alive.startUp (a := .attempt) moved
  | succeed => exact alive.startUp (a := .succeed) moved
  | fail => exact alive.startUp (a := .fail) moved
  | elapse => exact alive.startUp (a := .elapse) moved
  | wake => exact alive.startUp (a := .wake) moved
  | stop => exact alive.startUp (a := .stop) moved
  | subscribeProcess => exact alive.startUp (a := .subscribeProcess) moved
  | watcherShutdown => exact alive.main (a := .watcherShutdown) watches moved
  | watcherFail => exact absurd rfl watches
  | event => exact alive.main (a := .event) watches moved
  | handled => exact alive.main (a := .handled) watches moved
  | eventsClosed => exact alive.main (a := .eventsClosed) watches moved
  | processShutdown => exact alive.main (a := .processShutdown) watches moved

theorem eventsClosed_cases (moved : Startup.step s .eventsClosed = some t) :
    t = s.goto .returned := by
  simp only [Startup.step, Startup.State.main] at moved
  split at moved
  · obtain ⟨-, same⟩ := Option.ite_none_left_eq_some.mp moved
    exact (Option.some.inj same).symm
  · cases moved

theorem alive_start : Alive .start := by
  constructor <;> simp [Startup.State.start, Channel.new, Channel.clone, Phase.polls,
    Phase.watched, inMainLoop]

/-- What ends the two loops of the start-up model, when the watcher does not fail. -/
theorem signalled_of_returned
    (reached : Startup.system.Reach (fun _ a => a ≠ .watcherFail) s) : Alive s := by
  apply reached.invariant
  · intro s initial
    exact initial ▸ alive_start
  · intro s a t watches moved alive
    exact alive.step watches moved

end Startup

section Process

variable {s t : State Text} {a : Action Text}

omit [DecidableEq Text] in
theorem onStartup_cases {b : Startup.Action} (moved : s.onStartup b = some t) :
    Startup.step s.startup b = some t.startup := by
  obtain ⟨u, stepped, rfl⟩ := Option.map_eq_some_iff.mp moved
  exact stepped

theorem onWatcher_startup {b : Watcher.Action Text} (moved : s.onWatcher tomlFromStr b = some t) :
    t.startup = s.startup := by
  obtain ⟨u, -, rfl⟩ := Option.map_eq_some_iff.mp moved
  rfl

omit [DecidableEq Text] in
theorem onSupervisor_startup {b : Supervisor.Action} (moved : s.onSupervisor b = some t) :
    t.startup = s.startup := by
  obtain ⟨u, -, rfl⟩ := Option.map_eq_some_iff.mp moved
  rfl

/-- A step of the process is a step of the start-up model, or none of its steps. -/
theorem startup_step (watches : Watches s a) (moved : step tomlFromStr s a = some t) :
    t.startup = s.startup ∨
      ∃ b, b ≠ .watcherFail ∧ Startup.step s.startup b = some t.startup := by
  cases a with
  | startup b =>
    obtain ⟨alone, moved⟩ := Option.ite_none_right_eq_some.mp moved
    refine Or.inr ⟨b, ?_, onStartup_cases moved⟩
    intro failed
    subst failed
    cases alone
  | files b =>
    obtain ⟨-, moved⟩ := Option.ite_none_right_eq_some.mp moved
    exact Or.inl (onWatcher_startup tomlFromStr moved)
  | attempt =>
    obtain ⟨u, first, second⟩ := Option.bind_eq_some_iff.mp moved
    have same := onWatcher_startup tomlFromStr second
    exact Or.inr ⟨.attempt, by simp, same ▸ onStartup_cases first⟩
  | finishRead text order =>
    obtain ⟨u, first, second⟩ := Option.bind_eq_some_iff.mp moved
    have same := onWatcher_startup tomlFromStr first
    refine Or.inr ⟨_, ?_, same ▸ onStartup_cases second⟩
    split <;> simp
  | setup ok =>
    change s.setup tomlFromStr ok = some t at moved
    unfold State.setup at moved
    split at moved
    · exact Or.inl (onWatcher_startup tomlFromStr moved)
    · exact absurd rfl watches
    · cases moved
  | watcherShutdown =>
    obtain ⟨u, first, second⟩ := Option.bind_eq_some_iff.mp moved
    have same := onWatcher_startup tomlFromStr first
    exact Or.inr ⟨.watcherShutdown, by simp, same ▸ onStartup_cases second⟩
  | event =>
    change s.event = some t at moved
    unfold State.event at moved
    split at moved
    · cases moved
    · obtain ⟨u, first, second⟩ := Option.bind_eq_some_iff.mp moved
      have same := onSupervisor_startup second
      have stepped := onStartup_cases (s := { s with taken := s.taken + 1 }) first
      exact Or.inr ⟨.event, by simp, same ▸ stepped⟩
  | handled =>
    obtain ⟨-, moved⟩ := Option.ite_none_right_eq_some.mp moved
    exact Or.inr ⟨.handled, by simp, onStartup_cases moved⟩
  | eventsClosed =>
    obtain ⟨-, moved⟩ := Option.ite_none_right_eq_some.mp moved
    obtain ⟨u, first, second⟩ := Option.bind_eq_some_iff.mp moved
    have same := onSupervisor_startup second
    exact Or.inr ⟨.eventsClosed, by simp, same ▸ onStartup_cases first⟩
  | processShutdown =>
    obtain ⟨u, first, second⟩ := Option.bind_eq_some_iff.mp moved
    have same := onSupervisor_startup second
    exact Or.inr ⟨.processShutdown, by simp, same ▸ onStartup_cases first⟩
  | supervisor b =>
    obtain ⟨-, moved⟩ := Option.ite_none_right_eq_some.mp moved
    exact Or.inl (onSupervisor_startup moved)

/-- The process runs through states of the start-up model. -/
theorem startup_reach (reached : (system tomlFromStr).Reach Watches s) :
    Startup.system.Reach (fun _ a => a ≠ .watcherFail) s.startup := by
  apply reached.invariant
  · intro s initial
    obtain ⟨file, same⟩ := initial
    subst same
    exact .start rfl
  · intro s a t watches moved before
    rcases startup_step tomlFromStr watches moved with same | ⟨b, allowed, stepped⟩
    · exact same ▸ before
    · exact before.next allowed stepped

/-- In runs in which the watch on the file is always set up, nothing but the signal ends the
loops. -/
theorem only_shutdown_ends_of_watches (reached : (system tomlFromStr).Reach Watches s) :
    OnlyShutdownEnds tomlFromStr s := by
  constructor
  · exact (signalled_of_returned (startup_reach tomlFromStr reached)).left
  · intro t moved
    have alive := signalled_of_returned (startup_reach tomlFromStr reached)
    obtain ⟨-, moved⟩ := Option.ite_none_right_eq_some.mp moved
    obtain ⟨u, first, -⟩ := Option.bind_eq_some_iff.mp moved
    have closed := onStartup_cases first
    have later := alive.step (by simp) closed
    rw [eventsClosed_cases closed] at later
    exact later.left rfl

theorem eventsClosed_of_ended {n : Nat} (selecting : s.startup.phase = .selecting n)
    (ended : s.startup.watcher = false) (idle : s.supervisor.loop = .selecting)
    (drained : s.watcher.sent.length ≤ s.taken) :
    step tomlFromStr s .eventsClosed = some { s with
      startup := s.startup.goto .returned
      supervisor := s.supervisor.teardown } := by
  simp [step, drained, State.onStartup, Startup.step, Startup.State.main, selecting, ended,
    State.onSupervisor, Supervisor.step, idle]

/-- Once the watch could not be set up, the main loop ends as soon as it has handled what is in
the event channel. -/
theorem ends_of_setup_failed {n : Nat} (failed : step tomlFromStr s (.setup false) = some t)
    (selecting : s.startup.phase = .selecting n) (idle : s.supervisor.loop = .selecting)
    (drained : s.watcher.sent.length ≤ s.taken) :
    ∃ u, step tomlFromStr t .eventsClosed = some u ∧ u.startup.phase = .returned ∧
      u.startup.signalled = s.startup.signalled := by
  change s.setup tomlFromStr false = some t at failed
  unfold State.setup at failed
  split at failed
  · next contra => cases contra
  · obtain ⟨u, ended, same⟩ := Option.map_eq_some_iff.mp failed
    simp only [Startup.step, Startup.State.main, selecting, Startup.Phase.watched] at ended
    split at ended
    · cases ended
      subst same
      exact ⟨_, eventsClosed_of_ended tomlFromStr selecting rfl idle drained, rfl, rfl⟩
    · cases ended
  · cases failed

end Process

section Runs

def begun : State Config where
  startup := .start
  watcher := ⟨webConfig "old", .idle, 0, 0, []⟩
  supervisor := .start
  taken := 0

def reading : State Config where
  startup := (Startup.State.start.subscribe .retry (.retrying 0)).subscribe (.attempt 0)
    (.attempting 0)
  watcher := ⟨webConfig "old", .loading false, 0, 0, []⟩
  supervisor := .start
  taken := 0

/-- The configuration is accepted, and the watch is to be set up. -/
def accepted : State Config where
  startup := { reading.startup.goto (.connected 0) with watcher := true }
  watcher := ⟨webConfig "old", .spawned (webConfig "old"), 0, 0, [.general (webConfig "old")]⟩
  supervisor := .start
  taken := 0

theorem accepted_of_reading :
    step .ok reading (.finishRead (webConfig "old") HashOrder.some) = some accepted := by
  have read : Watcher.step .ok reading.watcher
      (.finishRead (webConfig "old") HashOrder.some) = some accepted.watcher := by
    simp only [Watcher.step, Watcher.State.finishRead, (webConfig_accepted HashOrder.some).1]
    rfl
  simp only [step, State.finishRead, State.onWatcher, read]
  rfl

theorem accepted_reach : (system .ok).Reach Watches accepted := by
  have started : (system .ok).Reach Watches begun := .start ⟨_, rfl⟩
  have subscribed := started.next (a := .startup .subscribeRetry) (by simp [Watches]) rfl
  have reading : (system .ok).Reach Watches reading :=
    subscribed.next (a := .attempt) (by simp [Watches]) rfl
  exact reading.next (a := .finishRead (webConfig "old") HashOrder.some) (by simp [Watches])
    accepted_of_reading

/-- An instance that ends with an error does not end the process; the signal does. -/
theorem only_shutdown_ends_bind_error : ∃ s : State Config, (system .ok).Reach Watches s ∧
    s.startup.phase = .returned ∧ OnlyShutdownEnds .ok s := by
  have watching := accepted_reach.next (a := .setup true) (by simp [Watches]) rfl
  have selecting := watching.next (a := .startup .subscribeProcess) (by simp [Watches]) rfl
  have taken := selecting.next (a := .event) (by simp [Watches]) rfl
  have polled := taken.next (a := .supervisor (.poll 0)) (by simp [Watches]) rfl
  have exited := polled.next (a := .supervisor (.exit 0)) (by simp [Watches]) rfl
  have handled := exited.next (a := .handled) (by simp [Watches]) rfl
  have signalled := handled.next (a := .startup .signal) (by simp [Watches]) rfl
  have forwarded := signalled.next (a := .startup .forward) (by simp [Watches]) rfl
  have stopped := forwarded.next (a := .processShutdown) (by simp [Watches]) rfl
  exact ⟨_, stopped, rfl, only_shutdown_ends_of_watches .ok stopped⟩

/-- The watch on the file cannot be set up: after the first event the channel is closed. -/
theorem ended_without_signal : ¬ ∀ (s : State Config), (system .ok).Reachable s →
    OnlyShutdownEnds .ok s := by
  intro ends
  have failed := accepted_reach.reachable.next (a := .setup false) trivial rfl
  have selecting := failed.next (a := .startup .subscribeProcess) trivial rfl
  have taken := selecting.next (a := .event) trivial rfl
  have handled := taken.next (a := .handled) trivial rfl
  have closed := handled.next (a := .eventsClosed) trivial rfl
  have signalled := (ends _ closed).left rfl
  cases signalled

end Runs

end Rathole.Process
