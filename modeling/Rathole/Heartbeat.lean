import Mathlib.Tactic.Linarith
import Rathole.ControlChannel

set_option autoImplicit false

/- Heartbeats in time: the loop of the server beside the loop of the client that waits for
its commands. Branches that are ready are taken at once and writes take no time. -/
namespace Rathole.Heartbeat

open ControlChannel (Time Phase ControlChannelCmd running_of_selecting running_of_step stuck_cases
  wrote_cases)

/-- The loop of the client's `ControlChannel::run`. -/
inductive Client
  | connecting
  /-- at the `select!`, with the time its sleep elapses -/
  | selecting (timeout : Time)
  | timedOut
  | stopped
  deriving DecidableEq

structure State where
  server : ControlChannel.State
  client : Client
  deriving DecidableEq

/-- The connection pool sends a request, a data channel arrives, and their senders go. -/
inductive Action
  | server (a : ControlChannel.Action)
  | request
  | arrive
  | dropRequester
  | dropHandle
  | connect
  | timeOut
  | stop
  deriving DecidableEq

/-- A branch of the server's `select!` is ready that is no timer. -/
def ready (s : ControlChannel.State) : Prop :=
  s.requests ≠ 0 ∨ s.requesters = 0 ∨ s.arrivals ≠ 0 ∨ s.handle = false

instance (s : ControlChannel.State) : Decidable (ready s) :=
  inferInstanceAs (Decidable (_ ∨ _ ∨ _ ∨ _))

/-- No branch of the server's `select!` is ready before `d` has passed. -/
def idle (heartbeatInterval : UInt64) (s : ControlChannel.State) (d : Time) : Prop :=
  s.phase = .selecting ∧ ¬ ready s ∧
    (heartbeatInterval ≠ 0 → s.now + d ≤ s.heartbeat) ∧
    ∀ deadline ∈ s.dataChDeadline, s.now + d ≤ deadline

instance (heartbeatInterval : UInt64) (s : ControlChannel.State) (d : Time) :
    Decidable (idle heartbeatInterval s d) :=
  inferInstanceAs (Decidable (_ ∧ _ ∧ _ ∧ _))

namespace State

/-- A client at its loop reads a command as soon as it is written. -/
def read (s : State) (heartbeatTimeout : UInt64) : Client :=
  match s.client with
  | .selecting _ => .selecting (s.server.now + heartbeatTimeout.toNat)
  | client => client

/-- The time that passes, and the other steps of the server. -/
def serve (heartbeatInterval heartbeatTimeout : UInt64) (s : State) (a : ControlChannel.Action) :
    Option State :=
  match a with
  | .elapse d =>
    if s.server.phase.isEnded ∨ idle heartbeatInterval s.server d then
      (s.server.elapse d).map fun server => { s with server := server }
    else none
  | .wrote true =>
    (s.server.wrote heartbeatInterval true).map fun server => ⟨server, s.read heartbeatTimeout⟩
  | a => (ControlChannel.step heartbeatInterval s.server a).map fun server =>
      { s with server := server }

def connect (heartbeatTimeout : UInt64) (s : State) : Option State :=
  if s.client = .connecting then
    some { s with client := .selecting (s.server.now + heartbeatTimeout.toNat) }
  else none

/-- The client's loop returns `Heartbeat timed out`. -/
def timeOut (heartbeatTimeout : UInt64) (s : State) : Option State :=
  match s.client with
  | .selecting timeout =>
    if heartbeatTimeout ≠ 0 ∧ timeout ≤ s.server.now then some { s with client := .timedOut }
    else none
  | _ => none

/-- The client's loop ends in another way. -/
def stop (s : State) : Option State :=
  match s.client with
  | .selecting _ => some { s with client := .stopped }
  | _ => none

end State

def step (heartbeatInterval heartbeatTimeout : UInt64) (s : State) : Action → Option State
  | .server a => s.serve heartbeatInterval heartbeatTimeout a
  | .request => s.server.request.map fun server => { s with server := server }
  | .arrive => some { s with server := s.server.arrive }
  | .dropRequester => some { s with server := s.server.dropRequester }
  | .dropHandle => some { s with server := s.server.dropHandle }
  | .connect => s.connect heartbeatTimeout
  | .timeOut => s.timeOut heartbeatTimeout
  | .stop => s.stop

/-- The pool starts with its requests in the queue. -/
def system (heartbeatInterval heartbeatTimeout : UInt64) : Transition.System State Action where
  init s := s.client = .connecting ∧
    ∃ requesters requests, s.server = .start heartbeatInterval requesters requests
  step := step heartbeatInterval heartbeatTimeout

/-- An arrival is taken at the time of the last command, or while a request is in the queue,
or once the handle is dropped. -/
def TakenInTime (s : State) (a : Action) : Prop :=
  a = .server .takeArrival →
    s.server.now = s.server.lastWrite ∨ s.server.requests ≠ 0 ∨ s.server.handle = false

instance (s : State) (a : Action) : Decidable (TakenInTime s a) :=
  inferInstanceAs (Decidable (_ → _))

section OnTime

variable {h : UInt64} {s t : ControlChannel.State}

/-- The last command is no older than the interval, and unless something else is ready the
sleep elapses as soon as it is that old. -/
structure OnTime (h : UInt64) (s : ControlChannel.State) : Prop where
  past : s.lastWrite ≤ s.now
  bound : s.phase.isEnded = false → s.now ≤ s.lastWrite + h.toNat
  sleep : s.phase = .selecting →
    s.heartbeat = s.lastWrite + h.toNat ∨ s.requests ≠ 0 ∨ s.handle = false

theorem OnTime.again (past : s.lastWrite ≤ s.now) (bound : s.now ≤ s.lastWrite + h.toNat)
    (timely : s.now = s.lastWrite ∨ s.requests ≠ 0 ∨ s.handle = false) :
    OnTime h (s.again h) := by
  refine ⟨past, fun _ => bound, fun _ => ?_⟩
  rcases timely with now | waits
  · left
    show s.now + (h.toNat : Time) = s.lastWrite + h.toNat
    rw [now]
  · exact .inr waits

theorem OnTime.finish (onTime : OnTime h s) (ending : ControlChannel.Ending) :
    OnTime h (s.finish ending) :=
  ⟨onTime.past, by simp [ControlChannel.State.finish, Phase.isEnded],
    by simp [ControlChannel.State.finish]⟩

theorem OnTime.write (onTime : OnTime h s) (running : s.phase.isEnded = false)
    (cmd : ControlChannelCmd) (requests : Nat) :
    OnTime h { s with phase := .writing cmd, requests := requests } :=
  ⟨onTime.past, fun _ => onTime.bound running, by simp⟩

theorem OnTime.takeArrival (onTime : OnTime h s)
    (timely : s.now = s.lastWrite ∨ s.requests ≠ 0 ∨ s.handle = false)
    (moved : s.takeArrival h = some t) : OnTime h t := by
  obtain ⟨⟨selecting, -⟩, ⟨⟩⟩ := Option.ite_none_right_eq_some.mp moved
  exact .again onTime.past (onTime.bound (running_of_selecting selecting)) timely

/-- The shutdown branch is ready once the queue of arrivals is closed. -/
theorem OnTime.closeArrivals (onTime : OnTime h s) (moved : s.closeArrivals h = some t) :
    OnTime h t := by
  obtain ⟨⟨selecting, -, -, dropped⟩, ⟨⟩⟩ := Option.ite_none_right_eq_some.mp moved
  exact .again onTime.past (onTime.bound (running_of_selecting selecting)) (.inr (.inr dropped))

theorem OnTime.wrote (onTime : OnTime h s) {ok : Bool} (moved : s.wrote h ok = some t) :
    OnTime h t := by
  obtain ⟨cmd, -, rfl⟩ := wrote_cases moved
  have later : s.now ≤ s.now + (h.toNat : Time) := le_add_of_nonneg_right (Nat.cast_nonneg _)
  cases ok with
  | true => cases cmd <;> exact .again le_rfl later (.inl rfl)
  | false => exact onTime.finish .writeFailed

theorem OnTime.step (onTime : OnTime h s) {a : ControlChannel.Action}
    (timely : a = .takeArrival → s.now = s.lastWrite ∨ s.requests ≠ 0 ∨ s.handle = false)
    (still : ∀ d, a ≠ .elapse d) (moved : ControlChannel.step h s a = some t) : OnTime h t := by
  cases a with
  | takeRequest =>
    obtain ⟨⟨selecting, -⟩, ⟨⟩⟩ := Option.ite_none_right_eq_some.mp moved
    exact onTime.write (running_of_selecting selecting) _ _
  | closeRequests =>
    obtain ⟨-, ⟨⟩⟩ := Option.ite_none_right_eq_some.mp moved
    exact onTime.finish _
  | takeArrival => exact onTime.takeArrival (timely rfl) moved
  | closeArrivals => exact onTime.closeArrivals moved
  | stuck =>
    obtain ⟨-, rfl⟩ := stuck_cases moved
    exact onTime.finish _
  | heartbeat =>
    obtain ⟨⟨selecting, -⟩, ⟨⟩⟩ := Option.ite_none_right_eq_some.mp moved
    exact onTime.write (running_of_selecting selecting) _ _
  | shutdown =>
    obtain ⟨-, ⟨⟩⟩ := Option.ite_none_right_eq_some.mp moved
    exact onTime.finish _
  | wrote ok => exact onTime.wrote moved
  | elapse d => exact absurd rfl (still d)

/-- Time that passes while no branch is ready ends with the sleep at the latest. -/
theorem OnTime.elapse (onTime : OnTime h s) (positive : h ≠ 0) {d : Time}
    (urgent : s.phase.isEnded = true ∨ idle h s d) (moved : s.elapse d = some t) :
    OnTime h t := by
  obtain ⟨forward, ⟨⟩⟩ := Option.ite_none_right_eq_some.mp moved
  have past : s.lastWrite ≤ s.now + d := le_trans onTime.past (le_add_of_nonneg_right forward)
  refine ⟨past, fun running => ?_, onTime.sleep⟩
  rcases urgent with ended | ⟨selecting, unready, timer, -⟩
  · rw [running] at ended
    cases ended
  · rcases onTime.sleep selecting with sleep | waits | dropped
    · exact sleep ▸ timer positive
    · exact absurd (.inl waits) unready
    · exact absurd (.inr (.inr (.inr dropped))) unready

theorem OnTime.request (onTime : OnTime h s) (sent : s.request = some t) : OnTime h t := by
  obtain ⟨-, ⟨⟩⟩ := Option.ite_none_left_eq_some.mp sent
  exact ⟨onTime.past, onTime.bound, fun _ => .inr (.inl (Nat.succ_ne_zero _))⟩

theorem OnTime.arrive (onTime : OnTime h s) : OnTime h s.arrive := by
  unfold ControlChannel.State.arrive
  split
  · exact onTime
  · exact ⟨onTime.past, onTime.bound, onTime.sleep⟩

theorem OnTime.start (requesters requests : Nat) :
    OnTime h (.start h requesters requests) := by
  have start : (0 : Time) + h.toNat = h.toNat := zero_add _
  exact ⟨le_rfl, fun _ => start.symm ▸ Nat.cast_nonneg _, fun _ => .inl start.symm⟩

/-- Only a write that succeeds moves the time of the last command. -/
theorem lastWrite_of_step {a : ControlChannel.Action} (unwritten : a ≠ .wrote true)
    (moved : ControlChannel.step h s a = some t) : t.lastWrite = s.lastWrite := by
  cases a with
  | stuck =>
    obtain ⟨-, rfl⟩ := stuck_cases moved
    rfl
  | wrote ok =>
    obtain ⟨cmd, -, rfl⟩ := wrote_cases moved
    cases ok with
    | true => exact absurd rfl unwritten
    | false => rfl
  | _ =>
    obtain ⟨-, ⟨⟩⟩ := Option.ite_none_right_eq_some.mp moved
    rfl

theorem lastWrite_of_wrote (moved : s.wrote h true = some t) : t.lastWrite = s.now := by
  obtain ⟨cmd, -, rfl⟩ := wrote_cases moved
  cases cmd <;> rfl

end OnTime

section Client

variable {h timeout : UInt64} {s t : State}

/-- The client's sleep is counted from the last command, or from later on. -/
structure Sound (h timeout : UInt64) (s : State) : Prop where
  server : OnTime h s.server
  client : s.server.phase.isEnded = false → s.client ≠ .timedOut
  sleep : s.server.phase.isEnded = false → ∀ wakes, s.client = .selecting wakes →
    s.server.lastWrite + timeout.toNat ≤ wakes

/-- A step of the server that writes nothing. -/
theorem Sound.keep (sound : Sound h timeout s) {server : ControlChannel.State}
    (onTime : OnTime h server) (lastWrite : server.lastWrite = s.server.lastWrite)
    (back : server.phase.isEnded = false → s.server.phase.isEnded = false) :
    Sound h timeout { s with server := server } := by
  refine ⟨onTime, fun running => sound.client (back running), fun running wakes waits => ?_⟩
  show server.lastWrite + (timeout.toNat : Time) ≤ wakes
  rw [lastWrite]
  exact sound.sleep (back running) wakes waits

theorem Sound.wrote (sound : Sound h timeout s) {server : ControlChannel.State}
    (moved : s.server.wrote h true = some server) :
    Sound h timeout ⟨server, s.read timeout⟩ := by
  have running : s.server.phase.isEnded = false := by
    obtain ⟨cmd, writing, -⟩ := wrote_cases moved
    rw [writing]
    rfl
  refine ⟨sound.server.wrote moved, fun _ => ?_, fun _ wakes waits => ?_⟩
  · show s.read timeout ≠ .timedOut
    unfold State.read
    split
    · simp
    · exact sound.client running
  · change s.read timeout = .selecting wakes at waits
    unfold State.read at waits
    split at waits
    · cases waits
      exact le_of_eq (by rw [lastWrite_of_wrote moved])
    · next other => exact absurd waits (other wakes)

theorem Sound.serve (sound : Sound h timeout s) (positive : h ≠ 0) {a : ControlChannel.Action}
    (timely : TakenInTime s (.server a)) (moved : s.serve h timeout a = some t) :
    Sound h timeout t := by
  unfold State.serve at moved
  split at moved
  · next d =>
    obtain ⟨urgent, moved⟩ := Option.ite_none_right_eq_some.mp moved
    obtain ⟨server, elapsed, rfl⟩ := Option.map_eq_some_iff.mp moved
    have elapsed : ControlChannel.step h s.server (.elapse d) = some server := elapsed
    exact sound.keep (sound.server.elapse positive urgent elapsed)
      (lastWrite_of_step (by simp) elapsed) (running_of_step elapsed)
  · obtain ⟨server, wrote, rfl⟩ := Option.map_eq_some_iff.mp moved
    exact sound.wrote wrote
  · next still unwritten =>
    obtain ⟨server, done, rfl⟩ := Option.map_eq_some_iff.mp moved
    have timely : a = .takeArrival → s.server.now = s.server.lastWrite ∨
        s.server.requests ≠ 0 ∨ s.server.handle = false := by
      intro same
      exact timely (by rw [same])
    exact sound.keep (sound.server.step timely still done) (lastWrite_of_step unwritten done)
      (running_of_step done)

theorem Sound.connect (sound : Sound h timeout s) (moved : s.connect timeout = some t) :
    Sound h timeout t := by
  obtain ⟨-, ⟨⟩⟩ := Option.ite_none_right_eq_some.mp moved
  refine ⟨sound.server, fun _ => by simp, fun _ wakes waits => ?_⟩
  cases waits
  linarith [sound.server.past]

/-- The sleep of the client cannot have elapsed while the last command is recent. -/
theorem Sound.timeOut (sound : Sound h timeout s) (longer : h < timeout)
    (moved : s.timeOut timeout = some t) : Sound h timeout t := by
  unfold State.timeOut at moved
  split at moved
  · next wakes waits =>
    obtain ⟨⟨-, elapsed⟩, ⟨⟩⟩ := Option.ite_none_right_eq_some.mp moved
    have ended : s.server.phase.isEnded = false → False := by
      intro running
      have bound := sound.server.bound running
      have sleep := sound.sleep running wakes waits
      have lengths : (h.toNat : Time) < timeout.toNat := by exact_mod_cast longer
      linarith
    refine ⟨sound.server, fun running => (ended running).elim, fun running => (ended running).elim⟩
  · cases moved

theorem Sound.stop (sound : Sound h timeout s) (moved : s.stop = some t) :
    Sound h timeout t := by
  unfold State.stop at moved
  split at moved
  · cases moved
    exact ⟨sound.server, fun _ => by simp, fun _ _ => by simp⟩
  · cases moved

theorem Sound.step (positive : h ≠ 0) (longer : h < timeout) {a : Action}
    (timely : TakenInTime s a) (moved : step h timeout s a = some t)
    (sound : Sound h timeout s) : Sound h timeout t := by
  cases a with
  | server a => exact sound.serve positive timely moved
  | request =>
    obtain ⟨server, sent, rfl⟩ := Option.map_eq_some_iff.mp moved
    obtain ⟨-, same⟩ := Option.ite_none_left_eq_some.mp sent
    refine sound.keep (sound.server.request sent) ?_ ?_ <;> cases same
    · rfl
    · exact id
  | arrive =>
    cases moved
    refine sound.keep sound.server.arrive ?_ ?_ <;> unfold ControlChannel.State.arrive <;> split
    all_goals first | rfl | exact id
  | dropRequester =>
    cases moved
    exact sound.keep ⟨sound.server.past, sound.server.bound, sound.server.sleep⟩ rfl id
  | dropHandle =>
    cases moved
    exact sound.keep ⟨sound.server.past, sound.server.bound, fun _ => .inr (.inr rfl)⟩ rfl id
  | connect => exact sound.connect moved
  | timeOut => exact sound.timeOut longer moved
  | stop => exact sound.stop moved

/-- While the server's loop runs, its last command is no older than the interval, and a
client that waits for longer does not time out, as long as no arrival delays a heartbeat. -/
theorem heartbeats_of_taken_in_time (positive : h ≠ 0) (longer : h < timeout)
    (reached : (system h timeout).Reach TakenInTime s) (running : s.server.phase.isEnded = false) :
    s.server.now - s.server.lastWrite ≤ h.toNat ∧ s.client ≠ .timedOut := by
  have sound : Sound h timeout s := by
    refine reached.invariant ?_ fun s a t timely moved => .step positive longer timely moved
    rintro s ⟨connecting, requesters, requests, started⟩
    refine ⟨started ▸ .start requesters requests, fun _ => ?_, fun _ wakes waits => ?_⟩
    · simp [connecting]
    · simp [connecting] at waits
  exact ⟨by linarith [sound.server.bound running], sound.client running⟩

theorem interval_le_dataChannelTimeout :
    (h.toNat : Time) ≤ ControlChannel.dataChannelTimeout h := by
  have bounded := h.toNat_lt_size
  have budget : h.toNat ≤ ControlChannel.dataChannelTimeout h := by
    unfold ControlChannel.dataChannelTimeout
    omega
  exact_mod_cast budget

theorem idle_of_takeArrival {server : ControlChannel.State}
    (taken : s.server.takeArrival h = some server) (unready : ¬ ready server) :
    idle h server h.toNat ∧ server.now = s.server.now ∧ server.lastWrite = s.server.lastWrite := by
  obtain ⟨-, ⟨⟩⟩ := Option.ite_none_right_eq_some.mp taken
  refine ⟨⟨rfl, unready, fun _ => le_rfl, fun deadline armed => ?_⟩, rfl, rfl⟩
  obtain ⟨-, ⟨⟩⟩ := Option.ite_none_right_eq_some.mp armed
  exact add_le_add_right interval_le_dataChannelTimeout s.server.now

theorem elapse_of_idle {d : Time} (unready : idle h s.server d) (forward : 0 ≤ d) :
    step h timeout s (.server (.elapse d)) =
      some { s with server := { s.server with now := s.server.now + d } } := by
  show (if _ then _ else none) = _
  rw [if_pos (.inr unready), ControlChannel.State.elapse, if_pos forward]
  rfl

/-- An arrival that delays the heartbeat: with nothing else to do, the loop lets the time
since its last command grow beyond the interval. -/
theorem exceeds_of_taken_late (late : s.server.lastWrite < s.server.now)
    (moved : step h timeout s (.server .takeArrival) = some t) (unready : ¬ ready t.server) :
    ∃ u, step h timeout t (.server (.elapse h.toNat)) = some u ∧
      h.toNat < u.server.now - u.server.lastWrite := by
  obtain ⟨server, taken, rfl⟩ := Option.map_eq_some_iff.mp moved
  obtain ⟨waits, now, lastWrite⟩ := idle_of_takeArrival taken unready
  refine ⟨_, elapse_of_idle waits (Nat.cast_nonneg _), ?_⟩
  show (h.toNat : Time) < server.now + h.toNat - server.lastWrite
  rw [now, lastWrite]
  linarith

end Client

/-- A server without pending requests. -/
def quietStart : State := ⟨.start 30 2 0, .connecting⟩

theorem quietStart_init : (system 30 40).init quietStart := ⟨rfl, 2, 0, rfl⟩

/-- A data channel is asked for, arrives at once, and a heartbeat is due 30 seconds later. -/
theorem heartbeats_taken_at_once : ∃ s, (system 30 40).Reach TakenInTime s ∧
    (s.server.now = 30 ∧ s.server.phase = .selecting) ∧
    s.server.now - s.server.lastWrite ≤ (30 : UInt64).toNat ∧ s.client ≠ .timedOut := by
  obtain ⟨s, reached, held⟩ := Transition.System.exists_reach quietStart_init
    [.connect, .request, .server .takeRequest, .server (.wrote true), .arrive,
      .server .takeArrival, .server (.elapse 30)]
    (fun s => s.server.now = 30 ∧ s.server.phase = .selecting)
    (fun s a => decide (TakenInTime s a)) (fun _ _ => of_decide_eq_true) (by decide +kernel)
  have selecting := of_decide_eq_true held
  exact ⟨s, reached, selecting,
    heartbeats_of_taken_in_time (by decide) (by decide) reached (by rw [selecting.2]; rfl)⟩

/-- The data channel takes 29 seconds to arrive. -/
theorem client_times_out_after_late_arrival : ¬ ∀ h timeout : UInt64, h ≠ 0 → h < timeout →
    ∀ s, (system h timeout).Reachable s → s.server.phase.isEnded = false →
      s.server.now - s.server.lastWrite ≤ h.toNat ∧ s.client ≠ .timedOut := by
  intro always
  obtain ⟨s, reached, held⟩ := Transition.System.exists_reachable quietStart_init
    [.connect, .request, .server .takeRequest, .server (.wrote true), .server (.elapse 29), .arrive,
      .server .takeArrival, .server (.elapse 30), .timeOut]
    (fun s => s.server.phase = .selecting ∧ s.server.now = 59 ∧ s.server.lastWrite = 0 ∧
      s.client = .timedOut) (by decide +kernel)
  obtain ⟨selecting, -, -, timedOut⟩ := of_decide_eq_true held
  exact (always 30 40 (by decide) (by decide) s reached (by rw [selecting]; rfl)).2 timedOut

end Rathole.Heartbeat
