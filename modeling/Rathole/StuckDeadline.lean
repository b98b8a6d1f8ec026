import Mathlib.Tactic.Linarith
import Rathole.ControlChannel

set_option autoImplicit false

/- The deadline of a control channel for its data channels, with the counter as a machine integer
and a log of what the loop has done. -/
namespace Rathole.StuckDeadline

open ControlChannel (Time Phase Ending ControlChannelCmd)

/-- What the loop does about data channels: it writes a request, or it processes an arrival. -/
inductive Event
  | written | arrived
  deriving DecidableEq

/-- The last event stands first. -/
abbrev Log := List (Time × Event)

/-- The requests that no arrival was processed for. An arrival too many counts for none. -/
def outstanding : Log → Nat
  | [] => 0
  | (_, .written) :: rest => outstanding rest + 1
  | (_, .arrived) :: rest => outstanding rest - 1

def lastArrival : Log → Option Time
  | [] => none
  | (moment, .arrived) :: _ => some moment
  | (_, .written) :: rest => lastArrival rest

/-- When the number of requests last rose from 0 to 1. -/
def lastRise : Log → Option Time
  | [] => none
  | (moment, .written) :: rest => if outstanding rest = 0 then some moment else lastRise rest
  | (_, .arrived) :: rest => lastRise rest

/-- When the requests were written, the first one first. -/
def writtenAt : Log → List Time
  | [] => []
  | (moment, .written) :: rest => writtenAt rest ++ [moment]
  | (_, .arrived) :: rest => writtenAt rest

def arrivedCount : Log → Nat
  | [] => 0
  | (_, .written) :: rest => arrivedCount rest
  | (_, .arrived) :: rest => arrivedCount rest + 1

/-- The requests are fulfilled in the order in which they were written. -/
def unfulfilled (log : Log) : List Time := (writtenAt log).drop (arrivedCount log)

structure Settings where
  heartbeatInterval : UInt64
  dataChTimeout : Time

/-- `sent` counts the arrivals that were ever sent. -/
structure State where
  now : Time
  phase : Phase
  requests : Nat
  requesters : Nat
  arrivals : Nat
  handle : Bool
  pendingDataCh : UInt32
  dataChDeadline : Option Time
  arrivedRxClosed : Bool
  heartbeat : Time
  sent : Nat
  log : Log

/-- The queues are filled and closed by others; the loop takes a branch of its `select!` or ends
a write; time passes. -/
inductive Action
  | request
  | arrive
  | dropRequester
  | dropHandle
  | takeRequest
  | closeRequests
  | takeArrival
  | closeArrivals
  | stuck
  | heartbeat
  | shutdown
  | wrote (ok : Bool)
  | elapse (d : Time)
  deriving DecidableEq

namespace State

variable (settings : Settings)

def start (requesters requests : Nat) : State where
  now := 0
  phase := .selecting
  requests := requests
  requesters := requesters
  arrivals := 0
  handle := true
  pendingDataCh := 0
  dataChDeadline := none
  arrivedRxClosed := false
  heartbeat := settings.heartbeatInterval.toNat
  sent := 0
  log := []

/-- The next turn of the loop. -/
def again (s : State) : State :=
  { s with phase := .selecting, heartbeat := s.now + settings.heartbeatInterval.toNat }

def finish (s : State) (ending : Ending) : State :=
  { s with phase := .ended ending, requests := 0, arrivals := 0 }

/-- `time::sleep(self.data_ch_timeout)`. -/
def budget (s : State) : Time := s.now + settings.dataChTimeout

/-- `saturating_sub(1)`. -/
def saturatingPred (n : UInt32) : UInt32 := if n = 0 then 0 else n - 1

def arrived (s : State) : State :=
  let pendingDataCh := saturatingPred s.pendingDataCh
  { s with
    arrivals := s.arrivals - 1
    pendingDataCh := pendingDataCh
    dataChDeadline := if 0 < pendingDataCh then some (s.budget settings) else none
    log := (s.now, .arrived) :: s.log }

/-- The counter wraps around in a release build. -/
def written (s : State) : ControlChannelCmd → State
  | .createDataChannel =>
    { s with
      pendingDataCh := s.pendingDataCh + 1
      dataChDeadline := some (s.dataChDeadline.getD (s.budget settings))
      log := (s.now, .written) :: s.log }
  | .heartBeat => s

def wrote (s : State) (ok : Bool) : Option State :=
  match s.phase with
  | .writing cmd =>
    if ok then some ((s.written settings cmd).again settings) else some (s.finish .writeFailed)
  | _ => none

def stuck (s : State) : Option State :=
  match s.phase, s.dataChDeadline with
  | .selecting, some deadline => if deadline ≤ s.now then some (s.finish .stuck) else none
  | _, _ => none

end State

def step (settings : Settings) (s : State) : Action → Option State
  | .request => if s.phase.isEnded then none else some { s with requests := s.requests + 1 }
  | .arrive =>
    some (if s.phase.isEnded then { s with sent := s.sent + 1 }
      else { s with arrivals := s.arrivals + 1, sent := s.sent + 1 })
  | .dropRequester => some { s with requesters := s.requesters - 1 }
  | .dropHandle => some { s with handle := false }
  | .takeRequest =>
    if s.phase = .selecting ∧ s.requests ≠ 0 then
      some { s with phase := .writing .createDataChannel, requests := s.requests - 1 }
    else none
  | .closeRequests =>
    if s.phase = .selecting ∧ s.requests = 0 ∧ s.requesters = 0 then
      some (s.finish .requestsClosed)
    else none
  | .takeArrival =>
    if s.phase = .selecting ∧ s.arrivedRxClosed = false ∧ s.arrivals ≠ 0 then
      some ((s.arrived settings).again settings)
    else none
  | .closeArrivals =>
    if s.phase = .selecting ∧ s.arrivedRxClosed = false ∧ s.arrivals = 0 ∧ s.handle = false then
      some (State.again settings { s with arrivedRxClosed := true })
    else none
  | .stuck => s.stuck
  | .heartbeat =>
    if s.phase = .selecting ∧ settings.heartbeatInterval ≠ 0 ∧ s.heartbeat ≤ s.now then
      some { s with phase := .writing .heartBeat }
    else none
  | .shutdown =>
    if s.phase = .selecting ∧ s.handle = false then some (s.finish .shutdown) else none
  | .wrote ok => s.wrote settings ok
  | .elapse d => if 0 ≤ d then some { s with now := s.now + d } else none

def system (settings : Settings) : Transition.System State Action where
  init s := ∃ requesters requests, s = .start settings requesters requests
  step := step settings

/-- No more arrivals have been sent than requests written. -/
def Paired (s : State) : Prop := s.sent ≤ (writtenAt s.log).length

/-- The counter has room for the requests that are outstanding. -/
def Narrow (s : State) : Prop := outstanding s.log < UInt32.size

/-- A step to a state that is as asked. -/
def Keeps (settings : Settings) (asked : State → Prop) (s : State) (a : Action) : Prop :=
  ∀ t, step settings s a = some t → asked t

/-- The counter is the number of the requests that are outstanding. The deadline is armed while
there are any, and counts from the last arrival or from when the number last rose from 0. -/
structure Accounts (settings : Settings) (s : State) : Prop where
  counter : s.pendingDataCh.toNat = outstanding s.log
  armed : s.dataChDeadline.isSome = true ↔ 0 < outstanding s.log
  expires : ∀ deadline, s.dataChDeadline = some deadline → ∃ rise, lastRise s.log = some rise ∧
    deadline = max rise ((lastArrival s.log).getD rise) + settings.dataChTimeout

/-- The loop gives up only with a request that has waited for the whole time, during which no
arrival was processed. -/
def GivesUpLate (settings : Settings) (s : State) : Prop :=
  ∀ t, step settings s .stuck = some t →
    (∃ moment ∈ unfulfilled s.log, moment + settings.dataChTimeout ≤ s.now) ∧
      ∀ moment, (moment, Event.arrived) ∈ s.log → moment + settings.dataChTimeout ≤ s.now

section Log

variable {log : Log} {now : Time}

/-- From when the deadline counts. -/
def budgetFrom (log : Log) : Option Time :=
  (lastRise log).map fun rise => max rise ((lastArrival log).getD rise)

theorem lastRise_isSome (waits : 0 < outstanding log) : (lastRise log).isSome = true := by
  induction log with
  | nil => simp [outstanding] at waits
  | cons entry rest ih =>
    obtain ⟨moment, event⟩ := entry
    cases event with
    | written =>
      by_cases first : outstanding rest = 0
      · simp [lastRise, first]
      · simpa [lastRise, first] using ih (by omega)
    | arrived =>
      simp only [outstanding] at waits
      simpa [lastRise] using ih (by omega)

theorem lastRise_mem {rise : Time} (rises : lastRise log = some rise) :
    (rise, Event.written) ∈ log := by
  induction log with
  | nil => simp [lastRise] at rises
  | cons entry rest ih =>
    obtain ⟨moment, event⟩ := entry
    cases event with
    | written =>
      by_cases first : outstanding rest = 0
      · simp only [lastRise, first, if_true, Option.some.injEq] at rises
        rw [rises]
        exact List.mem_cons_self
      · simp only [lastRise, first, if_false] at rises
        exact List.mem_cons_of_mem _ (ih rises)
    | arrived => exact List.mem_cons_of_mem _ (ih rises)

/-- No arrival is later than the last one. -/
theorem le_lastArrival (sorted : log.Pairwise fun later earlier => earlier.1 ≤ later.1)
    {moment : Time} (there : (moment, Event.arrived) ∈ log) :
    ∃ last, lastArrival log = some last ∧ moment ≤ last := by
  induction log with
  | nil => cases there
  | cons entry rest ih =>
    obtain ⟨latest, event⟩ := entry
    obtain ⟨newer, sorted'⟩ := List.pairwise_cons.mp sorted
    cases event with
    | written =>
      cases there with
      | tail _ there => exact ih sorted' there
    | arrived =>
      refine ⟨latest, rfl, ?_⟩
      cases there with
      | head => exact le_rfl
      | tail _ there => exact newer _ there

theorem lastArrival_mem {last : Time} (arrives : lastArrival log = some last) :
    (last, Event.arrived) ∈ log := by
  induction log with
  | nil => simp [lastArrival] at arrives
  | cons entry rest ih =>
    obtain ⟨moment, event⟩ := entry
    cases event with
    | written => exact List.mem_cons_of_mem _ (ih arrives)
    | arrived =>
      simp only [lastArrival, Option.some.injEq] at arrives
      rw [arrives]
      exact List.mem_cons_self

/-- The first request that is outstanding starts the budget. -/
theorem budgetFrom_rise (past : ∀ entry ∈ log, entry.1 ≤ now) (first : outstanding log = 0) :
    budgetFrom ((now, .written) :: log) = some now := by
  unfold budgetFrom
  simp only [lastRise, first, if_true, Option.map_some, lastArrival]
  cases arrives : lastArrival log with
  | none => simp
  | some last =>
    have earlier : last ≤ now := past _ (lastArrival_mem arrives)
    simp [earlier]

theorem budgetFrom_written (waits : outstanding log ≠ 0) :
    budgetFrom ((now, .written) :: log) = budgetFrom log := by
  unfold budgetFrom
  simp [lastRise, waits, lastArrival]

/-- An arrival gives the requests that are left a fresh budget. -/
theorem budgetFrom_arrived (past : ∀ entry ∈ log, entry.1 ≤ now) (waits : 0 < outstanding log) :
    budgetFrom ((now, .arrived) :: log) = some now := by
  obtain ⟨rise, rises⟩ := Option.isSome_iff_exists.mp (lastRise_isSome waits)
  have earlier : rise ≤ now := past _ (lastRise_mem rises)
  unfold budgetFrom
  simp [lastRise, rises, lastArrival, earlier]

/-- Every arrival was for a request. -/
def Exact (log : Log) : Prop := outstanding log + arrivedCount log = (writtenAt log).length

theorem Exact.written (exact : Exact log) : Exact ((now, .written) :: log) := by
  unfold Exact at exact ⊢
  simp only [outstanding, arrivedCount, writtenAt, List.length_append, List.length_singleton]
  omega

theorem Exact.arrived (exact : Exact log) (room : arrivedCount log < (writtenAt log).length) :
    Exact ((now, .arrived) :: log) := by
  unfold Exact at exact ⊢
  simp only [outstanding, arrivedCount, writtenAt]
  omega

theorem Exact.length_unfulfilled (exact : Exact log) :
    (unfulfilled log).length = outstanding log := by
  unfold Exact at exact
  unfold unfulfilled
  rw [List.length_drop]
  omega

theorem unfulfilled_written (exact : Exact log) :
    unfulfilled ((now, .written) :: log) = unfulfilled log ++ [now] := by
  unfold Exact at exact
  have within : arrivedCount log ≤ (writtenAt log).length := by omega
  exact List.drop_append_of_le_length within

theorem writtenAt_mem {moment : Time} (there : moment ∈ writtenAt log) :
    (moment, Event.written) ∈ log := by
  induction log with
  | nil => cases there
  | cons entry rest ih =>
    obtain ⟨latest, event⟩ := entry
    cases event with
    | written =>
      simp only [writtenAt, List.mem_append, List.mem_singleton] at there
      cases there with
      | inl before => exact List.mem_cons_of_mem _ (ih before)
      | inr new =>
        rw [new]
        exact List.mem_cons_self
    | arrived => exact List.mem_cons_of_mem _ (ih there)

end Log

section Steps

variable {settings : Settings} {s t : State} {a : Action}

/-- A step that is none of the loop's events. -/
structure Quiet (s t : State) : Prop where
  counter : t.pendingDataCh = s.pendingDataCh
  deadline : t.dataChDeadline = s.dataChDeadline
  log : t.log = s.log
  now : s.now ≤ t.now
  queue : t.arrivals + s.sent ≤ s.arrivals + t.sent

/-- What a step does: it is one of the two events, or it leaves the account alone. -/
theorem step_cases (moved : step settings s a = some t) :
    (s.phase = .writing .createDataChannel ∧ a = .wrote true ∧
      t = (s.written settings .createDataChannel).again settings) ∨
    (s.arrivals ≠ 0 ∧ a = .takeArrival ∧ t = (s.arrived settings).again settings) ∨
    Quiet s t := by
  cases a with
  | arrive =>
    right; right
    by_cases ended : s.phase.isEnded = true
    · simp only [step, ended, if_true, Option.some.injEq] at moved
      subst moved
      exact ⟨rfl, rfl, rfl, le_rfl, by show s.arrivals + s.sent ≤ s.arrivals + (s.sent + 1); omega⟩
    · simp only [step, ended, Option.some.injEq] at moved
      subst moved
      exact ⟨rfl, rfl, rfl, le_rfl,
        by show s.arrivals + 1 + s.sent ≤ s.arrivals + (s.sent + 1); omega⟩
  | dropRequester =>
    cases moved
    exact .inr (.inr ⟨rfl, rfl, rfl, le_rfl, le_rfl⟩)
  | dropHandle =>
    cases moved
    exact .inr (.inr ⟨rfl, rfl, rfl, le_rfl, le_rfl⟩)
  | request =>
    obtain ⟨-, ⟨⟩⟩ := Option.ite_none_left_eq_some.mp moved
    exact .inr (.inr ⟨rfl, rfl, rfl, le_rfl, le_rfl⟩)
  | takeRequest =>
    obtain ⟨-, ⟨⟩⟩ := Option.ite_none_right_eq_some.mp moved
    exact .inr (.inr ⟨rfl, rfl, rfl, le_rfl, le_rfl⟩)
  | heartbeat =>
    obtain ⟨-, ⟨⟩⟩ := Option.ite_none_right_eq_some.mp moved
    exact .inr (.inr ⟨rfl, rfl, rfl, le_rfl, le_rfl⟩)
  | closeArrivals =>
    obtain ⟨-, ⟨⟩⟩ := Option.ite_none_right_eq_some.mp moved
    exact .inr (.inr ⟨rfl, rfl, rfl, le_rfl, le_rfl⟩)
  | closeRequests =>
    obtain ⟨-, ⟨⟩⟩ := Option.ite_none_right_eq_some.mp moved
    exact .inr (.inr ⟨rfl, rfl, rfl, le_rfl, Nat.add_le_add_right (Nat.zero_le _) _⟩)
  | shutdown =>
    obtain ⟨-, ⟨⟩⟩ := Option.ite_none_right_eq_some.mp moved
    exact .inr (.inr ⟨rfl, rfl, rfl, le_rfl, Nat.add_le_add_right (Nat.zero_le _) _⟩)
  | elapse d =>
    obtain ⟨forward, ⟨⟩⟩ := Option.ite_none_right_eq_some.mp moved
    exact .inr (.inr ⟨rfl, rfl, rfl, le_add_of_nonneg_right forward, le_rfl⟩)
  | takeArrival =>
    obtain ⟨⟨-, -, there⟩, ⟨⟩⟩ := Option.ite_none_right_eq_some.mp moved
    exact .inr (.inl ⟨there, rfl, rfl⟩)
  | stuck =>
    change s.stuck = some t at moved
    unfold State.stuck at moved
    split at moved
    · obtain ⟨-, ⟨⟩⟩ := Option.ite_none_right_eq_some.mp moved
      exact .inr (.inr ⟨rfl, rfl, rfl, le_rfl, Nat.add_le_add_right (Nat.zero_le _) _⟩)
    · cases moved
  | wrote ok =>
    change s.wrote settings ok = some t at moved
    unfold State.wrote at moved
    split at moved
    · next cmd writing =>
      cases ok with
      | false =>
        cases moved
        exact .inr (.inr ⟨rfl, rfl, rfl, le_rfl, Nat.add_le_add_right (Nat.zero_le _) _⟩)
      | true =>
        cases moved
        cases cmd with
        | createDataChannel => exact .inl ⟨writing, rfl, rfl⟩
        | heartBeat => exact .inr (.inr ⟨rfl, rfl, rfl, le_rfl, le_rfl⟩)
    · cases moved

end Steps

section Counting

variable {settings : Settings} {s t : State} {a : Action}

/-- Nothing in the log is yet to come, and the queue holds arrivals that were sent. -/
structure Logged (s : State) : Prop where
  past : ∀ entry ∈ s.log, entry.1 ≤ s.now
  sorted : s.log.Pairwise fun later earlier => earlier.1 ≤ later.1
  queue : s.arrivals + arrivedCount s.log ≤ s.sent

theorem Logged.step (logged : Logged s) (moved : step settings s a = some t) : Logged t := by
  have later (event : Event) : ∀ entry ∈ (s.now, event) :: s.log, entry.1 ≤ s.now := by
    intro entry there
    cases there with
    | head => exact le_rfl
    | tail _ there => exact logged.past entry there
  have sorted (event : Event) :
      ((s.now, event) :: s.log).Pairwise fun later earlier => earlier.1 ≤ later.1 :=
    List.pairwise_cons.mpr ⟨logged.past, logged.sorted⟩
  have queue := logged.queue
  cases step_cases moved with
  | inl write =>
    obtain ⟨-, -, rfl⟩ := write
    exact ⟨later .written, sorted .written, queue⟩
  | inr other =>
    cases other with
    | inl arrival =>
      obtain ⟨there, -, rfl⟩ := arrival
      refine ⟨later .arrived, sorted .arrived, ?_⟩
      show s.arrivals - 1 + (arrivedCount s.log + 1) ≤ s.sent
      omega
    | inr quiet =>
      have moved := quiet.queue
      refine ⟨?_, ?_, ?_⟩
      · rw [quiet.log]
        intro entry there
        exact (logged.past entry there).trans quiet.now
      · rw [quiet.log]
        exact logged.sorted
      · rw [quiet.log]
        omega

/-- The counter and the deadline, in terms of the log. -/
structure Counts (settings : Settings) (s : State) : Prop where
  counter : s.pendingDataCh.toNat = outstanding s.log
  deadline : s.dataChDeadline = if outstanding s.log = 0 then none
    else (budgetFrom s.log).map (· + settings.dataChTimeout)

theorem toNat_saturatingPred (n : UInt32) : (State.saturatingPred n).toNat = n.toNat - 1 := by
  unfold State.saturatingPred
  by_cases zero : n = 0
  · simp [zero]
  · have positive : 1 ≤ n := by
      rw [UInt32.le_iff_toNat_le]
      have : n.toNat ≠ 0 := fun none => zero (UInt32.toNat_inj.mp none)
      simp only [UInt32.reduceToNat]
      omega
    rw [if_neg zero, UInt32.toNat_sub_of_le _ _ positive]
    rfl

theorem Counts.written (counts : Counts settings s) (logged : Logged s)
    (room : outstanding s.log + 1 < UInt32.size) :
    Counts settings ((s.written settings .createDataChannel).again settings) := by
  constructor
  · show (s.pendingDataCh + 1).toNat = outstanding s.log + 1
    rw [UInt32.toNat_add, counts.counter]
    exact Nat.mod_eq_of_lt room
  · show some (s.dataChDeadline.getD (s.budget settings)) = if outstanding s.log + 1 = 0 then none
      else (budgetFrom ((s.now, .written) :: s.log)).map (· + settings.dataChTimeout)
    rw [if_neg (Nat.succ_ne_zero _), counts.deadline]
    by_cases first : outstanding s.log = 0
    · rw [if_pos first, budgetFrom_rise logged.past first]
      rfl
    · rw [if_neg first, budgetFrom_written first]
      obtain ⟨rise, rises⟩ := Option.isSome_iff_exists.mp
        (lastRise_isSome (Nat.pos_of_ne_zero first))
      simp [budgetFrom, rises]

theorem Counts.arrived (counts : Counts settings s) (logged : Logged s) :
    Counts settings ((s.arrived settings).again settings) := by
  have counter : (State.saturatingPred s.pendingDataCh).toNat = outstanding s.log - 1 := by
    rw [toNat_saturatingPred, counts.counter]
  constructor
  · exact counter
  · show (if 0 < State.saturatingPred s.pendingDataCh then some (s.budget settings) else none) = _
    have positive : 0 < State.saturatingPred s.pendingDataCh ↔ outstanding s.log - 1 ≠ 0 := by
      rw [UInt32.lt_iff_toNat_lt, counter]
      simp only [UInt32.toNat_zero]
      omega
    by_cases last : outstanding s.log - 1 = 0
    · rw [if_neg (fun left => positive.mp left last)]
      exact (if_pos last).symm
    · rw [if_pos (positive.mpr last)]
      have waits : 0 < outstanding s.log := by omega
      show _ = if outstanding s.log - 1 = 0 then none
        else (budgetFrom ((s.now, .arrived) :: s.log)).map _
      rw [if_neg last, budgetFrom_arrived logged.past waits]
      rfl

theorem Counts.step (counts : Counts settings s) (logged : Logged s)
    (moved : step settings s a = some t) (narrow : Narrow t) : Counts settings t := by
  cases step_cases moved with
  | inl write =>
    obtain ⟨-, -, rfl⟩ := write
    exact counts.written logged narrow
  | inr other =>
    cases other with
    | inl arrival =>
      obtain ⟨-, -, rfl⟩ := arrival
      exact counts.arrived logged
    | inr quiet =>
      constructor
      · rw [quiet.counter, quiet.log]
        exact counts.counter
      · rw [quiet.deadline, quiet.log]
        exact counts.deadline

theorem Counts.accounts (counts : Counts settings s) : Accounts settings s := by
  have deadline := counts.deadline
  by_cases none : outstanding s.log = 0
  · rw [if_pos none] at deadline
    refine ⟨counts.counter, ?_, ?_⟩
    · simp [deadline, none]
    · intro d armed
      rw [deadline] at armed
      cases armed
  · rw [if_neg none] at deadline
    have waits := Nat.pos_of_ne_zero none
    obtain ⟨rise, rises⟩ := Option.isSome_iff_exists.mp (lastRise_isSome waits)
    have from_ : budgetFrom s.log = some (max rise ((lastArrival s.log).getD rise)) := by
      simp [budgetFrom, rises]
    rw [from_] at deadline
    refine ⟨counts.counter, ?_, ?_⟩
    · simp [deadline, waits]
    · intro d armed
      rw [deadline] at armed
      cases armed
      exact ⟨rise, rises, rfl⟩

theorem logged_start (requesters requests : Nat) : Logged (.start settings requesters requests) := by
  refine ⟨?_, .nil, le_rfl⟩
  intro entry there
  cases there

theorem counts_start (requesters requests : Nat) :
    Counts settings (.start settings requesters requests) := ⟨rfl, rfl⟩

theorem reach_counts {asked : State → Prop} (narrow : ∀ s, asked s → Narrow s)
    (reached : (system settings).Reach (Keeps settings asked) s) :
    Logged s ∧ Counts settings s := by
  apply reached.invariant (I := fun s => Logged s ∧ Counts settings s)
  · intro s ⟨requesters, requests, started⟩
    rw [started]
    exact ⟨logged_start _ _, counts_start _ _⟩
  · intro s a t keeps moved ⟨logged, counts⟩
    exact ⟨logged.step moved, counts.step logged moved (narrow t (keeps t moved))⟩

end Counting

section Pairing

variable {settings : Settings} {s t : State} {a : Action}

/-- Every arrival was for a request, and the oldest request that waits is no younger than the
budget. -/
structure Matched (s : State) : Prop where
  exact : Exact s.log
  oldest : ∀ moment, (unfulfilled s.log).head? = some moment →
    ∃ start, budgetFrom s.log = some start ∧ moment ≤ start

theorem Matched.written (matched : Matched s) (logged : Logged s) :
    Matched ((s.written settings .createDataChannel).again settings) := by
  have exact := matched.exact
  refine ⟨exact.written, ?_⟩
  show ∀ moment, (unfulfilled ((s.now, .written) :: s.log)).head? = some moment →
    ∃ start, budgetFrom ((s.now, .written) :: s.log) = some start ∧ moment ≤ start
  rw [unfulfilled_written exact]
  intro moment head
  by_cases first : outstanding s.log = 0
  · have empty : unfulfilled s.log = [] := by
      rw [← List.length_eq_zero_iff, exact.length_unfulfilled, first]
    rw [empty] at head
    cases head
    exact ⟨s.now, budgetFrom_rise logged.past first, le_rfl⟩
  · rw [budgetFrom_written first]
    apply matched.oldest
    have nonempty : unfulfilled s.log ≠ [] := by
      rw [← List.length_pos_iff, exact.length_unfulfilled]
      omega
    obtain ⟨oldest, others, split⟩ := List.exists_cons_of_ne_nil nonempty
    rw [split] at head ⊢
    exact head

theorem Matched.arrived (matched : Matched s) (logged : Logged s) (paired : Paired s)
    (there : s.arrivals ≠ 0) : Matched ((s.arrived settings).again settings) := by
  have queue := logged.queue
  unfold Paired at paired
  have room : arrivedCount s.log < (writtenAt s.log).length := by omega
  have exact : Exact ((s.now, .arrived) :: s.log) := matched.exact.arrived room
  refine ⟨exact, ?_⟩
  show ∀ moment, (unfulfilled ((s.now, .arrived) :: s.log)).head? = some moment →
    ∃ start, budgetFrom ((s.now, .arrived) :: s.log) = some start ∧ moment ≤ start
  intro moment head
  have waits : moment ∈ unfulfilled ((s.now, .arrived) :: s.log) := List.mem_of_mem_head? head
  have left : 0 < outstanding s.log := by
    have length := exact.length_unfulfilled
    have positive := List.length_pos_of_mem waits
    simp only [outstanding] at length
    omega
  refine ⟨s.now, budgetFrom_arrived logged.past left, ?_⟩
  exact logged.past _ (writtenAt_mem (List.mem_of_mem_drop waits))

theorem Matched.step (matched : Matched s) (logged : Logged s) (paired : Paired s)
    (moved : step settings s a = some t) : Matched t := by
  cases step_cases moved with
  | inl write =>
    obtain ⟨-, -, rfl⟩ := write
    exact matched.written logged
  | inr other =>
    cases other with
    | inl arrival =>
      obtain ⟨there, -, rfl⟩ := arrival
      exact matched.arrived logged paired there
    | inr quiet =>
      refine ⟨?_, ?_⟩
      · rw [quiet.log]
        exact matched.exact
      · rw [quiet.log]
        exact matched.oldest

theorem stuck_deadline (moved : step settings s .stuck = some t) :
    ∃ deadline, s.dataChDeadline = some deadline ∧ deadline ≤ s.now := by
  change s.stuck = some t at moved
  unfold State.stuck at moved
  split at moved
  · next deadline _ armed =>
    obtain ⟨passed, -⟩ := Option.ite_none_right_eq_some.mp moved
    exact ⟨deadline, armed, passed⟩
  · cases moved

theorem Matched.givesUpLate (matched : Matched s) (logged : Logged s)
    (counts : Counts settings s) : GivesUpLate settings s := by
  intro t moved
  obtain ⟨deadline, armed, passed⟩ := stuck_deadline moved
  obtain ⟨rise, rises, same⟩ := counts.accounts.expires deadline armed
  have waits : 0 < outstanding s.log := counts.accounts.armed.mp (by rw [armed]; rfl)
  have start : budgetFrom s.log = some (max rise ((lastArrival s.log).getD rise)) := by
    simp [budgetFrom, rises]
  constructor
  · have nonempty : unfulfilled s.log ≠ [] := by
      rw [← List.length_pos_iff, matched.exact.length_unfulfilled]
      exact waits
    have head := List.head?_eq_some_head nonempty
    obtain ⟨from_, begins, earlier⟩ := matched.oldest _ head
    rw [start] at begins
    cases begins
    refine ⟨_, List.mem_of_mem_head? head, ?_⟩
    linarith
  · intro moment there
    obtain ⟨last, arrives, earlier⟩ := le_lastArrival logged.sorted there
    rw [arrives] at same
    have : last ≤ max rise last := le_max_right _ _
    simp only [Option.getD_some] at same
    linarith

theorem reach_matched {asked : State → Prop} (narrow : ∀ s, asked s → Narrow s)
    (pairs : ∀ s, asked s → Paired s) (reached : (system settings).Reach (Keeps settings asked) s) :
    Paired s ∧ Matched s := by
  apply reached.invariant_with (I := fun s => Paired s ∧ Matched s)
    (K := fun s => Logged s ∧ Counts settings s) (fun s reached => reach_counts narrow reached)
  · intro s ⟨requesters, requests, started⟩
    rw [started]
    refine ⟨le_rfl, rfl, ?_⟩
    intro moment head
    cases head
  · intro s a t ⟨logged, _⟩ _ keeps moved ⟨paired, matched⟩
    exact ⟨pairs t (keeps t moved), matched.step logged paired moved⟩

end Pairing

/-- While the counter has room, it is the number of outstanding requests, with the deadline of
the account; without arrivals that nobody asked for these are the requests written less the
arrivals processed, and the loop gives up late only. Whatever arrives, the counter does not
fall below 0, and a request that is written leaves the deadline armed. -/
theorem accounts_of_narrow (settings : Settings) :
    (∀ s, (system settings).Reach (Keeps settings Narrow) s → Accounts settings s) ∧
    (∀ s, (system settings).Reach (Keeps settings fun t => Paired t ∧ Narrow t) s →
      s.pendingDataCh.toNat + arrivedCount s.log = (writtenAt s.log).length ∧
        Accounts settings s ∧ GivesUpLate settings s) ∧
    (∀ s t, step settings s .takeArrival = some t →
      t.pendingDataCh.toNat = s.pendingDataCh.toNat - 1) ∧
    ∀ s t, s.phase = .writing .createDataChannel → step settings s (.wrote true) = some t →
      t.dataChDeadline = some (s.dataChDeadline.getD (s.now + settings.dataChTimeout)) := by
  refine ⟨?_, ?_, ?_, ?_⟩
  · intro s reached
    exact (reach_counts (fun _ narrow => narrow) reached).2.accounts
  · intro s reached
    obtain ⟨logged, counts⟩ := reach_counts (fun _ asked => asked.2) reached
    obtain ⟨_, matched⟩ := reach_matched (fun _ asked => asked.2) (fun _ asked => asked.1) reached
    refine ⟨?_, counts.accounts, matched.givesUpLate logged counts⟩
    rw [counts.counter]
    exact matched.exact
  · intro s t moved
    obtain ⟨-, ⟨⟩⟩ := Option.ite_none_right_eq_some.mp moved
    exact toNat_saturatingPred s.pendingDataCh
  · intro s t writing moved
    change s.wrote settings true = some t at moved
    unfold State.wrote at moved
    rw [writing] at moved
    cases moved
    rfl

/-- No arrival is without a request, and the counter has room, as a check. -/
def keepsCounting (settings : Settings) (s : State) (a : Action) : Bool :=
  match step settings s a with
  | some t => t.sent ≤ (writtenAt t.log).length ∧ outstanding t.log < UInt32.size
  | none => true

theorem keeps_of_check (settings : Settings) (s : State) (a : Action)
    (passed : keepsCounting settings s a = true) :
    Keeps settings (fun t => Paired t ∧ Narrow t) s a := by
  intro t moved
  simp only [keepsCounting, moved, decide_eq_true_eq] at passed
  exact passed

/-- Two requests and one arrival: the deadline counts from the arrival, and the loop gives up
when it has passed. -/
theorem accounts_gives_up : ∃ s, s.pendingDataCh = 1 ∧ s.dataChDeadline = some 13 ∧
    Accounts ⟨0, 10⟩ s ∧ GivesUpLate ⟨0, 10⟩ s ∧ (step ⟨0, 10⟩ s .stuck).isSome := by
  have initial : (system ⟨0, 10⟩).init (.start ⟨0, 10⟩ 1 2) := ⟨1, 2, rfl⟩
  obtain ⟨s, reached, held⟩ := Transition.System.exists_reach initial
    [.takeRequest, .wrote true, .takeRequest, .wrote true, .elapse 3, .arrive, .takeArrival,
      .elapse 10]
    (fun s => s.pendingDataCh = 1 ∧ s.dataChDeadline = some 13 ∧
      (step ⟨0, 10⟩ s .stuck).isSome) (keepsCounting ⟨0, 10⟩) (keeps_of_check _) (by decide +kernel)
  obtain ⟨counter, deadline, stuck⟩ := of_decide_eq_true held
  obtain ⟨-, accounts, late⟩ := (accounts_of_narrow ⟨0, 10⟩).2.1 s reached
  exact ⟨s, counter, deadline, accounts, late, stuck⟩

/-- The loop after a number of requests, all of them written at the start. -/
def flooded (settings : Settings) (n : Nat) : State :=
  { State.start settings 1 0 with
    pendingDataCh := UInt32.ofNat n
    dataChDeadline := if n = 0 then none else some settings.dataChTimeout
    log := List.replicate n (0, .written) }

section Flooded

variable {settings : Settings} {s t : State} {a : Action}

theorem reach_unsent (reached : (system settings).Reach (Keeps settings Paired) s)
    (moved : step settings s a = some t) (unsent : t.sent = 0) :
    (system settings).Reach (Keeps settings Paired) t := by
  apply reached.next _ moved
  intro other moved'
  rw [moved] at moved'
  cases moved'
  unfold Paired
  omega

theorem flooded_written (settings : Settings) (n : Nat) :
    step settings { flooded settings n with phase := .writing .createDataChannel } (.wrote true) =
      some (flooded settings (n + 1)) := by
  have counter : UInt32.ofNat n + 1 = UInt32.ofNat (n + 1) := (UInt32.ofNat_add n 1).symm
  have deadline : some ((if n = 0 then none else some settings.dataChTimeout).getD
      (0 + settings.dataChTimeout)) =
        if n + 1 = 0 then none else some settings.dataChTimeout := by
    by_cases first : n = 0
    · simp [first]
    · simp [first]
  have sleep : (0 : Time) + settings.heartbeatInterval.toNat = settings.heartbeatInterval.toNat :=
    zero_add _
  show some (State.again settings (State.written settings _ .createDataChannel)) = _
  simp only [State.written, State.again, State.budget, flooded, State.start, counter, deadline,
    sleep, List.replicate_succ]

theorem flooded_reached (settings : Settings) (n : Nat) :
    (system settings).Reach (Keeps settings Paired) (flooded settings n) := by
  induction n with
  | zero => exact .start ⟨1, 0, rfl⟩
  | succ n ih =>
    have asked : step settings (flooded settings n) .request =
        some { flooded settings n with requests := 1 } := rfl
    have taken : step settings { flooded settings n with requests := 1 } .takeRequest =
        some { flooded settings n with phase := .writing .createDataChannel } := rfl
    have first := reach_unsent ih asked rfl
    have second := reach_unsent first taken rfl
    exact reach_unsent second (flooded_written settings n) rfl

theorem length_writtenAt_flooded (n : Nat) (moment : Time) :
    (writtenAt (List.replicate n (moment, .written))).length = n := by
  induction n with
  | zero => rfl
  | succ n ih =>
    rw [List.replicate_succ, writtenAt, List.length_append, ih]
    rfl

end Flooded

/-- The counter wraps around when all of its values are used up. -/
theorem counter_wraps : ¬ ∀ (settings : Settings) (s : State),
    (system settings).Reach (Keeps settings Paired) s →
      s.pendingDataCh.toNat + arrivedCount s.log = (writtenAt s.log).length := by
  intro counts
  have counted := counts ⟨0, 10⟩ _ (flooded_reached ⟨0, 10⟩ UInt32.size)
  have log : (flooded ⟨0, 10⟩ UInt32.size).log = List.replicate UInt32.size (0, .written) := rfl
  have counter : (flooded ⟨0, 10⟩ UInt32.size).pendingDataCh.toNat = 0 := by
    show (UInt32.ofNat UInt32.size).toNat = 0
    rw [UInt32.toNat_ofNat']
    rfl
  have none (n : Nat) (moment : Time) : arrivedCount (List.replicate n (moment, .written)) = 0 := by
    induction n with
    | zero => rfl
    | succ n ih => exact ih
  rw [log, counter, none, length_writtenAt_flooded] at counted
  exact absurd counted (by decide)

section Control

variable {settings : Settings} {s t : State}

def Action.of : ControlChannel.Action → Action
  | .takeRequest => .takeRequest
  | .closeRequests => .closeRequests
  | .takeArrival => .takeArrival
  | .closeArrivals => .closeArrivals
  | .stuck => .stuck
  | .heartbeat => .heartbeat
  | .shutdown => .shutdown
  | .wrote ok => .wrote ok
  | .elapse d => .elapse d

/-- The state with a counter that has no bound, beside what is not recorded here. -/
def State.control (s : State) (lastWrite : Time) (asked : Nat) : ControlChannel.State where
  now := s.now
  phase := s.phase
  requests := s.requests
  requesters := s.requesters
  arrivals := s.arrivals
  handle := s.handle
  pendingDataCh := s.pendingDataCh.toNat
  dataChDeadline := s.dataChDeadline
  arrivedRxClosed := s.arrivedRxClosed
  heartbeat := s.heartbeat
  lastWrite := lastWrite
  asked := asked

/-- While the counter has room, the loop moves as the one whose counter has no bound. -/
theorem control_step (a : ControlChannel.Action) (lastWrite : Time) (asked : Nat)
    (timeout : settings.dataChTimeout =
      ControlChannel.dataChannelTimeout settings.heartbeatInterval)
    (room : s.pendingDataCh.toNat + 1 < UInt32.size) (moved : step settings s (.of a) = some t) :
    ∃ lastWrite' asked', ControlChannel.step settings.heartbeatInterval
      (s.control lastWrite asked) a = some (t.control lastWrite' asked') := by
  cases a with
  | takeRequest =>
    obtain ⟨enabled, ⟨⟩⟩ := Option.ite_none_right_eq_some.mp moved
    exact ⟨lastWrite, asked, if_pos enabled⟩
  | closeRequests =>
    obtain ⟨enabled, ⟨⟩⟩ := Option.ite_none_right_eq_some.mp moved
    exact ⟨lastWrite, asked, if_pos enabled⟩
  | takeArrival =>
    obtain ⟨enabled, ⟨⟩⟩ := Option.ite_none_right_eq_some.mp moved
    refine ⟨lastWrite, asked, (if_pos enabled).trans ?_⟩
    have counter := toNat_saturatingPred s.pendingDataCh
    have positive : 0 < State.saturatingPred s.pendingDataCh ↔ 0 < s.pendingDataCh.toNat - 1 := by
      rw [UInt32.lt_iff_toNat_lt, counter]
      rfl
    by_cases left : 0 < s.pendingDataCh.toNat - 1
    · simp only [State.control, State.arrived, State.again, State.budget,
        ControlChannel.State.again, counter, positive.mpr left, left, timeout, if_true]
    · have last : ¬ 0 < State.saturatingPred s.pendingDataCh := fun more => left (positive.mp more)
      simp only [State.control, State.arrived, State.again, ControlChannel.State.again, counter,
        last, left, if_false]
  | closeArrivals =>
    obtain ⟨enabled, ⟨⟩⟩ := Option.ite_none_right_eq_some.mp moved
    exact ⟨lastWrite, asked, if_pos enabled⟩
  | stuck =>
    change s.stuck = some t at moved
    unfold State.stuck at moved
    split at moved
    · next deadline selecting armed =>
      obtain ⟨passed, ⟨⟩⟩ := Option.ite_none_right_eq_some.mp moved
      refine ⟨lastWrite, asked, ?_⟩
      simp only [ControlChannel.step, ControlChannel.State.stuck, State.control, selecting, armed,
        passed, if_true, ControlChannel.State.finish, State.finish]
    · cases moved
  | heartbeat =>
    obtain ⟨enabled, ⟨⟩⟩ := Option.ite_none_right_eq_some.mp moved
    exact ⟨lastWrite, asked, if_pos enabled⟩
  | shutdown =>
    obtain ⟨enabled, ⟨⟩⟩ := Option.ite_none_right_eq_some.mp moved
    exact ⟨lastWrite, asked, if_pos enabled⟩
  | elapse d =>
    obtain ⟨enabled, ⟨⟩⟩ := Option.ite_none_right_eq_some.mp moved
    exact ⟨lastWrite, asked, if_pos enabled⟩
  | wrote ok =>
    change s.wrote settings ok = some t at moved
    unfold State.wrote at moved
    split at moved
    · next cmd writing =>
      have counter : (s.pendingDataCh + 1).toNat = s.pendingDataCh.toNat + 1 := by
        rw [UInt32.toNat_add]
        exact Nat.mod_eq_of_lt room
      cases ok with
      | false =>
        cases moved
        refine ⟨lastWrite, asked, ?_⟩
        simp only [ControlChannel.step, ControlChannel.State.wrote, State.control, writing]
        rfl
      | true =>
        cases moved
        cases cmd with
        | createDataChannel =>
          refine ⟨s.now, asked + 1, ?_⟩
          simp only [ControlChannel.step, ControlChannel.State.wrote, State.control, writing,
            if_true, ControlChannel.State.written, ControlChannel.State.again, State.written,
            State.again, State.budget, counter, timeout]
        | heartBeat =>
          refine ⟨s.now, asked, ?_⟩
          simp only [ControlChannel.step, ControlChannel.State.wrote, State.control, writing,
            if_true, ControlChannel.State.written, ControlChannel.State.again, State.written,
            State.again]
    · cases moved

/-- The loop of the server's model, whose counter has no bound, from any state. -/
def unbounded (settings : Settings) :
    Transition.System ControlChannel.State ControlChannel.Action where
  init _ := True
  step := ControlChannel.step settings.heartbeatInterval

def Room (s : State) : Action → Prop := fun _ => s.pendingDataCh.toNat + 1 < UInt32.size

/-- The loop does what the one of the server's model does, for as long as its counter has room. -/
theorem unbounded_of_run {as : List ControlChannel.Action} (lastWrite : Time) (asked : Nat)
    (timeout : settings.dataChTimeout =
      ControlChannel.dataChannelTimeout settings.heartbeatInterval)
    (run : (system settings).Run Room s (as.map .of) t) : ∃ lastWrite' asked',
      (unbounded settings).Run Transition.System.Free (s.control lastWrite asked) as
        (t.control lastWrite' asked') := by
  induction as generalizing s lastWrite asked with
  | nil =>
    cases run
    exact ⟨lastWrite, asked, .nil _⟩
  | cons a as ih =>
    cases run with
    | cons room moved rest =>
      obtain ⟨between, asked', first⟩ := control_step a lastWrite asked timeout room moved
      obtain ⟨last, asked'', later⟩ := ih between asked' rest
      exact ⟨last, asked'', .cons trivial first later⟩

end Control

end Rathole.StuckDeadline
