import Rathole.TcpService

set_option autoImplicit false

/- Visitors that wait for a data channel after the loop of the control channel has ended. -/
namespace Rathole.TcpService

open ControlChannel (Handle)

variable {h : UInt64} {s t : State}

/-- Steps that need nothing of the network, of the clock or of the map of control channels. -/
def Action.isInternal : Action → Bool
  | .control (.elapse _) | .bind | .accept | .acceptError | .deliver | .lose | .drop => false
  | _ => true

/-- No task can move, and no data channel is on its way. -/
def Quiescent (h : UInt64) (s : State) : Prop :=
  s.handle.control.asked = 0 ∧ ∀ a : Action, a.isInternal = true → step h s a = none

/-- The loop has ended, and a visitor waits for a data channel that nothing feeds or closes. -/
def Stranded (h : UInt64) (s : State) : Prop :=
  s.handle.control.phase.isEnded = true ∧ Quiescent h s ∧ ∃ visitor, s.pool = .waiting visitor

/-- The visitor in the hand of the pool that has no data channel yet. -/
@[simp] def Pool.unserved : Pool → Nat
  | .waiting _ => 1
  | _ => 0

@[simp] def Listener.unserved : Listener → Nat
  | .queueing _ => 1
  | _ => 0

/-- The visitors that are to get a data channel of the queue. -/
def State.waiting (s : State) : Nat :=
  s.pool.unserved + s.visitors.length + s.listener.unserved

/-- The data channels in the queue and on their way. -/
def State.coming (s : State) : Nat := s.handle.dataCh.length + s.handle.control.asked

/-- A step that ends the loop otherwise than by the shutdown signal. -/
def Action.breaks : Action → Bool
  | .control (.wrote false) | .control .stuck | .control .closeRequests => true
  | _ => false

/-- The loop breaks while there is a data channel for each visitor that waits, and afterwards
none of them is lost. -/
def Supplied (s : State) (a : Action) : Prop :=
  s.handle.control.handle = true → s.pool ≠ .ended →
    (a.breaks = true → s.waiting ≤ s.coming) ∧
    (a = .lose → s.handle.control.phase.isEnded = true → s.waiting < s.coming)

instance (s : State) (a : Action) : Decidable (Supplied s a) :=
  inferInstanceAs (Decidable (_ → _ → _ ∧ _))

/-- What the end of the loop leaves to the pool. -/
def Served (s : State) : Prop :=
  s.handle.control.phase.isEnded = true → s.handle.control.handle = true → s.pool ≠ .ended →
    s.waiting ≤ s.coming

section Loop

variable {c d : ControlChannel.State} {x : ControlChannel.Action}

/-- How the loop comes to have ended: it had before, it broke, or its handle was dropped. -/
theorem ended_of_step (moved : ControlChannel.step h c x = some d)
    (ended : d.phase.isEnded = true) : d.asked = c.asked ∧ d.handle = c.handle ∧
      (c.phase.isEnded = true ∨ (Action.control x).breaks = true ∨ c.handle = false) := by
  cases x with
  | closeRequests =>
    obtain ⟨-, ⟨⟩⟩ := Option.ite_none_right_eq_some.mp moved
    exact ⟨rfl, rfl, .inr (.inl rfl)⟩
  | stuck =>
    obtain ⟨-, rfl⟩ := ControlChannel.stuck_cases moved
    exact ⟨rfl, rfl, .inr (.inl rfl)⟩
  | shutdown =>
    obtain ⟨⟨-, dropped⟩, ⟨⟩⟩ := Option.ite_none_right_eq_some.mp moved
    exact ⟨rfl, rfl, .inr (.inr dropped)⟩
  | wrote ok =>
    obtain ⟨cmd, -, rfl⟩ := ControlChannel.wrote_cases moved
    cases ok with
    | true => cases ended
    | false => exact ⟨rfl, rfl, .inr (.inl rfl)⟩
  | elapse _ =>
    obtain ⟨-, ⟨⟩⟩ := Option.ite_none_right_eq_some.mp moved
    exact ⟨rfl, rfl, .inl ended⟩
  | takeRequest | takeArrival | closeArrivals | heartbeat =>
    obtain ⟨-, ⟨⟩⟩ := Option.ite_none_right_eq_some.mp moved
    cases ended

theorem ended_of_breaks (breaks : (Action.control x).breaks = true)
    (moved : ControlChannel.step h c x = some d) : d.phase.isEnded = true := by
  cases x with
  | closeRequests =>
    obtain ⟨-, ⟨⟩⟩ := Option.ite_none_right_eq_some.mp moved
    rfl
  | stuck =>
    obtain ⟨-, rfl⟩ := ControlChannel.stuck_cases moved
    rfl
  | wrote ok =>
    obtain ⟨cmd, -, rfl⟩ := ControlChannel.wrote_cases moved
    cases ok with
    | true => cases breaks
    | false => rfl
  | _ => cases breaks

/-- Nothing but time is left to a loop that has ended. -/
theorem step_ended (ended : c.phase.isEnded = true) (still : ∀ time, x ≠ .elapse time) :
    ControlChannel.step h c x = none := by
  cases next : ControlChannel.step h c x with
  | none => rfl
  | some d =>
    have selects : c.phase ≠ .selecting := by
      intro selecting
      simp [selecting, ControlChannel.Phase.isEnded] at ended
    cases x with
    | elapse time => exact absurd rfl (still time)
    | stuck => exact absurd (ControlChannel.stuck_cases next).1 selects
    | wrote ok =>
      obtain ⟨cmd, writing, -⟩ := ControlChannel.wrote_cases next
      simp [writing, ControlChannel.Phase.isEnded] at ended
    | _ =>
      obtain ⟨⟨selecting, -⟩, -⟩ := Option.ite_none_right_eq_some.mp next
      exact absurd selecting selects

/-- A request that is accepted finds the loop running. -/
theorem running_of_request {a b : Handle} (sent : a.request = some b) :
    a.control.phase.isEnded = false ∧ b.control.phase = a.control.phase := by
  obtain ⟨control, made, rfl⟩ := Option.map_eq_some_iff.mp sent
  obtain ⟨running, ⟨⟩⟩ := Option.ite_none_left_eq_some.mp made
  exact ⟨Bool.eq_false_iff.mpr running, rfl⟩

end Loop

/-- What a step does to the visitors that wait and to the data channels that come. -/
inductive Outcome (s t : State) (a : Action) : Prop
  | finished (pool : t.pool = .ended) (freed : s.pool = .ended ∨ a = .write false ∨
      s.handle.control.handle = false ∨ s.waiting = 0)
  | dropped (handle : t.handle.control.handle = false) (drops : a = .drop ∨
      s.handle.control.handle = false)
  | running (before : s.handle.control.phase.isEnded = false)
      (phase : t.handle.control.phase.isEnded = false)
  | broken (breaks : a.breaks = true) (phase : t.handle.control.phase.isEnded = true)
      (handle : t.handle.control.handle = s.handle.control.handle) (pool : t.pool = s.pool)
      (waiting : t.waiting = s.waiting) (coming : t.coming = s.coming)
  | served (phase : t.handle.control.phase.isEnded = s.handle.control.phase.isEnded)
      (handle : t.handle.control.handle = s.handle.control.handle)
      (alive : t.pool = .ended ↔ s.pool = .ended)
      (even : t.waiting + s.coming = s.waiting + t.coming)
  | lost (lose : a = .lose) (phase : t.handle.control.phase = s.handle.control.phase)
      (handle : t.handle.control.handle = s.handle.control.handle) (pool : t.pool = s.pool)
      (waiting : t.waiting = s.waiting) (coming : t.coming + 1 = s.coming)
  | unasked (deliver : a = .deliver) (asked : s.handle.control.asked = 0)
      (phase : t.handle.control.phase = s.handle.control.phase)
      (handle : t.handle.control.handle = s.handle.control.handle) (pool : t.pool = s.pool)
      (waiting : t.waiting = s.waiting) (coming : t.coming = s.coming + 1)

section Outcomes

theorem outcome_control {x : ControlChannel.Action}
    (moved : s.onHandle (Handle.loop h · x) = some t) : Outcome s t (.control x) := by
  obtain ⟨handle, made, rfl⟩ := Option.map_eq_some_iff.mp moved
  obtain ⟨control, stepped, rfl⟩ := Option.map_eq_some_iff.mp made
  cases ended : control.phase.isEnded with
  | false => exact .running (ControlChannel.running_of_step stepped ended) ended
  | true =>
    obtain ⟨asked, handle, before | breaks | dropped⟩ := ended_of_step stepped ended
    · refine .served (ended.trans before.symm) handle .rfl ?_
      simp [State.waiting, State.coming, asked]
    · refine .broken breaks ended handle rfl rfl ?_
      simp [State.coming, asked]
    · exact .dropped (handle.trans dropped) (.inr dropped)

/-- The visitor of a listener that finds the loop gone is dropped with it. -/
theorem outcome_accept (moved : s.accept = some t) : Outcome s t .accept := by
  obtain ⟨accepting, moved⟩ := Option.ite_none_right_eq_some.mp moved
  split at moved
  · next handle sent =>
    cases moved
    obtain ⟨before, same⟩ := running_of_request sent
    exact .running before (same ▸ before)
  · cases moved
    refine .served rfl rfl .rfl ?_
    simp [State.waiting, State.coming, State.endListener, ControlChannel.Handle.dropRequester,
      ControlChannel.State.dropRequester, accepting]

theorem outcome_enqueue (moved : s.enqueue = some t) : Outcome s t .enqueue := by
  unfold State.enqueue at moved
  split at moved
  · next visitor queueing =>
    split at moved
    · next finished =>
      cases moved
      exact .finished finished (.inl finished)
    · obtain ⟨-, ⟨⟩⟩ := Option.ite_none_right_eq_some.mp moved
      refine .served rfl rfl .rfl ?_
      simp [State.waiting, State.coming, queueing, Nat.add_assoc]
  · cases moved

theorem outcome_takeVisitor (moved : s.takeVisitor = some t) : Outcome s t .takeVisitor := by
  unfold State.takeVisitor at moved
  split at moved
  · next visitor rest receiving queue =>
    cases moved
    refine .served rfl rfl (by simp [receiving]) ?_
    simp only [State.waiting, State.coming, Pool.unserved, receiving, queue, List.length_cons]
    omega
  · cases moved

/-- The pool takes a data channel for the visitor in its hand. -/
theorem outcome_takeChannel (moved : s.takeChannel = some t) : Outcome s t .takeChannel := by
  unfold State.takeChannel at moved
  split at moved
  · next visitor channel rest waiting queue =>
    cases moved
    refine .served rfl rfl (by simp [waiting]) ?_
    simp only [State.waiting, State.coming, Pool.unserved, waiting, queue, List.length_cons]
    omega
  · cases moved

theorem outcome_write {ok : Bool} (moved : s.write ok = some t) : Outcome s t (.write ok) := by
  unfold State.write at moved
  split at moved
  · next visitor channel starting =>
    cases ok with
    | true =>
      cases moved
      refine .served rfl rfl (by simp [starting]) ?_
      simp [State.waiting, State.coming, starting]
    | false =>
      simp only [Bool.false_eq_true, if_false] at moved
      split at moved
      · next handle sent =>
        cases moved
        obtain ⟨before, same⟩ := running_of_request sent
        exact .running before (same ▸ before)
      · cases moved
        exact .finished rfl (.inr (.inl rfl))
  · cases moved

theorem outcome_deliver (moved : s.deliver = some t) : Outcome s t .deliver := by
  obtain ⟨-, moved⟩ := Option.ite_none_left_eq_some.mp moved
  obtain ⟨handle, made, rfl⟩ := Option.map_eq_some_iff.mp moved
  obtain ⟨-, ⟨⟩⟩ := Option.ite_none_right_eq_some.mp made
  by_cases asked : s.handle.control.asked = 0
  · refine .unasked rfl asked rfl rfl rfl rfl ?_
    simp [State.coming, ControlChannel.State.answer, asked]
  · refine .served rfl rfl .rfl ?_
    simp only [State.waiting, State.coming, ControlChannel.State.answer, List.length_append,
      List.length_singleton]
    omega

theorem outcome_tell (moved : s.onHandle Handle.tell = some t) : Outcome s t .tell := by
  obtain ⟨handle, made, rfl⟩ := Option.map_eq_some_iff.mp moved
  obtain ⟨-, ⟨⟩⟩ := Option.ite_none_right_eq_some.mp made
  unfold ControlChannel.State.arrive
  split <;> exact .served rfl rfl .rfl rfl

theorem outcome_lose (moved : s.onHandle Handle.lose = some t) : Outcome s t .lose := by
  obtain ⟨handle, made, rfl⟩ := Option.map_eq_some_iff.mp moved
  obtain ⟨asked, ⟨⟩⟩ := Option.ite_none_right_eq_some.mp made
  refine .lost rfl rfl rfl rfl rfl ?_
  simp only [State.coming, ControlChannel.State.answer]
  omega

/-- A step of the listener alone, with no visitor in its hand before or after. -/
theorem outcome_listener {a : Action} {listener : Listener} (before : s.listener.unserved = 0)
    (after : listener.unserved = 0) : Outcome s { s with listener := listener } a := by
  refine .served rfl rfl .rfl ?_
  simp only [State.waiting, State.coming, before, after]

theorem outcome_of_step {a : Action} (moved : step h s a = some t) : Outcome s t a := by
  cases a with
  | control x => exact outcome_control moved
  | bind =>
    obtain ⟨binding, ⟨⟩⟩ := Option.ite_none_right_eq_some.mp moved
    exact outcome_listener (by simp [binding]) rfl
  | accept => exact outcome_accept moved
  | acceptError =>
    obtain ⟨accepting, ⟨⟩⟩ := Option.ite_none_right_eq_some.mp moved
    exact outcome_listener (by simp [accepting]) rfl
  | wake =>
    obtain ⟨sleeping, ⟨⟩⟩ := Option.ite_none_right_eq_some.mp moved
    exact outcome_listener (by simp [sleeping]) rfl
  | enqueue => exact outcome_enqueue moved
  | listenerShutdown =>
    obtain ⟨⟨-, dropped⟩, ⟨⟩⟩ := Option.ite_none_right_eq_some.mp moved
    exact .dropped dropped (.inr dropped)
  | takeVisitor => exact outcome_takeVisitor moved
  | closeVisitors =>
    obtain ⟨⟨receiving, empty, ended⟩, ⟨⟩⟩ := Option.ite_none_right_eq_some.mp moved
    refine .finished rfl (.inr (.inr (.inr ?_)))
    simp [State.waiting, receiving, empty, ended]
  | takeChannel => exact outcome_takeChannel moved
  | closeChannels =>
    change s.closeChannels = some t at moved
    unfold State.closeChannels at moved
    split at moved
    · obtain ⟨⟨-, dropped⟩, ⟨⟩⟩ := Option.ite_none_right_eq_some.mp moved
      exact .finished rfl (.inr (.inr (.inl dropped)))
    · cases moved
  | write ok => exact outcome_write moved
  | deliver => exact outcome_deliver moved
  | tell => exact outcome_tell moved
  | lose => exact outcome_lose moved
  | drop =>
    obtain ⟨handle, made, rfl⟩ := Option.map_eq_some_iff.mp moved
    obtain ⟨-, ⟨⟩⟩ := Option.ite_none_right_eq_some.mp made
    exact .dropped rfl (.inl rfl)

end Outcomes

theorem Served.step {a : Action} (supplied : Supplied s a) (moved : step h s a = some t)
    (served : Served s) : Served t := by
  intro ended held alive
  cases outcome_of_step moved with
  | finished pool freed => exact absurd pool alive
  | dropped handle drops => simp [held] at handle
  | running before phase => simp [ended] at phase
  | broken breaks phase handle pool waiting coming =>
    rw [waiting, coming]
    exact (supplied (handle ▸ held) (pool ▸ alive)).1 breaks
  | served phase handle before even =>
    have enough := served (phase ▸ ended) (handle ▸ held)
      (fun finished => alive (before.mpr finished))
    omega
  | lost lose phase handle pool waiting coming =>
    have enough := (supplied (handle ▸ held) (pool ▸ alive)).2 lose (phase ▸ ended)
    omega
  | unasked deliver asked phase handle pool waiting coming =>
    have enough := served (phase ▸ ended) (handle ▸ held) (pool ▸ alive)
    omega

section Waits

/-- Where no task can move, a pool that waits has an empty queue and a handle in the map. -/
theorem starved_of_quiescent (quiescent : Quiescent h s) {visitor : Nat}
    (waiting : s.pool = .waiting visitor) :
    s.handle.dataCh = [] ∧ s.handle.control.handle = true := by
  have empty : s.handle.dataCh = [] := by
    have taken : s.takeChannel = none := quiescent.2 .takeChannel rfl
    unfold State.takeChannel at taken
    rw [waiting] at taken
    cases queue : s.handle.dataCh with
    | nil => rfl
    | cons channel rest => simp [queue] at taken
  have closed : s.closeChannels = none := quiescent.2 .closeChannels rfl
  unfold State.closeChannels at closed
  rw [waiting] at closed
  cases held : s.handle.control.handle with
  | true => exact ⟨empty, rfl⟩
  | false => simp [empty, held] at closed

/-- No visitor waits for ever, as long as the loop leaves a data channel for each. -/
theorem not_stranded_of_supplied (reached : (system h).Reach Supplied s) : ¬ Stranded h s := by
  have served : Served s := by
    refine reached.invariant ?_ fun _ _ _ supplied moved => .step supplied moved
    rintro s rfl ended
    cases ended
  rintro ⟨ended, quiescent, visitor, waiting⟩
  obtain ⟨empty, held⟩ := starved_of_quiescent quiescent waiting
  have enough := served ended held (by simp [waiting])
  have asked := quiescent.1
  simp only [State.waiting, State.coming, Pool.unserved, waiting, empty, asked,
    List.length_nil] at enough
  omega

end Waits

/-- More visitors wait than data channels come, and the loop is gone. -/
structure Short (s : State) : Prop where
  ended : s.handle.control.phase.isEnded = true
  held : s.handle.control.handle = true
  alive : s.pool ≠ .ended
  fewer : s.coming < s.waiting

section Short

/-- The loop breaks without a data channel for each visitor that waits. -/
theorem short_of_breaks {a : Action} (breaks : a.breaks = true) (moved : step h s a = some t)
    (held : s.handle.control.handle = true) (alive : s.pool ≠ .ended)
    (fewer : s.coming < s.waiting) : Short t := by
  cases a with
  | control x =>
    obtain ⟨handle, made, rfl⟩ := Option.map_eq_some_iff.mp moved
    obtain ⟨control, stepped, rfl⟩ := Option.map_eq_some_iff.mp made
    have ended : control.phase.isEnded = true := ended_of_breaks breaks stepped
    obtain ⟨asked, handle, -⟩ := ended_of_step stepped ended
    refine ⟨ended, handle.trans held, alive, ?_⟩
    show s.handle.dataCh.length + control.asked < s.waiting
    rw [asked]
    exact fewer
  | _ => cases breaks

/-- Only the end of the handle, a data channel nobody asked for, or one that is broken could
still free the visitors. -/
theorem Short.step {a : Action} (drops : a ≠ .drop) (broken : a ≠ .write false)
    (asked : a = .deliver → s.handle.control.asked ≠ 0) (moved : TcpService.step h s a = some t)
    (short : Short s) : Short t := by
  have fewer := short.fewer
  cases outcome_of_step moved with
  | finished pool freed =>
    rcases freed with finished | fails | dropped | none_waits
    · exact absurd finished short.alive
    · exact absurd fails broken
    · exact absurd dropped (by simp [short.held])
    · omega
  | dropped handle dropped =>
    rcases dropped with drop | dropped
    · exact absurd drop drops
    · exact absurd dropped (by simp [short.held])
  | running before phase => exact absurd before (by simp [short.ended])
  | broken breaks phase handle pool waiting coming =>
    exact ⟨phase, handle ▸ short.held, pool ▸ short.alive, by omega⟩
  | served phase handle before even =>
    exact ⟨phase ▸ short.ended, handle ▸ short.held, fun finished => short.alive (before.mp finished),
      by omega⟩
  | lost lose phase handle pool waiting coming =>
    exact ⟨phase ▸ short.ended, handle ▸ short.held, pool ▸ short.alive, by omega⟩
  | unasked deliver none_asked => exact absurd none_asked (asked deliver)

/-- Where the steps of the tasks end, a visitor is stranded. -/
theorem stranded_of_short (short : Short s) (quiescent : Quiescent h s) : Stranded h s := by
  refine ⟨short.ended, quiescent, ?_⟩
  have fewer := short.fewer
  cases pool : s.pool with
  | waiting visitor => exact ⟨visitor, rfl⟩
  | ended => exact absurd pool short.alive
  | starting visitor channel =>
    have written : s.write true = none := quiescent.2 (.write true) rfl
    simp [State.write, pool] at written
  | receiving =>
    have taken : s.takeVisitor = none := quiescent.2 .takeVisitor rfl
    have queued : s.enqueue = none := quiescent.2 .enqueue rfl
    have empty : s.visitors = [] := by
      cases queue : s.visitors with
      | nil => rfl
      | cons visitor rest => simp [State.takeVisitor, pool, queue] at taken
    cases listener : s.listener with
    | queueing visitor =>
      simp [State.enqueue, listener, pool, empty, ControlChannel.chanSize] at queued
    | _ => simp [State.waiting, pool, empty, listener] at fewer

/-- A listener that waits for visitors and a pool that waits for a data channel. -/
theorem quiescent_of_waiting {visitor : Nat} (ended : s.handle.control.phase.isEnded = true)
    (held : s.handle.control.handle = true) (asked : s.handle.control.asked = 0)
    (untold : s.handle.untold = 0) (empty : s.handle.dataCh = [])
    (waiting : s.pool = .waiting visitor) (accepting : s.listener = .accepting) :
    Quiescent h s := by
  refine ⟨asked, fun a internal => ?_⟩
  cases a with
  | control x =>
    have still : ∀ time, x ≠ .elapse time := by
      rintro time rfl
      cases internal
    simp [TcpService.step, State.onHandle, Handle.loop, step_ended ended still]
  | enqueue => simp [TcpService.step, State.enqueue, accepting]
  | wake => simp [TcpService.step, State.wake, accepting]
  | listenerShutdown => simp [TcpService.step, State.listenerShutdown, held]
  | takeVisitor => simp [TcpService.step, State.takeVisitor, waiting]
  | closeVisitors => simp [TcpService.step, State.closeVisitors, waiting]
  | takeChannel => simp [TcpService.step, State.takeChannel, waiting, empty]
  | closeChannels => simp [TcpService.step, State.closeChannels, waiting, held]
  | write ok => simp [TcpService.step, State.write, waiting]
  | tell => simp [TcpService.step, State.onHandle, Handle.tell, untold]
  | _ => cases internal

end Short

/-- The loop writes a request of the queue. -/
def request : List Action := [.control .takeRequest, .control (.wrote true)]

/-- The prefetch of the pool. -/
def prefetch : List Action := (List.replicate tcpPoolSize request).flatten

/-- Two data channels arrive for the pool and the visitor when the connection breaks. -/
theorem not_stranded_supplied_visitor : ∃ s, (system 30).Reach Supplied s ∧
    (s.handle.control.phase = .ended .writeFailed ∧ s.pool = .waiting 0 ∧
      s.handle.control.handle = true) ∧ ¬ Stranded 30 s := by
  obtain ⟨s, reached, held⟩ := Transition.System.exists_reach (m := system 30) rfl
    (prefetch ++ [.bind, .accept, .enqueue] ++ request ++
      [.deliver, .deliver, .takeVisitor, .control (.elapse 30), .control .heartbeat,
        .control (.wrote false)])
    (fun s => s.handle.control.phase = .ended .writeFailed ∧ s.pool = .waiting 0 ∧
      s.handle.control.handle = true)
    (fun s a => decide (Supplied s a)) (fun _ _ => of_decide_eq_true) (by decide +kernel)
  exact ⟨s, reached, of_decide_eq_true held, not_stranded_of_supplied reached⟩

/-- The client cannot open data channels: the loop ends at its deadline, and the entry of the
handle keeps the pool waiting. -/
theorem stranded_after_stuck : ¬ ∀ h s, (system h).Reachable s → ¬ Stranded h s := by
  intro never
  obtain ⟨s, reached, held⟩ := Transition.System.exists_reachable (m := system 30) rfl
    (prefetch ++ List.replicate tcpPoolSize .lose ++ [.bind, .accept, .enqueue, .takeVisitor] ++
      request ++ [.lose, .control (.elapse 30), .control .heartbeat, .control (.wrote true),
        .control (.elapse 30), .control .stuck])
    (fun s => s.handle.control.phase.isEnded = true ∧ s.handle.control.handle = true ∧
      s.handle.control.asked = 0 ∧ s.handle.untold = 0 ∧ s.handle.dataCh = [] ∧
      s.pool = .waiting 0 ∧ s.listener = .accepting) (by decide +kernel)
  obtain ⟨ended, entry, asked, untold, empty, waiting, accepting⟩ := of_decide_eq_true held
  exact never 30 s reached
    ⟨ended, quiescent_of_waiting ended entry asked untold empty waiting accepting, 0, waiting⟩

end Rathole.TcpService
