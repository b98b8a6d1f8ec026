import Rathole.ClientChannel

set_option autoImplicit false

/- Which failures make a session end with a forced rebuild. The failure counter
belongs to a session, the channel that carries the signal to the whole task. -/
namespace Rathole.Client

variable {x y : Task}

/-- The outcomes recorded by data channels of one session, newest first. -/
def Task.outcomes (x : Task) (n : Nat) : List Outcome :=
  (x.history.filter fun e => e.1 = n).map Prod.snd

/-- Enough failures with no success in between. -/
def Streak (outcomes : List Outcome) : Prop :=
  List.replicate maxConsecutiveDataChannelFailures .failure <:+: outcomes

/-- A session that ended with a forced rebuild recorded such a streak itself. -/
def RebuildsOwn (x : Task) : Prop :=
  ∀ n, x.phase = .failed (some n) → Streak (x.outcomes x.session)

/-- No signal of another session reaches an established session: none is left when
its loop starts, and none enters the empty channel during the loop. -/
def SignalsOwn (x : Task) : ChannelAction → Prop
  | .task (.signal d) => x.phase = .connected → x.forceRebuild = none →
      ∀ n failures, x.dataChannels.lookup d = some ⟨n, .signalling failures⟩ → n = x.session
  | .task (.readAck _) => x.forceRebuild = none
  | _ => True

/-- The failures since the last success. -/
def trailing (outcomes : List Outcome) : Nat := (outcomes.takeWhile (· = .failure)).length

theorem trailing_failure (outcomes : List Outcome) :
    trailing (.failure :: outcomes) = trailing outcomes + 1 := rfl

theorem streak_of_trailing {outcomes : List Outcome}
    (enough : maxConsecutiveDataChannelFailures ≤ trailing outcomes) : Streak outcomes := by
  have failures : outcomes.takeWhile (· = .failure) =
      List.replicate (trailing outcomes) .failure := by
    refine List.eq_replicate_iff.mpr ⟨rfl, fun o member => ?_⟩
    simpa using List.all_eq_true.mp List.all_takeWhile o member
  have short : List.replicate maxConsecutiveDataChannelFailures Outcome.failure <+:
      List.replicate (trailing outcomes) .failure := by
    rw [← Nat.add_sub_of_le enough, List.replicate_add]
    exact List.prefix_append _ _
  exact (short.trans (failures ▸ List.takeWhile_prefix _)).isInfix

theorem Streak.cons {outcomes : List Outcome} (streak : Streak outcomes) (o : Outcome) :
    Streak (o :: outcomes) :=
  streak.trans (List.suffix_cons o outcomes).isInfix

theorem outcomes_record (session n : Nat) (o : Outcome)
    (same : y.history = (session, o) :: x.history) :
    y.outcomes n = if session = n then o :: x.outcomes n else x.outcomes n := by
  simp only [Task.outcomes, same, List.filter_cons, decide_eq_true_eq]
  split <;> rfl

/-- What a recorded outcome does to a streak of any session. -/
theorem streak_record {session : Nat} {o : Outcome} (same : y.history = (session, o) :: x.history)
    {n : Nat} (streak : Streak (x.outcomes n)) : Streak (y.outcomes n) := by
  rw [outcomes_record session n o same]
  split
  · exact streak.cons o
  · exact streak

structure Counted (x : Task) : Prop where
  counters : ∀ n count, x.consecutiveFailures.lookup n = some count →
    count ≤ trailing (x.outcomes n)
  signalling : ∀ d n failures, x.dataChannels.lookup d = some ⟨n, .signalling failures⟩ →
    Streak (x.outcomes n)
  pending : ∀ failures, x.phase = .connected → x.forceRebuild = some failures →
    Streak (x.outcomes x.session)
  rebuilt : RebuildsOwn x

theorem Counted.new (service : ClientServiceConfig) : Counted (.new service) where
  counters n count found := absurd found (by simp [Task.new])
  signalling d n failures found := absurd found (by simp [Task.new])
  pending _ connected := nomatch connected
  rebuilt _ failed := nomatch failed

/-- Steps of the control channel task that leave the data channels alone. -/
theorem Counted.move (counted : Counted x) (phase : Phase) (session : Nat)
    (forceRebuild : Option Nat)
    (pending : ∀ failures, phase = .connected → forceRebuild = some failures →
      Streak (x.outcomes session))
    (rebuilt : ∀ n, phase = .failed (some n) → Streak (x.outcomes session)) :
    Counted { x with phase := phase, session := session, forceRebuild := forceRebuild } :=
  ⟨counted.counters, counted.signalling, pending, rebuilt⟩

theorem advance_cases {before after : Phase} (moved : x.advance before after = some y) :
    x.phase = before ∧ y = { x with phase := after } := by
  obtain ⟨here, ⟨⟩⟩ := Option.ite_none_right_eq_some.mp moved
  exact ⟨here, rfl⟩

theorem Counted.advance {before after : Phase} (counted : Counted x)
    (moved : x.advance before after = some y) (loop : after ≠ .connected)
    (failed : ∀ n, after ≠ .failed (some n)) : Counted y := by
  obtain ⟨-, rfl⟩ := advance_cases moved
  exact counted.move after x.session x.forceRebuild (fun _ same => absurd same loop)
    fun n same => absurd same (failed n)

theorem Counted.readAck {now : Nat} (counted : Counted x)
    (own : SignalsOwn x (.task (.readAck now))) (moved : x.readAck = some y) : Counted y := by
  obtain ⟨-, ⟨⟩⟩ := Option.ite_none_right_eq_some.mp moved
  refine ⟨fun n count found => ?_, counted.signalling, fun failures _ pending => ?_, nofun⟩
  · rw [lookup_insert_eq] at found
    split at found
    · cases found
      exact Nat.zero_le _
    · exact counted.counters n count found
  · rw [show x.forceRebuild = none from own] at pending
    cases pending

theorem Counted.fail (counted : Counted x) (moved : x.fail = some y) : Counted y := by
  unfold Task.fail at moved
  split at moved <;> cases moved <;>
    exact counted.move _ x.session x.forceRebuild nofun nofun

theorem Counted.createDataChannel {d : Nat} (counted : Counted x)
    (moved : x.createDataChannel d = some y) : Counted y := by
  obtain ⟨-, ⟨⟩⟩ := Option.ite_none_right_eq_some.mp moved
  refine ⟨counted.counters, fun d' n failures found => ?_, counted.pending, counted.rebuilt⟩
  rw [lookup_insert_eq] at found
  split at found
  · cases found
  · exact counted.signalling d' n failures found

theorem Counted.rebuild (counted : Counted x) (moved : x.rebuild = some y) : Counted y := by
  unfold Task.rebuild at moved
  split at moved
  · next n connected pending =>
    cases moved
    exact counted.move _ x.session none nofun fun _ _ => counted.pending n connected pending
  · cases moved

theorem Counted.checkShutdown (counted : Counted x) (moved : x.checkShutdown = some y) :
    Counted y := by
  unfold Task.checkShutdown at moved
  split at moved
  · cases moved
    split <;> exact counted.move _ x.session x.forceRebuild nofun nofun
  · cases moved

theorem Counted.dataChannelFailed {d : Nat} (counted : Counted x)
    (moved : x.dataChannelFailed d = some y) : Counted y := by
  unfold Task.dataChannelFailed at moved
  split at moved
  · next session found =>
    cases moved
    have counter : ((x.consecutiveFailures.lookup session).getD 0 + 1) % 2 ^ 32 ≤
        trailing (.failure :: x.outcomes session) := by
      refine Nat.le_trans (Nat.mod_le _ _) ?_
      rw [trailing_failure]
      cases held : x.consecutiveFailures.lookup session with
      | none => exact Nat.succ_le_succ (Nat.zero_le _)
      | some count => exact Nat.succ_le_succ (counted.counters session count held)
    have record := fun n => outcomes_record (x := x) session n .failure (y := { x with
      history := (session, .failure) :: x.history }) rfl
    refine ⟨fun n count held => ?_, fun d' n failures held => ?_, fun failures connected pending => ?_,
      fun n failed => ?_⟩
    · refine Nat.le_trans ?_ (Nat.le_of_eq (congrArg trailing (record n)).symm)
      rw [lookup_insert_eq] at held
      split at held
      · next same =>
        cases held
        rw [if_pos same.symm, same]
        exact counter
      · next other =>
        rw [if_neg (Ne.symm other)]
        exact counted.counters n count held
    · simp only [Task.setDataChannel, lookup_insert_eq] at held
      split at held
      · split at held
        · next enough =>
          cases held
          refine (record session).symm ▸ ?_
          rw [if_pos rfl]
          exact streak_of_trailing (Nat.le_trans enough counter)
        · cases held
      · exact streak_record rfl (counted.signalling d' n failures held)
    · exact streak_record rfl (counted.pending failures connected pending)
    · exact streak_record rfl (counted.rebuilt n failed)
  · cases moved

theorem Counted.signal {d : Nat} (counted : Counted x) (own : SignalsOwn x (.task (.signal d)))
    (moved : x.signal d = some y) : Counted y := by
  unfold Task.signal at moved
  split at moved
  · next session failures found =>
    cases moved
    refine ⟨counted.counters, fun d' n failures' held => ?_, fun failures' connected pending => ?_,
      counted.rebuilt⟩
    · simp only [Task.setDataChannel, lookup_insert_eq] at held
      split at held
      · cases held
      · exact counted.signalling d' n failures' held
    · cases before : x.forceRebuild with
      | some earlier => exact counted.pending earlier connected before
      | none =>
        have streak := counted.signalling d session failures found
        rwa [own connected before session failures found] at streak
  · cases moved

theorem Counted.dataChannelReady {d : Nat} (counted : Counted x)
    (moved : x.dataChannelReady d = some y) : Counted y := by
  unfold Task.dataChannelReady at moved
  split at moved
  · next session found =>
    cases moved
    refine ⟨fun n count held => ?_, fun d' n failures held => ?_, fun failures connected pending =>
      streak_record rfl (counted.pending failures connected pending),
      fun n failed => streak_record rfl (counted.rebuilt n failed)⟩
    · rw [lookup_insert_eq] at held
      split at held
      · cases held
        exact Nat.zero_le _
      · next other =>
        rw [outcomes_record session n .success rfl, if_neg (Ne.symm other)]
        exact counted.counters n count held
    · simp only [Task.setDataChannel, lookup_insert_eq] at held
      split at held
      · cases held
      · exact streak_record rfl (counted.signalling d' n failures held)
  · cases moved

theorem Counted.step {a : TaskAction} (counted : Counted x) (own : SignalsOwn x (.task a))
    (moved : x.step a = some y) : Counted y := by
  cases a with
  | run =>
    obtain ⟨-, ⟨⟩⟩ := Option.ite_none_right_eq_some.mp moved
    exact counted.move _ (x.session + 1) x.forceRebuild nofun nofun
  | connect addr | sendHello | helloSent | sendAuth | stop => exact counted.advance moved nofun nofun
  | readHello => exact counted.advance moved (by split <;> nofun) (by split <;> nofun)
  | readAck now => exact counted.readAck own moved
  | fail => exact counted.fail moved
  | createDataChannel d => exact counted.createDataChannel moved
  | rebuild => exact counted.rebuild moved
  | shutdownReceived =>
    obtain ⟨-, moved⟩ := Option.ite_none_right_eq_some.mp moved
    exact counted.advance moved nofun nofun
  | checkShutdown now => exact counted.checkShutdown moved
  | dataChannelFailed d => exact counted.dataChannelFailed moved
  | signal d => exact counted.signal own moved
  | dataChannelReady d => exact counted.dataChannelReady moved

theorem Counted.release (counted : Counted x) (tx : ShutdownTx) : Counted (x.release tx) := by
  unfold Task.release
  split
  · exact ⟨counted.counters, counted.signalling, counted.pending, counted.rebuilt⟩
  · exact counted

/-- While no session is reached by a signal of another one, a session that ends with a
forced rebuild recorded the failures itself. -/
theorem rebuilds_own_of_signals_own (reached : channel.Reach SignalsOwn x) : RebuildsOwn x := by
  have counted : Counted x := by
    refine reached.invariant ?_ ?_
    · rintro x ⟨service, rfl⟩
      exact .new service
    · rintro x (a | tx) y own moved counted
      · exact counted.step own moved
      · cases moved
        exact counted.release tx
  exact counted.rebuilt

/-- A service of the runs on fixed inputs below. -/
def sshService : ClientServiceConfig := ⟨.tcp, "ssh", "127.0.0.1:22", false, some "token", none, some 1⟩

/-- From the start of a session to its connected loop. -/
def establish : List ChannelAction :=
  [.task .run, .task (.connect (.v4 1 2333)), .task .sendHello, .task .helloSent, .task .readHello,
    .task .sendAuth, .task (.readAck 1000)]

def threeDataChannels : List ChannelAction :=
  [.task (.createDataChannel 0), .task (.createDataChannel 1), .task (.createDataChannel 2)]

def threeFailures : List ChannelAction :=
  [.task (.dataChannelFailed 0), .task (.dataChannelFailed 1), .task (.dataChannelFailed 2),
    .task (.signal 2), .task .rebuild]

/-- `SignalsOwn`, as a check. -/
def signalsOwn (x : Task) : ChannelAction → Bool
  | .task (.signal d) =>
    match x.dataChannels.lookup d with
    | some channel => channel.session = x.session
    | none => true
  | .task (.readAck _) => x.forceRebuild = none
  | _ => true

theorem signals_own_of_check (x : Task) (a : ChannelAction) (passed : signalsOwn x a = true) :
    SignalsOwn x a := by
  cases a with
  | release tx => trivial
  | task a =>
    cases a with
    | signal d =>
      intro _ _ n failures found
      simpa [signalsOwn, found] using passed
    | readAck now =>
      have empty : x.forceRebuild = none := by simpa [signalsOwn] using passed
      exact empty
    | _ => trivial

/-- Three failed setups of the session itself end it. -/
theorem rebuilds_own_three_failures :
    ∃ x, channel.Reach SignalsOwn x ∧ x.phase = .failed (some 3) ∧ RebuildsOwn x := by
  obtain ⟨x, reached, held⟩ := Transition.System.exists_reach (m := channel) ⟨sshService, rfl⟩
    (establish ++ threeDataChannels ++ threeFailures) (fun x => x.phase = .failed (some 3))
    signalsOwn signals_own_of_check (by decide +kernel)
  exact ⟨x, reached, of_decide_eq_true held, rebuilds_own_of_signals_own reached⟩

/-- The data channels of a session that lost its connection fail once the next
session is up, and end that one. -/
theorem rebuild_by_earlier_session : ¬ ∀ x, channel.Reachable x → RebuildsOwn x := by
  intro own
  obtain ⟨x, reached, held⟩ := Transition.System.exists_reachable (m := channel) ⟨sshService, rfl⟩
    (establish ++ threeDataChannels ++ [.task .fail, .task (.checkShutdown 2000)] ++ establish ++
      threeFailures)
    (fun x => x.phase = .failed (some 3) ∧ x.outcomes x.session = []) (by decide +kernel)
  obtain ⟨failed, none⟩ := of_decide_eq_true held
  have streak := own x reached 3 failed
  rw [none] at streak
  exact absurd (List.infix_nil.mp streak) (by decide)

end Rathole.Client
