import Mathlib.Data.Fintype.EquivFin
import Rathole.Client
import Rathole.ClientRebuild

set_option autoImplicit false

/- What a control channel task still does once its handle is gone. -/
namespace Rathole.Client

variable {s t : State} {x y : Task} {ok : Task → ChannelAction → Prop}

section Projection

/-- Every task of the client, seen on its own, takes only allowed steps. -/
def Respects (ok : Task → ChannelAction → Prop) (s : State) (a : Action) : Prop :=
  ∀ i x, s.tasks.lookup i = some x → (∀ b, a = .task i b → ok x (.task b)) ∧
    ∀ tx, s.releases a = some (i, tx) → ok x (.release tx)

/-- Where the tasks of the state after a step come from. -/
def Descends (s t : State) (a : Action) : Prop :=
  ∀ i y, t.tasks.lookup i = some y → (∃ service, y = .new service) ∨
    ∃ x, s.tasks.lookup i = some x ∧ (y = x ∨ (∃ b, a = .task i b ∧ x.step b = some y) ∨
      ∃ tx, s.releases a = some (i, tx) ∧ y = x.release tx)

theorem descends_of_release {a : Action} {name : String} {tx : ShutdownTx}
    (tasks : t.tasks = (s.release name tx).tasks)
    (releases : s.releases a = (s.serviceHandles.lookup name).map (·, tx)) : Descends s t a := by
  intro i y found
  rw [tasks] at found
  obtain ⟨x, before, same | ⟨held, released⟩⟩ := lookup_release_some found
  · exact .inr ⟨x, before, .inl same⟩
  · exact .inr ⟨x, before, .inr (.inr ⟨tx, by rw [releases, held]; rfl, released⟩)⟩

theorem descends_of_same {a : Action} (tasks : t.tasks = s.tasks) : Descends s t a := by
  intro i y found
  exact .inr ⟨y, tasks ▸ found, .inl rfl⟩

theorem descends_of_createNext (bounded : Bounded s) (moved : s.createNext = some t) :
    Descends s t .createNext := by
  obtain ⟨name, service, rest, u, starting, made, rfl⟩ := createNext_cases moved
  cases newHandle_cases made
  intro i y found
  obtain ⟨x, before, same⟩ := lookup_release_some found
  rw [lookup_insert_eq] at before
  split at before
  · next new =>
    cases before
    rcases same with rfl | ⟨held, -⟩
    · exact .inl ⟨service, rfl⟩
    · exact absurd (bounded.handles name i held) (new ▸ Nat.lt_irrefl _)
  · refine .inr ⟨x, before, same.imp_right fun ⟨held, released⟩ => .inr ⟨.dropped, ?_, released⟩⟩
    simp only [State.releases, starting]
    exact congrArg (Option.map (·, ShutdownTx.dropped)) held

theorem descends_of_step {a : Action} (bounded : Bounded s) (moved : step s a = some t) :
    Descends s t a := by
  cases a with
  | createNext => exact descends_of_createNext bounded moved
  | created | shutdown | drained =>
    obtain ⟨-, ⟨⟩⟩ := Option.ite_none_right_eq_some.mp moved
    exact descends_of_same rfl
  | event e =>
    obtain ⟨-, rfl | ⟨cfg, -, rfl⟩ | ⟨name, -, rfl⟩⟩ := event_cases moved <;>
      exact descends_of_same rfl
  | spawn =>
    obtain ⟨cfg, -, made⟩ := spawn_cases moved
    cases newHandle_cases made
    intro i y found
    rw [lookup_insert_eq] at found
    split at found
    · cases found
      exact .inl ⟨cfg, rfl⟩
    · exact .inr ⟨y, found, .inl rfl⟩
  | install =>
    obtain ⟨name, i, spawned, rfl⟩ := install_cases moved
    exact descends_of_release rfl (by simp only [State.releases, spawned])
  | dropHandle =>
    obtain ⟨name, deleting, rfl⟩ := dropHandle_cases moved
    exact descends_of_release rfl (by simp only [State.releases, deleting])
  | drain name =>
    obtain ⟨-, ⟨⟩⟩ := Option.ite_none_right_eq_some.mp moved
    exact descends_of_release rfl rfl
  | task i b =>
    obtain ⟨x, y, found, stepped, ⟨-, rfl⟩ | ⟨call, runtime, -, -, rfl⟩⟩ := task_cases moved <;>
    · intro j z held
      rw [lookup_insert_eq] at held
      split at held
      · next same =>
        cases held
        exact .inr ⟨x, same ▸ found, .inr (.inl ⟨b, same ▸ rfl, stepped⟩)⟩
      · exact .inr ⟨z, held, .inl rfl⟩

/-- Every control channel of a run of the client makes a run of its own. -/
theorem channel_reach (reached : system.Reach (Respects ok) s) {i : Nat}
    (found : s.tasks.lookup i = some x) : channel.Reach ok x := by
  have all : ∀ i x, s.tasks.lookup i = some x → channel.Reach ok x := by
    refine reached.invariant_with (I := fun s => ∀ i x, s.tasks.lookup i = some x →
      channel.Reach ok x) (fun _ known => bounded_of_reach known.reachable) ?_ ?_
    · rintro s ⟨config, entries, processId, now, -, -, rfl⟩ i x found
      exact absurd found (by simp [State.start])
    · intro s a t bounded _ allowed moved known i y found
      rcases descends_of_step bounded moved i y found with ⟨service, rfl⟩ |
        ⟨x, before, rfl | ⟨b, rfl, stepped⟩ | ⟨tx, releases, rfl⟩⟩
      · exact .start ⟨service, rfl⟩
      · exact known i y before
      · exact (known i x before).next ((allowed i x before).1 b rfl) stepped
      · exact (known i x before).next ((allowed i x before).2 tx releases) rfl
  exact all i x found

end Projection

/-- The steps that bring a task back: it opens a connection to the server, sends an auth, takes a
command to create a data channel, or one of its data channels starts to serve a visitor. -/
def TaskAction.returns : TaskAction → Bool
  | .connect _ | .sendAuth | .createDataChannel _ | .dataChannelReady _ => true
  | _ => false

/-- The session is over, and the task looks at the shutdown receiver before it starts another
one. -/
def Phase.Spent : Phase → Prop
  | .failed _ | .finishing | .stopped => True
  | _ => False

instance (p : Phase) : Decidable p.Spent :=
  match p with
  | .failed _ | .finishing | .stopped => isTrue trivial
  | .spawned | .resolving | .connecting | .greeting | .awaitingHello | .authenticating
  | .awaitingAck | .connected | .backoff => isFalse id

/-- The session is over, and none of the data channels of the task is still being set up. -/
structure Task.Spent (x : Task) : Prop where
  phase : x.phase.Spent
  settled : ∀ d channel, x.dataChannels.lookup d = some channel → channel.phase ≠ .setup

/-- A handle is given up only when its task is spent. -/
def ReleasesSpent (x : Task) : ChannelAction → Prop
  | .release _ => x.Spent
  | .task _ => True

theorem release_phase (x : Task) (tx : ShutdownTx) : (x.release tx).phase = x.phase := by
  unfold Task.release
  split <;> rfl

theorem release_service (x : Task) (tx : ShutdownTx) : (x.release tx).service = x.service := by
  unfold Task.release
  split <;> rfl

theorem Task.Spent.release (spent : x.Spent) (tx : ShutdownTx) : (x.release tx).Spent := by
  unfold Task.release
  split
  · exact ⟨spent.phase, spent.settled⟩
  · exact spent

/-- The steps of a task keep its service and its side of the shutdown channel. -/
theorem step_fixed {a : TaskAction} (moved : x.step a = some y) :
    y.service = x.service ∧ y.shutdown = x.shutdown := by
  cases a with
  | connect _ | sendHello | helloSent | readHello | sendAuth | stop =>
    obtain ⟨-, rfl⟩ := advance_cases moved
    exact ⟨rfl, rfl⟩
  | run | readAck now | createDataChannel d =>
    obtain ⟨-, ⟨⟩⟩ := Option.ite_none_right_eq_some.mp moved
    exact ⟨rfl, rfl⟩
  | shutdownReceived =>
    obtain ⟨-, moved⟩ := Option.ite_none_right_eq_some.mp moved
    obtain ⟨-, rfl⟩ := advance_cases moved
    exact ⟨rfl, rfl⟩
  | fail | rebuild | checkShutdown now | dataChannelFailed d | signal d | dataChannelReady d =>
    simp only [Task.step, Task.fail, Task.rebuild, Task.checkShutdown, Task.dataChannelFailed,
      Task.signal, Task.dataChannelReady] at moved
    split at moved <;> cases moved <;> exact ⟨rfl, rfl⟩

theorem Task.Spent.advance {before after : Phase} (spent : x.Spent)
    (moved : x.advance before after = some y) (next : before.Spent → after.Spent) : y.Spent := by
  obtain ⟨here, rfl⟩ := advance_cases moved
  exact ⟨next (here ▸ spent.phase), spent.settled⟩

/-- A data channel that moves on is not set up again. -/
theorem Task.Spent.setDataChannel (spent : x.Spent) {d : Nat} {channel : DataChannel}
    (next : channel.phase ≠ .setup) : (x.setDataChannel d channel).Spent := by
  refine ⟨spent.phase, fun other own found => ?_⟩
  rw [Task.setDataChannel, lookup_insert_eq] at found
  split at found
  · cases found
    exact next
  · exact spent.settled other own found

theorem Task.Spent.blocks {a : TaskAction} (spent : x.Spent) (returns : a.returns = true) :
    x.step a = none := by
  cases a with
  | connect _ | sendAuth =>
    refine if_neg fun here => ?_
    have ended := spent.phase
    rw [here] at ended
    exact ended
  | createDataChannel d =>
    refine if_neg fun here => ?_
    have ended := spent.phase
    rw [here.1] at ended
    exact ended
  | dataChannelReady d =>
    simp only [Task.step, Task.dataChannelReady]
    split
    · next session found => exact absurd rfl (spent.settled d _ found)
    · rfl
  | _ => cases returns

/-- A spent task without its handle stays spent. -/
theorem Task.Spent.step {a : TaskAction} (spent : x.Spent) (gone : x.shutdown ≠ .held)
    (moved : x.step a = some y) : y.Spent := by
  cases a with
  | run =>
    obtain ⟨idle, -⟩ := Option.ite_none_right_eq_some.mp moved
    have ended := spent.phase
    rcases idle with idle | idle <;> rw [idle] at ended <;> exact ended.elim
  | sendHello | helloSent | readHello => exact spent.advance moved False.elim
  | stop => exact spent.advance moved fun _ => trivial
  | readAck now =>
    obtain ⟨here, -⟩ := Option.ite_none_right_eq_some.mp moved
    have ended := spent.phase
    rw [here] at ended
    exact ended.elim
  | shutdownReceived =>
    obtain ⟨-, moved⟩ := Option.ite_none_right_eq_some.mp moved
    exact spent.advance moved fun _ => trivial
  | fail | rebuild =>
    simp only [Task.step, Task.fail, Task.rebuild] at moved
    split at moved <;> cases moved <;> exact ⟨trivial, spent.settled⟩
  | checkShutdown now =>
    simp only [Task.step, Task.checkShutdown, if_pos gone] at moved
    split at moved <;> cases moved
    exact ⟨trivial, spent.settled⟩
  | dataChannelFailed d =>
    simp only [Task.step, Task.dataChannelFailed] at moved
    split at moved
    · next session found => exact absurd rfl (spent.settled d _ found)
    · cases moved
  | signal d =>
    simp only [Task.step, Task.signal] at moved
    split at moved
    · next session failures found =>
      cases moved
      have done : (x.setDataChannel d ⟨session, .done⟩).Spent := spent.setDataChannel nofun
      exact ⟨done.phase, done.settled⟩
    · cases moved
  | connect _ | sendAuth | createDataChannel _ | dataChannelReady _ =>
    rw [spent.blocks rfl] at moved
    cases moved

/-- A control channel whose handle is given up only when its task is spent. -/
theorem spent_of_reach (reached : channel.Reach ReleasesSpent x) (gone : x.shutdown ≠ .held) :
    x.Spent := by
  refine reached.invariant (I := fun x => x.shutdown ≠ .held → x.Spent) ?_ ?_ gone
  · rintro x ⟨service, rfl⟩ gone
    exact absurd rfl gone
  · rintro x (a | tx) y allowed moved spent gone
    · rw [(step_fixed moved).2] at gone
      exact (spent gone).step gone moved
    · cases moved
      exact Task.Spent.release allowed tx

/-- A client with the one service `ssh`, for the runs on fixed inputs below. -/
def sshClient : State :=
  .start ⟨"0.0.0.0:2333", none, none, (∅ : HashMap String _).insert "ssh" sshService, .default,
    defaultHeartbeatTimeout, defaultClientRetryInterval⟩ [("ssh", sshService)] 1 0

theorem sshClient_init : system.init sshClient := by
  refine ⟨_, _, _, _, enumerates_single "ssh" sshService, ?_, rfl⟩
  intro name service found
  obtain ⟨rfl, rfl⟩ := lookup_single found
  rfl

/-- Task `i` from its first poll, or the end of a sleep, to its connected loop. -/
def establishTask (i : Nat) : List Action :=
  [.task i .run, .task i (.connect (.v4 1 2333)), .task i .sendHello, .task i .helloSent,
    .task i .readHello, .task i .sendAuth, .task i (.readAck 1000)]

def deleteSsh : List Action := [.event (.clientChange (.delete "ssh")), .dropHandle]

def addSsh : List Action := [.event (.clientChange (.add sshService)), .spawn, .install]

section Continuation

/-- Some continuation of the channel brings it back. -/
def ComesBack (x : Task) : Prop :=
  ∃ as y a, channel.Run (fun _ a => ∀ tx, a ≠ .release tx) x as y ∧ TaskAction.returns a = true ∧
    (y.step a).isSome

theorem ComesBack.here {a : TaskAction} (returns : a.returns = true) (enabled : (x.step a).isSome) :
    ComesBack x :=
  ⟨[], x, a, .nil x, returns, enabled⟩

theorem ComesBack.after {a : TaskAction} (moved : x.step a = some y) (back : ComesBack y) :
    ComesBack x := by
  obtain ⟨as, z, b, run, enabled⟩ := back
  exact ⟨.task a :: as, z, b, .cons nofun moved run, enabled⟩

/-- What a task does that is not spent when it loses its handle: unless it has no token, it comes
back in some continuation. -/
theorem comes_back_iff (token : x.service.token.isSome) (gone : x.shutdown ≠ .held) :
    ComesBack x ↔ ¬ x.Spent := by
  constructor
  · rintro ⟨as, y, a, run, returns, enabled⟩ spent
    have both := run.invariant (I := fun x => x.shutdown ≠ .held ∧ x.Spent) ?_ ⟨gone, spent⟩
    · rw [both.2.blocks returns] at enabled
      cases enabled
    · rintro x (a | tx) y kept moved ⟨gone, spent⟩
      · exact ⟨(step_fixed moved).2 ▸ gone, spent.step gone moved⟩
      · exact absurd rfl (kept tx)
  · intro early
    have connected : ∀ z : Task, z.phase = .connected → ComesBack z := by
      intro z here
      obtain ⟨d, new⟩ := Infinite.exists_notMem_finset z.dataChannels.keys
      refine .here (a := .createDataChannel d) rfl ?_
      rw [Finmap.mem_keys, ← Finmap.lookup_isSome, Option.not_isSome_iff_eq_none] at new
      simp [Task.step, Task.createDataChannel, here, new]
    have authenticating : ∀ z : Task, z.phase = .authenticating → ComesBack z := fun z here =>
      .here (a := .sendAuth) rfl (by simp [Task.step, Task.advance, here])
    have awaiting : ∀ z : Task, z.service.token.isSome → z.phase = .awaitingHello →
        ComesBack z := by
      intro z token here
      refine .after (a := .readHello) (y := { z with phase := .authenticating }) ?_
        (authenticating _ rfl)
      simp [Task.step, Task.readHello, Task.advance, here, token]
    have greeting : ∀ z : Task, z.service.token.isSome → z.phase = .greeting → ComesBack z := by
      intro z token here
      refine .after (a := .helloSent) (y := { z with phase := .awaitingHello }) ?_
        (awaiting _ token rfl)
      simp [Task.step, Task.advance, here]
    have resolving : ∀ z : Task, z.phase = .resolving → ComesBack z := fun z here =>
      .here (a := .connect (.v4 0 0)) rfl (by simp [Task.step, Task.advance, here])
    -- A spent phase leaves a data channel that is being set up.
    have setup : x.phase.Spent → ComesBack x := by
      intro phase
      by_contra never
      refine early ⟨phase, fun d channel found here => never ?_⟩
      obtain ⟨session, p⟩ := channel
      cases here
      exact .here (a := .dataChannelReady d) rfl (by simp [Task.step, Task.dataChannelReady, found])
    cases phase : x.phase with
    | spawned | backoff =>
      refine .after (a := .run) (y := { x with phase := .resolving, session := x.session + 1 }) ?_
        (resolving _ rfl)
      simp [Task.step, Task.run, phase]
    | resolving => exact resolving x phase
    | connecting =>
      refine .after (a := .sendHello) (y := { x with phase := .greeting }) ?_ (greeting _ token rfl)
      simp [Task.step, Task.advance, phase]
    | greeting => exact greeting x token phase
    | awaitingHello => exact awaiting x token phase
    | authenticating => exact authenticating x phase
    | awaitingAck =>
      refine .after (a := .readAck 0) (y := { x with
        phase := .connected
        consecutiveFailures := x.consecutiveFailures.insert x.session 0 }) ?_ (connected _ rfl)
      simp [Task.step, Task.readAck, phase]
    | connected => exact connected x phase
    | failed _ | finishing | stopped => exact setup (by rw [phase]; trivial)

end Continuation

end Rathole.Client
