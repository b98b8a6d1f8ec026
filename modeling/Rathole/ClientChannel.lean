import Rathole.Config
import Rathole.RuntimeStatus
import Rathole.Transition

set_option autoImplicit false

/- A client control channel: the retry loop that `ControlChannelHandle::new` spawns
around `ControlChannel::run`, and the data channel tasks of all its sessions. One
step runs a task from one await point to the next. -/
namespace Rathole.Client

/-- What the oneshot receiver of the task sees of the handle's sender. -/
inductive ShutdownTx
  | held | sent | dropped
  deriving DecidableEq

/-- Where the task stands. A session is one call of `run`. -/
inductive Phase
  /-- the task was spawned and not polled yet -/
  | spawned
  /-- `remote_addr.resolve()` -/
  | resolving
  /-- `transport.connect` -/
  | connecting
  /-- writing the hello -/
  | greeting
  /-- `read_hello` -/
  | awaitingHello
  /-- writing the auth -/
  | authenticating
  /-- `read_ack` -/
  | awaitingAck
  /-- the `select!` loop of an established channel -/
  | connected
  /-- `run` returned an error; `some n` is the error of a forced rebuild -/
  | failed (rebuild : Option Nat)
  /-- sleeping before the next attempt -/
  | backoff
  /-- out of the retry loop, before `client_stopped` -/
  | finishing
  | stopped
  deriving DecidableEq

inductive Outcome
  | success | failure
  deriving DecidableEq

/-- A data channel task: setting up, about to signal a number of failures, or past
its setup. -/
inductive SetupPhase
  | setup
  | signalling (failures : Nat)
  | done
  deriving DecidableEq

structure DataChannel where
  session : Nat
  phase : SetupPhase
  deriving DecidableEq

/-- The task with what it shares with its data channels: the counter of each session
and the channel of capacity 1 that asks for a rebuild. `history` records, newest
first, the setups that succeeded or failed, with their session. -/
structure Task where
  service : ClientServiceConfig
  shutdown : ShutdownTx
  phase : Phase
  session : Nat
  forceRebuild : Option Nat
  consecutiveFailures : HashMap Nat Nat
  dataChannels : HashMap Nat DataChannel
  history : List (Nat × Outcome)
  deriving DecidableEq

inductive TaskAction
  | run
  | connect (addr : SocketAddr)
  | sendHello
  | helloSent
  | readHello
  | sendAuth
  | readAck (now : Nat)
  | fail
  | createDataChannel (d : Nat)
  | rebuild
  | shutdownReceived
  | checkShutdown (now : Nat)
  | stop
  | dataChannelFailed (d : Nat)
  | signal (d : Nat)
  | dataChannelReady (d : Nat)
  deriving DecidableEq

/-- The call into the registry that a step makes. -/
inductive StatusCall
  | connecting
  | resolved (addr : SocketAddr)
  | connected (now : Nat)
  | retrying (now : Nat)
  | stopped
  deriving DecidableEq

def maxConsecutiveDataChannelFailures : Nat := 3

/-- Only the outermost context of the error is displayed. -/
def runError : String := "Failed to run the control channel"

def StatusCall.apply (call : StatusCall) (r : RuntimeStatus.RuntimeSnapshot) (name : String) :
    Option RuntimeStatus.RuntimeSnapshot :=
  match call with
  | .connecting => some (RuntimeStatus.clientConnecting r name)
  | .resolved addr => some (RuntimeStatus.clientResolved r name addr)
  | .connected now => some (RuntimeStatus.clientConnected now r name)
  | .retrying now => RuntimeStatus.clientRetrying now r name runError
  | .stopped => some (RuntimeStatus.clientStopped r name)

namespace Task

def new (service : ClientServiceConfig) : Task where
  service := service
  shutdown := .held
  phase := .spawned
  session := 0
  forceRebuild := none
  consecutiveFailures := ∅
  dataChannels := ∅
  history := []

/-- `run` starts when the task is first polled and after every sleep. -/
def run (x : Task) : Option Task :=
  if x.phase = .spawned ∨ x.phase = .backoff then
    some { x with phase := .resolving, session := x.session + 1 }
  else none

def advance (x : Task) (before after : Phase) : Option Task :=
  if x.phase = before then some { x with phase := after } else none

/-- A task without a token panics before it writes its auth. -/
def readHello (x : Task) : Option Task :=
  x.advance .awaitingHello (if x.service.token.isSome then .authenticating else .stopped)

/-- `Ack::Ok`: the session gets a failure counter of its own. -/
def readAck (x : Task) : Option Task :=
  if x.phase = .awaitingAck then
    some { x with
      phase := .connected
      consecutiveFailures := x.consecutiveFailures.insert x.session 0 }
  else none

/-- An error of any await point of `run`, a refused ack, or a heartbeat timeout. -/
def fail (x : Task) : Option Task :=
  match x.phase with
  | .resolving | .connecting | .greeting | .awaitingHello | .authenticating | .awaitingAck
  | .connected => some { x with phase := .failed none }
  | _ => none

def createDataChannel (x : Task) (d : Nat) : Option Task :=
  if x.phase = .connected ∧ x.dataChannels.lookup d = none then
    some { x with dataChannels := x.dataChannels.insert d ⟨x.session, .setup⟩ }
  else none

def rebuild (x : Task) : Option Task :=
  match x.phase, x.forceRebuild with
  | .connected, some n => some { x with phase := .failed (some n), forceRebuild := none }
  | _, _ => none

/-- The receiver is ready once the handle sent on it or was dropped. -/
def shutdownReceived (x : Task) : Option Task :=
  if x.shutdown ≠ .held then x.advance .connected .finishing else none

/-- `try_recv` after a failed run: leave the loop, or sleep and try again. The
backoff has no maximal elapsed time, so there always is a next one. -/
def checkShutdown (x : Task) : Option Task :=
  match x.phase with
  | .failed _ => some { x with phase := if x.shutdown ≠ .held then .finishing else .backoff }
  | _ => none

def setDataChannel (x : Task) (d : Nat) (channel : DataChannel) : Task :=
  { x with dataChannels := x.dataChannels.insert d channel }

/-- `note_data_channel_failure` up to the threshold test: the counter is an
`AtomicU32` and wraps. -/
def dataChannelFailed (x : Task) (d : Nat) : Option Task :=
  match x.dataChannels.lookup d with
  | some ⟨session, .setup⟩ =>
    let failures := ((x.consecutiveFailures.lookup session).getD 0 + 1) % 2 ^ 32
    let next := if maxConsecutiveDataChannelFailures ≤ failures then .signalling failures else .done
    some { x.setDataChannel d ⟨session, next⟩ with
      consecutiveFailures := x.consecutiveFailures.insert session failures
      history := (session, .failure) :: x.history }
  | _ => none

/-- `try_send` on the channel of capacity 1. -/
def signal (x : Task) (d : Nat) : Option Task :=
  match x.dataChannels.lookup d with
  | some ⟨session, .signalling failures⟩ =>
    some { x.setDataChannel d ⟨session, .done⟩ with
      forceRebuild := some (x.forceRebuild.getD failures) }
  | _ => none

def dataChannelReady (x : Task) (d : Nat) : Option Task :=
  match x.dataChannels.lookup d with
  | some ⟨session, .setup⟩ =>
    some { x.setDataChannel d ⟨session, .done⟩ with
      consecutiveFailures := x.consecutiveFailures.insert session 0
      history := (session, .success) :: x.history }
  | _ => none

def step (x : Task) : TaskAction → Option Task
  | .run => x.run
  | .connect _ => x.advance .resolving .connecting
  | .sendHello => x.advance .connecting .greeting
  | .helloSent => x.advance .greeting .awaitingHello
  | .readHello => x.readHello
  | .sendAuth => x.advance .authenticating .awaitingAck
  | .readAck _ => x.readAck
  | .fail => x.fail
  | .createDataChannel d => x.createDataChannel d
  | .rebuild => x.rebuild
  | .shutdownReceived => x.shutdownReceived
  | .checkShutdown _ => x.checkShutdown
  | .stop => x.advance .finishing .stopped
  | .dataChannelFailed d => x.dataChannelFailed d
  | .signal d => x.signal d
  | .dataChannelReady d => x.dataChannelReady d

/-- The registry call of a step taken from this state. -/
def call (x : Task) : TaskAction → Option StatusCall
  | .run => some .connecting
  | .connect addr => some (.resolved addr)
  | .readAck now => some (.connected now)
  | .checkShutdown now => if x.shutdown ≠ .held then none else some (.retrying now)
  | .stop => some .stopped
  | _ => none

/-- `ControlChannelHandle::shutdown` sends, and dropping a handle closes; a sender
does only one of the two. -/
def release (x : Task) (tx : ShutdownTx) : Task :=
  if x.shutdown = .held then { x with shutdown := tx } else x

end Task

/-- What happens to one control channel: a step of its tasks, or the end of its
handle. -/
inductive ChannelAction
  | task (a : TaskAction)
  | release (tx : ShutdownTx)
  deriving DecidableEq

def channelStep (x : Task) : ChannelAction → Option Task
  | .task a => x.step a
  | .release tx => some (x.release tx)

/-- One control channel on its own, with any use of its handle. -/
def channel : Transition.System Task ChannelAction where
  init x := ∃ service, x = .new service
  step := channelStep

theorem runError_ascii : ∀ c ∈ runError.toList, c.utf8Size = 1 := by
  have checked : (runError.toList.all fun c => decide (c.utf8Size = 1)) = true := by decide
  intro c member
  exact of_decide_eq_true (List.all_eq_true.mp checked c member)

/-- The text of a retry is never cut inside a character, so the call never panics. -/
theorem StatusCall.apply_isSome (call : StatusCall) (r : RuntimeStatus.RuntimeSnapshot)
    (name : String) : (call.apply r name).isSome := by
  cases call with
  | retrying now =>
    change (RuntimeStatus.clientRetrying now r name runError).isSome
    unfold RuntimeStatus.clientRetrying
    split
    · rw [Option.isSome_map]
      exact RuntimeStatus.safeError_isSome runError_ascii now
    · rfl
  | _ => rfl

end Rathole.Client
