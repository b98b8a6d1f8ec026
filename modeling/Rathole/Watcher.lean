import Rathole.ConfigDiff
import Rathole.ConfigOrder
import Rathole.Transition

set_option autoImplicit false

/- The configuration watcher and the file it watches. -/
namespace Rathole

/-- What an event does to the configuration it is about. -/
def Config.apply (config : Config) : ConfigChange → Config
  | .general new => new
  | .serverChange (.add cfg) =>
    { config with server := config.server.map fun s =>
        { s with services := s.services.insert cfg.name cfg } }
  | .serverChange (.delete name) =>
    { config with server := config.server.map fun s =>
        { s with services := s.services.erase name } }
  | .clientChange (.add cfg) =>
    { config with client := config.client.map fun c =>
        { c with services := c.services.insert cfg.name cfg } }
  | .clientChange (.delete name) =>
    { config with client := config.client.map fun c =>
        { c with services := c.services.erase name } }

namespace Watcher

/-- Where the watcher stands. The initial read belongs to `ConfigWatcherHandle::new`,
which is tried again after it failed. A read is torn once the file was written to
while it was under way. -/
inductive Phase
  | idle
  | loading (torn : Bool)
  /-- `config_watcher` was spawned and has not registered the watch -/
  | spawned (old : Config)
  /-- at the `select!` -/
  | waiting (old : Config)
  | rescanning (old : Config) (torn : Bool)
  | exited
  deriving DecidableEq

/-- `undelivered` counts the notifications the operating system owes, `queued` those in
the channel `fevent_rx`; `sent` lists what went into `event_tx`, oldest first. -/
structure State (Text : Type) where
  file : Text
  phase : Phase
  undelivered : Nat
  queued : Nat
  sent : List ConfigChange
  deriving DecidableEq

/-- Every parse and every diff meets the hash maps in an order of its own. -/
inductive Action (Text : Type)
  | write (text : Text) (extra : Nat)
  | touch
  | deliver
  | beginRead
  | finishRead (text : Text) (order : HashOrder)
  | register
  | receive
  | rescan (text : Text) (read diff : HashOrder)
  | shutdown

variable {Text : Type} [DecidableEq Text] (tomlFromStr : Text → Except String Config)

def Phase.watched : Phase → Bool
  | .waiting _ | .rescanning .. => true
  | _ => false

def Phase.tear : Phase → Phase
  | .loading _ => .loading true
  | .rescanning old _ => .rescanning old true
  | phase => phase

namespace State

/-- A write by another program. It is announced at least once if the file is watched. -/
def write (s : State Text) (text : Text) (extra : Nat) : State Text :=
  { s with
    file := text
    phase := s.phase.tear
    undelivered := if s.phase.watched then s.undelivered + (extra + 1) else s.undelivered }

/-- A notification without a write. -/
def touch (s : State Text) : Option (State Text) :=
  if s.phase.watched then some { s with undelivered := s.undelivered + 1 } else none

def deliver (s : State Text) : Option (State Text) :=
  if 0 < s.undelivered then
    some { s with undelivered := s.undelivered - 1, queued := s.queued + 1 }
  else none

def beginRead (s : State Text) : Option (State Text) :=
  if s.phase = .idle then some { s with phase := .loading false } else none

/-- The end of the initial read. A torn read may see anything. -/
def finishRead (s : State Text) (text : Text) (order : HashOrder) : Option (State Text) :=
  match s.phase with
  | .loading torn =>
    if torn ∨ text = s.file then
      match Config.fromStr tomlFromStr order text with
      | .error _ => some { s with phase := .idle }
      | .ok config => some { s with phase := .spawned config, sent := [.general config] }
    else none
  | _ => none

def register (s : State Text) : Option (State Text) :=
  match s.phase with
  | .spawned old => some { s with phase := .waiting old }
  | _ => none

def receive (s : State Text) : Option (State Text) :=
  match s.phase with
  | .waiting old =>
    if 0 < s.queued then some { s with phase := .rescanning old false, queued := s.queued - 1 }
    else none
  | _ => none

/-- The end of a rescan: an invalid content is ignored. -/
def rescan (s : State Text) (text : Text) (read diff : HashOrder) : Option (State Text) :=
  match s.phase with
  | .rescanning old torn =>
    if torn ∨ text = s.file then
      match Config.fromStr tomlFromStr read text with
      | .error _ => some { s with phase := .waiting old }
      | .ok new =>
        some { s with
          phase := .waiting new
          sent := s.sent ++ (calculateEvents diff old new).getD [] }
    else none
  | _ => none

def shutdown (s : State Text) : Option (State Text) :=
  match s.phase with
  | .waiting _ => some { s with phase := .exited }
  | _ => none

end State

def step (s : State Text) : Action Text → Option (State Text)
  | .write text extra => some (s.write text extra)
  | .touch => s.touch
  | .deliver => s.deliver
  | .beginRead => s.beginRead
  | .finishRead text order => s.finishRead tomlFromStr text order
  | .register => s.register
  | .receive => s.receive
  | .rescan text read diff => s.rescan tomlFromStr text read diff
  | .shutdown => s.shutdown

def system : Transition.System (State Text) (Action Text) where
  init s := ∃ file, s = ⟨file, .idle, 0, 0, []⟩
  step := step tomlFromStr

end Watcher

end Rathole
