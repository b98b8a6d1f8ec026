import Rathole.HotReload
import Rathole.SupervisorShutdown
import Rathole.WatcherUpToDate

set_option autoImplicit false

/- The supervisor together with the watcher that feeds its event channel: which
configuration the last instance serves once an accepted version was processed. -/
namespace Rathole.Supervisor

open Transition.System (Run Free)

inductive RunMode
  | server | client | ambiguous | undetermine
  deriving DecidableEq

/-- The command line flags `--client` and `--server`. -/
structure RunArgs where
  client : Bool
  server : Bool

def determineRunMode (config : Config) (client server : Bool) : RunMode :=
  if client && server then .undetermine
  else if client then .client
  else if server then .server
  else if config.client.isSome && config.server.isSome then .ambiguous
  else if config.client.isSome then .client
  else if config.server.isSome then .server
  else .undetermine

/-- `run_instance` stops at once in the other two modes. -/
def RunMode.runs : RunMode → Bool
  | .server | .client => true
  | .ambiguous | .undetermine => false

/-- The events an instance applies; it logs the others as ignored. -/
def RunMode.handles : RunMode → ConfigChange → Bool
  | .server, .serverChange _ | .client, .clientChange _ => true
  | _, _ => false

def Generation.mode (args : RunArgs) (i : Generation) : RunMode :=
  determineRunMode i.config args.client args.server

/-- `old` is the baseline of the watcher, `sent` what it put into `event_tx` and `taken` how
much of it the main loop received. `versions` lists the accepted configurations, each with
the number of events sent when its own were out, and `applied` the updates each instance
took from its queue: both are history only. -/
structure Fed where
  supervisor : State
  old : Option Config
  sent : List ConfigChange
  taken : Nat
  versions : List (Nat × Config)
  applied : HashMap Nat (List ConfigChange)

inductive FedAction (Text : Type)
  | accept (text : Text) (read diff : HashOrder)
  | receive
  | takeUpdate (g : Nat)
  | supervisor (a : Action)

/-- The steps of the supervisor that neither the event channel nor an update queue feeds. -/
def Action.own : Action → Bool
  | .general _ | .serviceChange _ | .takeUpdate _ => false
  | _ => true

namespace Fed

def start : Fed := ⟨.start, none, [], 0, [], ∅⟩

def appliedBy (s : Fed) (g : Nat) : List ConfigChange := (s.applied.lookup g).getD []

/-- The watcher accepted a configuration: the initial one, or the one of a rescan. -/
def accept (s : Fed) (diff : HashOrder) (config : Config) : Fed :=
  let events := match s.old with
    | none => [.general config]
    | some old => (calculateEvents diff old config).getD []
  { s with
    old := some config
    sent := s.sent ++ events
    versions := s.versions ++ [((s.sent ++ events).length, config)] }

def supervise (s : Fed) (a : Action) : Option Fed :=
  (Supervisor.step s.supervisor a).map fun t => { s with supervisor := t }

def receive (s : Fed) : Option Fed :=
  match s.sent[s.taken]? with
  | none => none
  | some (.general config) => { s with taken := s.taken + 1 }.supervise (.general config)
  | some ev => { s with taken := s.taken + 1 }.supervise (.serviceChange ev)

def takeUpdate (args : RunArgs) (s : Fed) (g : Nat) : Option Fed :=
  match s.supervisor.generations.lookup g with
  | none => none
  | some i =>
    if (i.mode args).runs then
      { s with applied := s.applied.insert g (s.appliedBy g ++ i.updates.head?.toList) }.supervise
        (.takeUpdate g)
    else none

def step {Text : Type} (tomlFromStr : Text → Except String Config) (args : RunArgs) (s : Fed) :
    FedAction Text → Option Fed
  | .accept text read diff =>
    match Config.fromStr tomlFromStr read text with
    | .error _ => none
    | .ok config => some (s.accept diff config)
  | .receive => s.receive
  | .takeUpdate g => s.takeUpdate args g
  | .supervisor a => if a.own then s.supervise a else none

end Fed

def fed {Text : Type} (tomlFromStr : Text → Except String Config) (args : RunArgs) :
    Transition.System Fed (FedAction Text) where
  init s := s = .start
  step := Fed.step tomlFromStr args

/-- What an instance that started with `config` serves after some updates. -/
def RunMode.serve (mode : RunMode) (config : Config) (updates : List ConfigChange) : Config :=
  (updates.filter mode.handles).foldl Config.apply config

/-- Two configurations are the same for an instance: in the section of its role. -/
def RunMode.agree : RunMode → Config → Config → Prop
  | .server, a, b => a.server = b.server
  | .client, a, b => a.client = b.client
  | _, a, b => a = b

/-- Back at its `select!` after the last event of an accepted version, the supervisor has an
instance that serves it once its queue is empty, or that was started with it and ended. -/
def Converged (args : RunArgs) (s : Fed) : Prop :=
  ∀ n config, (n, config) ∈ s.versions → s.taken = n → s.supervisor.loop = .selecting →
    ∃ g i, s.supervisor.lastInstance = some g ∧ s.supervisor.generations.lookup g = some i ∧
      (i.task ≠ .finished → i.updates = [] →
        (i.mode args).agree ((i.mode args).serve i.config (s.appliedBy g)) config) ∧
      (i.task = .finished → i.config = config)

/-- A service change is handed to an instance that has not ended, and an instance ends only
when it was handed none since it was started. -/
def KeepsServing {Text : Type} (s : Fed) : FedAction Text → Prop
  | .supervisor .forward => ∀ g i, s.supervisor.lastInstance = some g →
      s.supervisor.generations.lookup g = some i → i.task ≠ .finished
  | .supervisor (.exit g) => ∀ i, s.supervisor.lastInstance = some g →
      s.supervisor.generations.lookup g = some i → i.updates = [] ∧ s.appliedBy g = []
  | _ => True

section Serving

variable {args : RunArgs}

/-- The configuration that a list of events, from the initial General on, leads to. -/
def fold (events : List ConfigChange) : Config := events.foldl Config.apply ⟨none, none⟩

theorem fold_general (before after : List ConfigChange) (config : Config) :
    fold (before ++ .general config :: after) = after.foldl Config.apply config := by
  rw [fold, List.foldl_append, List.foldl_cons]
  rfl

theorem apply_agree {mode : RunMode} {e : ConfigChange} {a b : Config}
    (handled : mode.handles e = true) (same : mode.agree a b) :
    mode.agree (a.apply e) (b.apply e) := by
  cases e with
  | general config => cases mode <;> cases handled
  | serverChange change =>
    cases mode with
    | server =>
      have same : a.server = b.server := same
      cases change <;> simp only [RunMode.agree, Config.apply, same]
    | _ => cases handled
  | clientChange change =>
    cases mode with
    | client =>
      have same : a.client = b.client := same
      cases change <;> simp only [RunMode.agree, Config.apply, same]
    | _ => cases handled

/-- Ignored events do not touch the section of the role. -/
theorem ignore_agree {mode : RunMode} {e : ConfigChange} {a b : Config} (runs : mode.runs = true)
    (special : e.isGeneral = false) (ignored : mode.handles e = false) (same : mode.agree a b) :
    mode.agree a (b.apply e) := by
  cases e with
  | general config => cases special
  | serverChange change =>
    cases mode with
    | client => cases change <;> exact same
    | server => cases ignored
    | _ => cases runs
  | clientChange change =>
    cases mode with
    | server => cases change <;> exact same
    | client => cases ignored
    | _ => cases runs

theorem serve_agree {mode : RunMode} (runs : mode.runs = true) {updates : List ConfigChange}
    (services : ∀ e ∈ updates, e.isGeneral = false) (config : Config) :
    mode.agree (mode.serve config updates) (updates.foldl Config.apply config) := by
  have general : ∀ (updates : List ConfigChange) (a b : Config),
      (∀ e ∈ updates, e.isGeneral = false) → mode.agree a b →
      mode.agree (mode.serve a updates) (updates.foldl Config.apply b) := by
    intro updates
    induction updates with
    | nil => exact fun a b _ same => same
    | cons e rest ih =>
      intro a b services same
      have later : ∀ e ∈ rest, e.isGeneral = false :=
        fun e member => services e (List.mem_cons_of_mem _ member)
      have special := services e List.mem_cons_self
      cases handled : mode.handles e with
      | true =>
        rw [RunMode.serve, List.filter_cons_of_pos handled]
        exact ih _ _ later (apply_agree handled same)
      | false =>
        rw [RunMode.serve, List.filter_cons_of_neg (by simp [handled])]
        exact ih _ _ later (ignore_agree runs special handled same)
  refine general updates config config services ?_
  cases mode <;> rfl

/-- What the main loop holds in its hand for the last instance. -/
def Loop.inHand : Loop → List ConfigChange
  | .forwarding ev => [ev]
  | _ => []

/-- The last instance: it was started by the last General received, and every service change
since then was applied, is in its queue, or is in the hand of the main loop. -/
structure Serves (args : RunArgs) (received applied inHand : List ConfigChange) (i : Generation) :
    Prop where
  split : ∃ before, received = before ++ .general i.config :: (applied ++ i.updates ++ inHand)
  services : ∀ e ∈ applied ++ i.updates ++ inHand, e.isGeneral = false
  finished : i.task = .finished → applied = [] ∧ i.updates = []
  roleless : (i.mode args).runs = false → applied = []
  unsignalled : i.shutdown.log = []

theorem Serves.converged {received applied : List ConfigChange} {i : Generation}
    (serves : Serves args received applied [] i) :
    (i.task ≠ .finished → i.updates = [] →
      (i.mode args).agree ((i.mode args).serve i.config applied) (fold received)) ∧
    (i.task = .finished → i.config = fold received) := by
  obtain ⟨before, split⟩ := serves.split
  have led : fold received = (applied ++ i.updates).foldl Config.apply i.config := by
    rw [split, fold_general, List.append_nil]
  have services : ∀ e ∈ applied ++ i.updates, e.isGeneral = false := by
    intro e member
    exact serves.services e (List.mem_append_left _ member)
  constructor
  · intro live drained
    rw [drained, List.append_nil] at led services
    rw [led]
    cases runs : (i.mode args).runs with
    | true => exact serve_agree runs services i.config
    | false =>
      rw [serves.roleless runs]
      cases mode : i.mode args with
      | server | client =>
        rw [mode] at runs
        cases runs
      | ambiguous | undetermine => rfl
  · intro ended
    obtain ⟨none_applied, drained⟩ := serves.finished ended
    rw [led, none_applied, drained]
    rfl

theorem Serves.spawn (before : List ConfigChange) (config : Config)
    (shutdown : Broadcast.Channel Unit Bool) (silent : shutdown.log = []) :
    Serves args (before ++ [.general config]) [] [] ⟨config, .spawned, shutdown, []⟩ where
  split := ⟨before, rfl⟩
  services e member := by cases member
  finished ended := by cases ended
  roleless _ := rfl
  unsignalled := silent

theorem Serves.receive {received applied : List ConfigChange} {i : Generation} {e : ConfigChange}
    (serves : Serves args received applied [] i) (special : e.isGeneral = false) :
    Serves args (received ++ [e]) applied [e] i where
  split := by
    obtain ⟨before, split⟩ := serves.split
    refine ⟨before, ?_⟩
    rw [split]
    simp
  services e' member := by
    rcases List.mem_append.mp member with old | new
    · exact serves.services e' (List.mem_append_left _ old)
    · rw [List.mem_singleton.mp new]
      exact special
  finished := serves.finished
  roleless := serves.roleless
  unsignalled := serves.unsignalled

theorem Serves.forward {received applied : List ConfigChange} {i : Generation} {e : ConfigChange}
    (serves : Serves args received applied [e] i) (live : i.task ≠ .finished) :
    Serves args received applied [] { i with updates := i.updates ++ [e] } where
  split := by
    obtain ⟨before, split⟩ := serves.split
    refine ⟨before, ?_⟩
    rw [split]
    simp
  services := by simpa using serves.services
  finished ended := absurd ended live
  roleless := serves.roleless
  unsignalled := serves.unsignalled

theorem Serves.poll {received applied inHand : List ConfigChange} {i : Generation}
    (serves : Serves args received applied inHand i) :
    Serves args received applied inHand i.poll where
  split := serves.split
  services := serves.services
  finished ended := by cases ended
  roleless := serves.roleless
  unsignalled := serves.unsignalled

theorem Serves.finish {received applied inHand : List ConfigChange} {i : Generation}
    (serves : Serves args received applied inHand i) (drained : i.updates = [])
    (unserved : applied = []) : Serves args received applied inHand i.finish :=
  ⟨serves.split, serves.services, fun _ => ⟨unserved, drained⟩, serves.roleless,
    serves.unsignalled⟩

theorem Serves.takeUpdate {received applied inHand : List ConfigChange} {i : Generation}
    (serves : Serves args received applied inHand i) (runs : (i.mode args).runs = true)
    (running : i.task = .running) : Serves args received
      (applied ++ i.updates.head?.toList) inHand { i with updates := i.updates.tail } where
  split := by
    obtain ⟨before, split⟩ := serves.split
    refine ⟨before, ?_⟩
    rw [split]
    cases i.updates <;> simp
  services := by
    have services := serves.services
    cases updates : i.updates with
    | nil => simpa [updates] using services
    | cons e rest => simpa [updates] using services
  finished ended := by
    have ended : i.task = .finished := ended
    rw [running] at ended
    cases ended
  roleless idle := by
    have idle : (i.mode args).runs = false := idle
    rw [runs] at idle
    cases idle
  unsignalled := serves.unsignalled

/-- The watcher's side: every event list it completed leads to the version it was for. -/
structure Told (s : Fed) : Prop where
  unread : s.old = none → s.sent = []
  baseline : ∀ old, s.old = some old → s.sent ≠ [] ∧ fold s.sent = old
  first : ∀ e, s.sent[0]? = some e → e.isGeneral = true
  bound : s.taken ≤ s.sent.length
  versions : ∀ n config, (n, config) ∈ s.versions →
    0 < n ∧ n ≤ s.sent.length ∧ fold (s.sent.take n) = config

/-- The supervisor's side: where the events it received are. -/
structure Tracks (args : RunArgs) (s : Fed) : Prop where
  inv : Inv s.supervisor
  fresh : ∀ g, s.supervisor.count ≤ g → s.appliedBy g = []
  vacant : s.supervisor.loop = .selecting → s.supervisor.lastInstance = none → s.taken = 0
  restarting : ∀ g config, s.supervisor.loop = .restarting g config →
    ∃ before, s.sent.take s.taken = before ++ [.general config]
  serving : ∀ g, s.supervisor.lastInstance = some g → ∃ i,
    s.supervisor.generations.lookup g = some i ∧
    Serves args (s.sent.take s.taken) (s.appliedBy g) s.supervisor.loop.inHand i

variable {s t : Fed}

theorem Tracks.converged (told : Told s) (tracks : Tracks args s) : Converged args s := by
  intro n config version taken selecting
  obtain ⟨positive, -, led⟩ := told.versions n config version
  cases last : s.supervisor.lastInstance with
  | none =>
    have zero := tracks.vacant selecting last
    omega
  | some g =>
    obtain ⟨i, found, serves⟩ := tracks.serving g last
    rw [selecting] at serves
    have converged := serves.converged
    rw [taken, led] at converged
    exact ⟨g, i, rfl, found, converged⟩

theorem Told.accept (told : Told s) {config : Config} (filled : config.Filled)
    (diff : HashOrder) : Told (s.accept diff config) := by
  have grown : ∀ events : List ConfigChange, fold (s.sent ++ events) = config →
      s.sent ++ events ≠ [] → (∀ e, (s.sent ++ events)[0]? = some e → e.isGeneral = true) →
      Told { s with
        old := some config
        sent := s.sent ++ events
        versions := s.versions ++ [((s.sent ++ events).length, config)] } := by
    intro events led occupied first
    refine ⟨(fun absent => by cases absent), ?_, first, ?_, ?_⟩
    · rintro old ⟨⟩
      exact ⟨occupied, led⟩
    · have bound := told.bound
      simp only [List.length_append]
      omega
    · intro n version member
      rcases List.mem_append.mp member with old | new
      · obtain ⟨positive, below, before⟩ := told.versions n version old
        refine ⟨positive, ?_, ?_⟩
        · simp only [List.length_append]
          omega
        · rw [List.take_append_of_le_length below, before]
      · cases List.mem_singleton.mp new
        exact ⟨List.length_pos_iff.mpr occupied, Nat.le_refl _, by rw [List.take_length, led]⟩
  unfold Fed.accept
  cases known : s.old with
  | none =>
    have empty := told.unread known
    apply grown
    · rw [empty]
      rfl
    · simp
    · rw [empty]
      rintro e ⟨⟩
      rfl
  | some old =>
    obtain ⟨occupied, led⟩ := told.baseline old known
    apply grown
    · have before : s.sent.foldl Config.apply ⟨none, none⟩ = old := led
      rw [fold, List.foldl_append, before]
      exact foldl_apply_events diff filled
    · exact List.append_ne_nil_of_left_ne_nil occupied _
    · intro e found
      rw [List.getElem?_append_left (List.length_pos_iff.mpr occupied)] at found
      exact told.first e found

theorem Tracks.accept (told : Told s) (tracks : Tracks args s) (diff : HashOrder)
    (config : Config) : Tracks args (s.accept diff config) := by
  have received : (s.accept diff config).sent.take (s.accept diff config).taken =
      s.sent.take s.taken := List.take_append_of_le_length told.bound
  refine ⟨tracks.inv, tracks.fresh, tracks.vacant, ?_, ?_⟩
  · rw [received]
    exact tracks.restarting
  · rw [received]
    exact tracks.serving

theorem supervise_cases {a : Action} (moved : s.supervise a = some t) :
    ∃ u, Supervisor.step s.supervisor a = some u ∧ t = { s with supervisor := u } := by
  obtain ⟨u, stepped, rfl⟩ := Option.map_eq_some_iff.mp moved
  exact ⟨u, stepped, rfl⟩

/-- A new instance, for the General that was received last. -/
theorem tracks_spawn {config : Config} {before : List ConfigChange}
    (inv : Inv (s.supervisor.spawnInstance config))
    (fresh : ∀ g, s.supervisor.count ≤ g → s.appliedBy g = [])
    (received : s.sent.take s.taken = before ++ [.general config]) :
    Tracks args { s with supervisor := s.supervisor.spawnInstance config } where
  inv := inv
  fresh g above := fresh g (Nat.le_of_succ_le above)
  vacant _ absent := by cases absent
  restarting g config waiting := by cases waiting
  serving g last := by
    cases last
    have unserved := fresh s.supervisor.count (Nat.le_refl _)
    refine ⟨_, Finmap.lookup_insert _, ?_⟩
    have serves : Serves args (s.sent.take s.taken) (s.appliedBy s.supervisor.count) []
        ⟨config, .spawned, .clone (.new 1), []⟩ := by
      rw [received, unserved]
      exact Serves.spawn before config _ rfl
    exact serves

/-- Without a last instance, and not at its `select!`, the supervisor owes nothing. -/
theorem tracks_idle {u : State} (inv : Inv u)
    (fresh : ∀ g, u.count ≤ g → s.appliedBy g = []) (last : u.lastInstance = none)
    (busy : u.loop ≠ .selecting)
    (restarting : ∀ g config, u.loop = .restarting g config →
      ∃ before, s.sent.take s.taken = before ++ [.general config]) :
    Tracks args { s with supervisor := u } where
  inv := inv
  fresh := fresh
  vacant selecting := absurd selecting busy
  restarting := restarting
  serving g found := by
    have found : u.lastInstance = some g := found
    rw [last] at found
    cases found

theorem received_succ {e : ConfigChange} (next : s.sent[s.taken]? = some e) :
    s.sent.take (s.taken + 1) = s.sent.take s.taken ++ [e] := by
  rw [List.take_add_one, next, Option.toList_some]

theorem signal_count (s : State) : s.signal.count = s.count := by
  unfold State.signal
  split <;> rfl

theorem Tracks.general {config : Config} (tracks : Tracks args s)
    (next : s.sent[s.taken]? = some (.general config))
    (moved : { s with taken := s.taken + 1 }.supervise (.general config) = some t) :
    Tracks args t := by
  obtain ⟨u, stepped, rfl⟩ := supervise_cases moved
  have inv := tracks.inv.step stepped
  obtain ⟨-, ⟨⟩⟩ := Option.ite_none_right_eq_some.mp stepped
  have received := received_succ next
  have fresh : ∀ g, s.supervisor.count ≤ g →
      Fed.appliedBy { s with taken := s.taken + 1 } g = [] := tracks.fresh
  cases last : s.supervisor.lastInstance with
  | none =>
    have spawns : s.supervisor.restart config = s.supervisor.spawnInstance config := by
      simp only [State.restart, last]
    simp only [spawns] at inv ⊢
    exact tracks_spawn (s := { s with taken := s.taken + 1 }) inv fresh received
  | some g =>
    have waits : s.supervisor.restart config =
        { s.supervisor.signal with loop := .restarting g config, lastInstance := none } := by
      simp only [State.restart, last]
    simp only [waits] at inv ⊢
    refine tracks_idle (s := { s with taken := s.taken + 1 }) inv ?_ rfl ?_ ?_
    · intro g above
      exact fresh g (signal_count s.supervisor ▸ above)
    · intro selecting
      cases selecting
    · rintro g' config' ⟨⟩
      exact ⟨_, received⟩

theorem Tracks.service {ev : ConfigChange} (told : Told s) (tracks : Tracks args s)
    (next : s.sent[s.taken]? = some ev)
    (moved : { s with taken := s.taken + 1 }.supervise (.serviceChange ev) = some t) :
    Tracks args t := by
  obtain ⟨u, stepped, rfl⟩ := supervise_cases moved
  have inv := tracks.inv.step stepped
  obtain ⟨⟨selecting, special⟩, same⟩ := Option.ite_none_right_eq_some.mp stepped
  have received := received_succ next
  cases last : s.supervisor.lastInstance with
  | none =>
    have zero := tracks.vacant selecting last
    rw [zero] at next
    rw [told.first ev next] at special
    cases special
  | some g =>
    simp only [last, Option.some.injEq] at same
    subst same
    refine ⟨inv, tracks.fresh, ?_, ?_, ?_⟩
    · intro selecting
      cases selecting
    · intro g config waiting
      cases waiting
    · intro g' found
      obtain rfl : g = g' := Option.some.inj found
      obtain ⟨i, held, serves⟩ := tracks.serving g last
      rw [selecting] at serves
      have later := serves.receive special
      rw [← received] at later
      exact ⟨i, held, later⟩

theorem Tracks.receive (told : Told s) (tracks : Tracks args s) (moved : s.receive = some t) :
    Tracks args t := by
  unfold Fed.receive at moved
  split at moved
  · cases moved
  · next config next => exact tracks.general next moved
  · next ev special next => exact tracks.service told next moved

/-- A step of one instance that leaves the loop where it is. -/
theorem Tracks.update {g : Nat} {f : Generation → Generation} {applied : HashMap Nat _}
    (tracks : Tracks args s) (inv : Inv (s.supervisor.update g f))
    (others : ∀ g', g' ≠ g → applied.lookup g' = s.applied.lookup g')
    (known : ∃ i, s.supervisor.generations.lookup g = some i)
    (keep : ∀ i, s.supervisor.generations.lookup g = some i → s.supervisor.lastInstance = some g →
      Serves args (s.sent.take s.taken) (s.appliedBy g) s.supervisor.loop.inHand i →
      Serves args (s.sent.take s.taken) ((applied.lookup g).getD []) s.supervisor.loop.inHand (f i)) :
    Tracks args { s with supervisor := s.supervisor.update g f, applied := applied } where
  inv := inv
  fresh g' above := by
    have other : g' ≠ g := by
      obtain ⟨i, found⟩ := known
      have below := tracks.inv.fresh g i found
      have above : s.supervisor.count ≤ g' := above
      omega
    have before := tracks.fresh g' above
    simp only [Fed.appliedBy, others g' other] at before ⊢
    exact before
  vacant := tracks.vacant
  restarting := tracks.restarting
  serving g' last := by
    obtain ⟨i, found, serves⟩ := tracks.serving g' last
    rw [lookup_update]
    by_cases here : g' = g
    · subst here
      rw [if_pos rfl, found]
      exact ⟨f i, rfl, keep i found last serves⟩
    · rw [if_neg here]
      have kept : (applied.lookup g').getD [] = s.appliedBy g' := by
        rw [Fed.appliedBy, others g' here]
      refine ⟨i, found, ?_⟩
      change Serves args _ ((applied.lookup g').getD []) s.supervisor.loop.inHand i
      rw [kept]
      exact serves

theorem Tracks.instance_ {g : Nat} {f : Generation → Generation} {ready : Generation → Bool}
    {a : Action} {u : State} (tracks : Tracks args s)
    (moved : Supervisor.step s.supervisor a = some u)
    (onInstance : s.supervisor.onInstance g ready f = some u)
    (keep : ∀ i, s.supervisor.generations.lookup g = some i → ready i = true →
      s.supervisor.lastInstance = some g →
      Serves args (s.sent.take s.taken) (s.appliedBy g) s.supervisor.loop.inHand i →
      Serves args (s.sent.take s.taken) (s.appliedBy g) s.supervisor.loop.inHand (f i)) :
    Tracks args { s with supervisor := u } := by
  have inv := tracks.inv.step moved
  obtain ⟨i, found, able, rfl⟩ := onInstance_cases onInstance
  refine tracks.update inv (fun _ _ => rfl) ⟨i, found⟩ ?_
  intro i' found' last serves
  cases found.symm.trans found'
  exact keep i found able last serves

theorem Tracks.takeUpdate {g : Nat} (tracks : Tracks args s)
    (moved : s.takeUpdate args g = some t) : Tracks args t := by
  unfold Fed.takeUpdate at moved
  split at moved
  · cases moved
  · next i found =>
    obtain ⟨runs, moved⟩ := Option.ite_none_right_eq_some.mp moved
    obtain ⟨u, stepped, rfl⟩ := supervise_cases moved
    have inv := tracks.inv.step stepped
    obtain ⟨i', found', able, rfl⟩ := onInstance_cases stepped
    refine tracks.update inv ?_ ⟨i, found⟩ ?_
    · intro g' other
      rw [lookup_insert_eq, if_neg other]
    · intro j held last serves
      cases found.symm.trans found'
      cases found.symm.trans held
      rw [lookup_insert_eq, if_pos rfl]
      exact serves.takeUpdate runs (of_decide_eq_true able).1

/-- The last instance cannot end by its shutdown: nothing was sent to it. -/
theorem Serves.recv_empty {received applied inHand : List ConfigChange} {i : Generation}
    (serves : Serves args received applied inHand i) (sound : i.Sound true)
    (running : i.task = .running) : (i.shutdown.recv ()).1 = .empty := by
  obtain ⟨c, subscribed, bounded⟩ := sound.subscribed running
  refine Broadcast.Channel.recv_empty_iff.mpr ⟨⟨c, subscribed, ?_⟩, ?_⟩
  · rw [serves.unsignalled]
    exact Nat.zero_le c
  · have senders := sound.senders
    simp only [running] at senders
    intro closed
    have closed : i.shutdown.senders = 0 := closed
    rw [senders] at closed
    cases closed

theorem Tracks.forward {u : State} (tracks : Tracks args s)
    (live : ∀ g i, s.supervisor.lastInstance = some g →
      s.supervisor.generations.lookup g = some i → i.task ≠ .finished)
    (moved : s.supervisor.forward = some u) : Tracks args { s with supervisor := u } := by
  have inv : Inv u := tracks.inv.step (a := .forward) moved
  unfold State.forward at moved
  split at moved
  · next ev g forwarding last =>
    split at moved
    · cases moved
    · next i found =>
      rw [if_neg (live g i last found)] at moved
      obtain ⟨-, ⟨⟩⟩ := Option.ite_none_right_eq_some.mp moved
      obtain ⟨i', found', serves⟩ := tracks.serving g last
      cases found.symm.trans found'
      rw [forwarding] at serves
      refine ⟨inv, tracks.fresh, ?_, ?_, ?_⟩
      · intro _ absent
        have absent : s.supervisor.lastInstance = none := absent
        rw [last] at absent
        cases absent
      · intro g' config waiting
        cases waiting
      · intro g' here
        obtain rfl : g = g' := Option.some.inj (last.symm.trans here)
        have queued : (s.supervisor.update g fun i =>
            { i with updates := i.updates ++ [ev] }).generations.lookup g =
            some { i with updates := i.updates ++ [ev] } := by
          rw [lookup_update, if_pos rfl, found]
          rfl
        exact ⟨_, queued, serves.forward (live g i last found)⟩
  · cases moved

theorem teardown_idle (s : State) : s.teardown.lastInstance = none ∧
    s.teardown.loop ≠ .selecting ∧ (∀ g config, s.teardown.loop ≠ .restarting g config) ∧
    s.teardown.count = s.count := by
  unfold State.teardown
  cases last : s.lastInstance with
  | none =>
    have kept : s.signal.lastInstance = none := by
      unfold State.signal
      split <;> exact last
    exact ⟨kept, (by intro same; cases same), (by intro g config same; cases same), signal_count s⟩
  | some g =>
    exact ⟨rfl, (by intro same; cases same), (by intro g config same; cases same), signal_count s⟩

theorem Tracks.teardown {a : Action} (tracks : Tracks args s)
    (moved : Supervisor.step s.supervisor a = some s.supervisor.teardown) :
    Tracks args { s with supervisor := s.supervisor.teardown } := by
  obtain ⟨last, busy, calm, count⟩ := teardown_idle s.supervisor
  refine tracks_idle (tracks.inv.step moved) ?_ last busy ?_
  · intro g above
    exact tracks.fresh g (count ▸ above)
  · intro g config waiting
    exact absurd waiting (calm g config)

theorem Tracks.join {u : State} (tracks : Tracks args s) (moved : s.supervisor.join = some u) :
    Tracks args { s with supervisor := u } := by
  have inv : Inv u := tracks.inv.step (a := .join) moved
  obtain ⟨g, config, restarting, -, rfl⟩ | ⟨g, stopping, -, rfl⟩ := join_cases moved
  · obtain ⟨before, received⟩ := tracks.restarting g config restarting
    exact tracks_spawn inv tracks.fresh received
  · have last := tracks.inv.idle g (by rw [State.awaited, stopping])
    refine tracks_idle inv tracks.fresh last ?_ ?_
    · intro same
      cases same
    · intro g' config waiting
      cases waiting

/-- A step of the supervisor that neither channel feeds. -/
theorem Tracks.own {Text : Type} {a : Action} (tracks : Tracks args s) (own : a.own = true)
    (keeps : KeepsServing s (.supervisor a : FedAction Text)) (moved : s.supervise a = some t) :
    Tracks args t := by
  obtain ⟨u, stepped, rfl⟩ := supervise_cases moved
  cases a with
  | general config => cases own
  | serviceChange ev => cases own
  | takeUpdate g => cases own
  | eventsClosed =>
    obtain ⟨-, ⟨⟩⟩ := Option.ite_none_right_eq_some.mp stepped
    exact tracks.teardown stepped
  | processShutdown =>
    obtain ⟨-, ⟨⟩⟩ := Option.ite_none_right_eq_some.mp stepped
    exact tracks.teardown stepped
  | forward => exact tracks.forward keeps stepped
  | join => exact tracks.join stepped
  | poll g => exact tracks.instance_ stepped stepped fun i _ _ _ serves => serves.poll
  | receiveShutdown g =>
    refine tracks.instance_ stepped stepped fun i found able last serves => ?_
    obtain ⟨running, ready⟩ := of_decide_eq_true able
    have sound := tracks.inv.sound g i found
    rw [tracks.inv.owner, last] at sound
    exact absurd (serves.recv_empty (by simpa using sound) running) ready
  | exit g =>
    refine tracks.instance_ stepped stepped fun i found able last serves => ?_
    obtain ⟨drained, unserved⟩ := keeps i last found
    exact serves.finish drained unserved

theorem Told.keep (told : Told s) (old : t.old = s.old) (sent : t.sent = s.sent)
    (versions : t.versions = s.versions) (bound : t.taken ≤ s.sent.length) : Told t where
  unread := by
    rw [old, sent]
    exact told.unread
  baseline := by
    rw [old, sent]
    exact told.baseline
  first := by
    rw [sent]
    exact told.first
  bound := by
    rw [sent]
    exact bound
  versions := by
    rw [sent, versions]
    exact told.versions

theorem Told.supervise {a : Action} (told : Told s) (moved : s.supervise a = some t) : Told t := by
  obtain ⟨u, -, rfl⟩ := supervise_cases moved
  exact told.keep rfl rfl rfl told.bound

theorem Told.receive (told : Told s) (moved : s.receive = some t) : Told t := by
  have counted : ∀ e, s.sent[s.taken]? = some e → Told { s with taken := s.taken + 1 } := by
    intro e next
    exact told.keep rfl rfl rfl (List.getElem?_eq_some_iff.mp next).1
  unfold Fed.receive at moved
  split at moved
  · cases moved
  · next config next => exact (counted _ next).supervise moved
  · next ev special next => exact (counted _ next).supervise moved

theorem Told.takeUpdate {g : Nat} (told : Told s) (moved : s.takeUpdate args g = some t) :
    Told t := by
  unfold Fed.takeUpdate at moved
  split at moved
  · cases moved
  · next i found =>
    obtain ⟨-, moved⟩ := Option.ite_none_right_eq_some.mp moved
    have kept : ∀ applied, Told { s with applied := applied } :=
      fun applied => told.keep rfl rfl rfl told.bound
    exact (kept _).supervise moved

variable {Text : Type} {tomlFromStr : Text → Except String Config}

theorem tracks_step {a : FedAction Text} (told : Told s) (tracks : Tracks args s)
    (keeps : KeepsServing s a) (moved : (fed tomlFromStr args).step s a = some t) :
    Told t ∧ Tracks args t := by
  cases a with
  | accept text read diff =>
    simp only [fed, Fed.step] at moved
    split at moved
    · cases moved
    · next config accepted =>
      cases moved
      exact ⟨told.accept (Config.filled_of_fromStr accepted) diff, tracks.accept told diff config⟩
  | receive => exact ⟨told.receive moved, tracks.receive told moved⟩
  | takeUpdate g => exact ⟨told.takeUpdate moved, tracks.takeUpdate moved⟩
  | supervisor a =>
    obtain ⟨own, moved⟩ := Option.ite_none_right_eq_some.mp moved
    exact ⟨told.supervise moved, tracks.own own keeps moved⟩

theorem told_start : Told .start where
  unread _ := rfl
  baseline old known := by cases known
  first e found := by cases found
  bound := Nat.le_refl 0
  versions n config member := by cases member

theorem tracks_start : Tracks args .start where
  inv := .start
  fresh _ _ := rfl
  vacant _ _ := rfl
  restarting g config waiting := by cases waiting
  serving g last := by cases last

/-- In runs that hand service changes only to live instances, none of which ends after it
was handed one, the supervisor converges to every accepted version. -/
theorem converged_of_keeps_serving (reached : (fed tomlFromStr args).Reach KeepsServing s) :
    Converged args s := by
  have both : Told s ∧ Tracks args s := by
    refine reached.invariant ?_ fun s a t keeps moved both =>
      tracks_step both.1 both.2 keeps moved
    rintro s rfl
    exact ⟨told_start, tracks_start⟩
  exact both.2.converged both.1

end Serving

/-- The flags of a plain `run`. -/
def noFlags : RunArgs := ⟨false, false⟩

theorem webConfig_changes (order : HashOrder) :
    calculateEvents order (webConfig "old") (webConfig "new") =
      some [.serverChange (.add (Server.webService "new"))] := by
  have differs : webConfig "old" ≠ webConfig "new" := by decide +kernel
  have alike : (webConfig "old").withoutServices = (webConfig "new").withoutServices := rfl
  rw [calculateEvents_eq, if_neg differs, if_pos alike]
  simp only [webConfig, Server.webServer, Server.State.start, sectionChanges, changes, deletions,
    additions, HashOrder.keys, InstanceConfig.getServices, order.entries_single]
  decide +kernel

theorem accept_old : (fed .ok noFlags).step .start
    (.accept (webConfig "old") HashOrder.some HashOrder.some) =
      some { Fed.start with
        old := some (webConfig "old")
        sent := [.general (webConfig "old")]
        versions := [(1, webConfig "old")] } := by
  simp only [fed, Fed.step, (webConfig_accepted HashOrder.some).1]
  rfl

theorem accept_new {s : Fed} (known : s.old = some (webConfig "old")) :
    (fed .ok noFlags).step s (.accept (webConfig "new") HashOrder.some HashOrder.some) =
      some { s with
        old := some (webConfig "new")
        sent := s.sent ++ [.serverChange (.add (Server.webService "new"))]
        versions := s.versions ++ [(s.sent.length + 1, webConfig "new")] } := by
  simp only [fed, Fed.step, (webConfig_accepted HashOrder.some).2, Fed.accept, known,
    webConfig_changes, Option.getD_some, List.length_append, List.length_singleton]

/-- A token changed while the instance runs. -/
theorem converged_token_changed : ∃ s, (fed .ok noFlags).Reach KeepsServing s ∧
    s.versions = [(1, webConfig "old"), (2, webConfig "new")] ∧ s.taken = 2 ∧
    s.supervisor.loop = .selecting ∧ Converged noFlags s := by
  have started : (fed .ok noFlags).Reach KeepsServing .start := .start rfl
  have accepted := started.next (by exact trivial) accept_old
  have received := accepted.next (a := .receive) (by exact trivial) rfl
  have running := received.next (a := .supervisor (.poll 0)) (by exact trivial) rfl
  have changed := running.next (by exact trivial) (accept_new rfl)
  have taken := changed.next (a := .receive) (by exact trivial) rfl
  have forwarded := taken.next (a := .supervisor .forward) (by
    intro g i last found
    cases last
    cases found
    decide) rfl
  have applied := forwarded.next (a := .takeUpdate 0) (by exact trivial) rfl
  exact ⟨_, applied, rfl, rfl, rfl, converged_of_keeps_serving applied⟩

/-- The instance exits, for example on a failed bind; the change of the token that comes
next is sent to nobody. -/
theorem change_dropped_after_exit :
    ¬ ∀ (Text : Type) (tomlFromStr : Text → Except String Config) (args : RunArgs) (s : Fed),
      (fed tomlFromStr args).Reachable s → Converged args s := by
  intro converges
  have started : (fed .ok noFlags).Reachable .start := .start rfl
  have accepted := started.next trivial accept_old
  have received := accepted.next (a := .receive) trivial rfl
  have running := received.next (a := .supervisor (.poll 0)) trivial rfl
  have exited := running.next (a := .supervisor (.exit 0)) trivial rfl
  have changed := exited.next trivial (accept_new rfl)
  have taken := changed.next (a := .receive) trivial rfl
  have dropped := taken.next (a := .supervisor .forward) trivial rfl
  obtain ⟨g, i, last, found, -, ended⟩ := converges Config .ok noFlags _ dropped 2
    (webConfig "new") (List.mem_cons_of_mem _ (List.mem_singleton_self _)) rfl rfl
  cases last
  cases found
  have same := ended rfl
  have differs : webConfig "old" ≠ webConfig "new" := by decide +kernel
  exact differs same

end Rathole.Supervisor
