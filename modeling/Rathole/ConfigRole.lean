import Rathole.ConfigFormed
import Rathole.ConfigLoadable
import Rathole.ConfigResolved
import Rathole.SupervisorConverges

set_option autoImplicit false

/- The role of a configuration file over any sequence of commands. -/
namespace Rathole.ConfigEdit

open Toml (Item Entries TableKind Table Value)
open Transition.System (Run Free)

def ServiceSide.other : ServiceSide → ServiceSide
  | client => .server
  | server => .client

/-- The mode of a process without flags. -/
def ServiceSide.mode : ServiceSide → Supervisor.RunMode
  | client => .client
  | server => .server

/-- The commands that write a configuration. -/
inductive Edit (Text : Type)
  | command (c : Command Text)
  | addInteractive (rounds : List Round) (fresh : Nat → String)

section Role

variable {Text : Type} (env : Env Text)

/-- The file after a command that succeeds. -/
def edit (file : Option Text) : Edit Text → Option (Option Text)
  | .command c =>
    match run env file c with
    | .ok text => some (some text)
    | .error _ => none
  | .addInteractive rounds fresh =>
    match runAddInteractive env rounds fresh file with
    | .ok (some text, _) => some (some text)
    | .ok (none, _) => some file
    | .error _ => none

/-- A missing file, an empty one, or one of a single role. -/
def Starts (file : Option Text) : Prop :=
  file = none ∨ ∃ text, file = some text ∧ (env.crate.read text = .ok [] ∨
    ∃ config, load env text = .ok config ∧ ¬ (config.client.isSome ∧ config.server.isSome))

def files : Transition.System (Option Text) (Edit Text) where
  init := Starts env
  step := edit env

/-- The section of the side is in the file. -/
def Declares (file : Option Text) (side : ServiceSide) : Prop :=
  ∃ text t, file = some text ∧ env.crate.read text = .ok t ∧ (t.lookup side.key).isSome

/-- The table has the section of the side, and not the other one. A section that is a table has its
address. -/
structure Pinned (side : ServiceSide) (t : Table) : Prop where
  own : ∃ v, t.lookup side.key = some v ∧ ∀ inner, v = .table inner →
    ∃ a, inner.lookup side.sectionAddrKey = some (.string a)
  other : t.lookup side.other.key = none

/-- The file has no section yet, or the one of a side. -/
inductive Sound (file : Option Text) : Prop
  | missing (none : file = none)
  | empty (text : Text) (there : file = some text) (read : env.crate.read text = .ok [])
  | pinned (side : ServiceSide) (text : Text) (t : Table) (there : file = some text)
      (read : env.crate.read text = .ok t) (pinned : Pinned side t)

variable {env} {file : Option Text} {text : Text} {before doc after : Entries}
  {side : ServiceSide} {t : Table}

theorem ServiceSide.other_other (side : ServiceSide) : side.other.other = side := by
  cases side <;> rfl

theorem ServiceSide.other_ne (side : ServiceSide) : side.other ≠ side := by
  cases side <;> decide

theorem ServiceSide.eq_or_other (side s : ServiceSide) : s = side ∨ s = side.other := by
  cases side <;> cases s <;> simp [ServiceSide.other]

/-- A section that is accepted has its address. -/
theorem addr_of_loads {inner : Table} (loads : SectionLoads env side (.table inner)) :
    ∃ a, inner.lookup side.sectionAddrKey = some (.string a) := by
  have text : ∀ {u : Table} {key : String} {a : String},
      Schema.required u key Schema.string = some a → u.lookup key = some (.string a) := by
    intro u key a found
    obtain ⟨w, held, same⟩ := Option.bind_eq_some_iff.mp found
    cases w with
    | string s =>
      cases same
      exact held
    | _ => cases same
  cases side with
  | client =>
    obtain ⟨client, read, -⟩ := loads
    exact ⟨_, text ((Schema.client_iff client).mp read).remoteAddr⟩
  | server =>
    obtain ⟨server, read, -⟩ := loads
    exact ⟨_, text ((Schema.server_iff server).mp read).bindAddr⟩

theorem pinned_of_loads (loads : TableLoads env t) (held : (t.lookup side.key).isSome)
    (other : t.lookup side.other.key = none) : Pinned side t := by
  obtain ⟨v, found⟩ := Option.isSome_iff_exists.mp held
  refine ⟨⟨v, found, fun inner same => ?_⟩, other⟩
  subst same
  exact addr_of_loads (loads.sections side _ found)

/-- No section but the one of `side` is new in `after`. -/
structure Adds (side : Option ServiceSide) (before after : Entries) : Prop where
  formed : Formed .header before → Formed .header after
  keys : ∀ s : ServiceSide, (after.lookup s.key).isSome →
    (before.lookup s.key).isSome ∨ side = some s

theorem Edits.adds (edits : Edits side before after) (new : Option ServiceSide) :
    Adds new before after := by
  refine ⟨edits.formed, fun s present => Or.inl ?_⟩
  by_cases same : s = side
  · rw [same]
    exact edits.held
  · rwa [edits.others _ (key_ne_of_ne same)] at present

theorem Opens.adds (opens : Opens side before after) : Adds (some side) before after := by
  refine ⟨opens.formed, fun s present => ?_⟩
  by_cases same : s = side
  · exact Or.inr (congrArg some same.symm)
  · rw [opens.others _ (key_ne_of_ne same)] at present
    exact Or.inl present

theorem Adds.refl (new : Option ServiceSide) (doc : Entries) : Adds new doc doc :=
  ⟨id, fun _ present => Or.inl present⟩

theorem Adds.trans {new : Option ServiceSide} {start middle last : Entries}
    (first : Adds new start middle) (second : Adds new middle last) : Adds new start last := by
  refine ⟨fun formed => second.formed (first.formed formed), fun s present => ?_⟩
  rcases second.keys s present with held | same
  · exact first.keys s held
  · exact Or.inr same

theorem adds_insertAll {new : Option ServiceSide} {pending : List PendingService}
    {results : List Added} (formed : ∀ p ∈ pending, p.entry.wellFormed = true)
    (ran : insertAll before pending = .ok (after, results)) : Adds new before after := by
  induction pending generalizing before results with
  | nil =>
    cases ran
    exact .refl new _
  | cons p rest ih =>
    obtain ⟨⟨next, added⟩, first, ran⟩ := bind_ok ran
    obtain ⟨⟨last, others⟩, later, ran⟩ := bind_ok ran
    cases ran
    have edits := edits_insertPending (formed p List.mem_cons_self) first
    exact (edits.adds new).trans (ih (fun p member => formed p (.tail _ member)) later)

/-- The command saves a document that it has made of the one it found, with a new section at
most for a side that the role check allows. -/
structure Makes (env : Env Text) (file : Option Text) (text : Text) (before doc : Entries)
    (new : Option ServiceSide) : Prop where
  loaded : loadDocument env file = .ok before
  allowed : ∀ s, new = some s → ensureRoleAllows before s = .ok ()
  adds : Adds new before doc
  valid : validate env (env.crate.print doc) = .ok ()
  text : text = render env doc file.isNone

theorem makes_of_save {new : Option ServiceSide} (loaded : loadDocument env file = .ok before)
    (allowed : ∀ s, new = some s → ensureRoleAllows before s = .ok ()) (adds : Adds new before doc)
    (ran : saveWithSkeleton env doc file.isNone = .ok text) : Makes env file text before doc new := by
  obtain ⟨passed, valid, ran⟩ := bind_ok ran
  exact ⟨loaded, allowed, adds, valid, (Except.ok.inj ran).symm⟩

theorem makes_of_runSet {args : SetArgs} {keypair : Except String (String × String)}
    {out : Text × SetResult} (ran : runSet env args keypair file = .ok out) :
    ∃ before doc new, Makes env file out.1 before doc new := by
  obtain ⟨side, -, ran⟩ := bind_ok ran
  obtain ⟨-, -, ran⟩ := bind_ok ran
  obtain ⟨-, -, ran⟩ := bind_ok ran
  obtain ⟨-, -, ran⟩ := bind_ok ran
  obtain ⟨before, loaded, ran⟩ := bind_ok ran
  obtain ⟨⟨⟩, allowed, ran⟩ := bind_ok ran
  obtain ⟨created, opened, ran⟩ := bind_ok ran
  obtain ⟨⟨kind, entries⟩, found, ran⟩ := bind_ok ran
  obtain ⟨fields, set, ran⟩ := bind_ok ran
  obtain ⟨transported, transport, ran⟩ := bind_ok ran
  obtain ⟨passed, valid, ran⟩ := bind_ok ran
  have edits : Edits side created (Toml.insertKey created side.key (.table kind transported)) := by
    apply edits_insertKey (sectionOf_ok found)
    intro formed
    apply formed_setNested _ (formed_setFields formed set) transport
    intro inner table after inside made
    exact formed_setTransport inside made
  refine ⟨before, _, some side, loaded, fun s same => ?_, (opens_createSection opened).adds.trans
    (edits.adds _), withContext_ok valid, ?_⟩
  · cases same
    exact allowed
  · rw [← Except.ok.inj ran]

theorem makes_of_runAddSingle {args : AddArgs} {answers : Option Answers} {fresh : String}
    {keypair : Except String (String × String)} {out : Text × Added × NoisePlan}
    (ran : runAddSingle env args answers fresh keypair file = .ok out) :
    ∃ before doc new, Makes env file out.1 before doc new := by
  obtain ⟨side, -, ran⟩ := bind_ok ran
  obtain ⟨-, -, ran⟩ := bind_ok ran
  obtain ⟨addr, -, ran⟩ := bind_ok ran
  obtain ⟨noiseKey, -, ran⟩ := bind_ok ran
  obtain ⟨-, -, ran⟩ := bind_ok ran
  obtain ⟨-, -, ran⟩ := bind_ok ran
  obtain ⟨prompted, -, ran⟩ := bind_ok ran
  obtain ⟨plan, planned, ran⟩ := bind_ok ran
  obtain ⟨before, loaded, ran⟩ := bind_ok ran
  obtain ⟨⟨⟩, allowed, ran⟩ := bind_ok ran
  obtain ⟨-, -, ran⟩ := bind_ok ran
  obtain ⟨prepared, opened, ran⟩ := bind_ok ran
  obtain ⟨noisy, noise, ran⟩ := bind_ok ran
  obtain ⟨⟨after, added⟩, inserted, ran⟩ := bind_ok ran
  obtain ⟨text, saved, ran⟩ := bind_ok ran
  rw [← Except.ok.inj ran]
  obtain ⟨server, client⟩ := planned_of_noisePlan planned
  have entry : Entries.wellFormed ((if args.serviceType = .udp then [("type", .string "udp")]
      else []) ++ [(side.serviceAddrKey, .string (addr.getD "")),
        ("token", .string ((args.token.or prompted).getD fresh))]) = true := by
    split <;> cases side <;> rfl
  have edits := edits_insertPending entry inserted
  have opens := ((opens_prepareSection opened).trans
    (opens_applyNoiseTransport server client noise)).trans edits.opens
  refine ⟨before, after, some side, makes_of_save loaded (fun s same => ?_) opens.adds saved⟩
  cases same
  exact allowed

theorem checkIf_ok {c : Bool} {check : Except String Unit} (ran : checkIf c check = .ok ())
    (holds : c = true) : check = .ok () := by
  unfold checkIf at ran
  rwa [if_pos holds] at ran

theorem adds_withServerSection {pending : List PendingService}
    (allowed : (pending.any fun p => p.side = .server) = true →
      (before.lookup "server").isNone = true → ensureRoleAllows before .server = .ok ()) :
    ∃ new, (∀ s, new = some s → ensureRoleAllows before s = .ok ()) ∧
      Adds new before (withServerSection before pending) := by
  unfold withServerSection
  split
  · next server =>
    refine ⟨some .server, ?_, (opens_insertKey .server formed_serverSection).adds⟩
    intro s same
    cases same
    exact allowed server.1 server.2
  · refine ⟨none, ?_, Adds.refl none before⟩
    intro s same
    cases same

theorem formed_specsToPending {fresh : Nat → String} {i : Nat} {specs : List String}
    {pending : List PendingService} (made : specsToPending fresh side i specs = .ok pending) :
    ∀ p ∈ pending, p.entry.wellFormed = true := by
  induction specs generalizing i pending with
  | nil =>
    cases made
    intro p member
    cases member
  | cons spec rest ih =>
    obtain ⟨parsed, -, made⟩ := bind_ok made
    obtain ⟨others, later, made⟩ := bind_ok made
    cases made
    intro p member
    rcases List.mem_cons.mp member with rfl | member
    · exact formed_specToPending parsed side (fresh i)
    · exact ih later p member

theorem makes_of_runAddBatch {clientSpecs serverSpecs : List String} {fresh : Nat → String}
    {out : Text × List Added} (ran : runAddBatch env clientSpecs serverSpecs fresh file = .ok out) :
    ∃ before doc new, Makes env file out.1 before doc new := by
  obtain ⟨clients, clientsMade, ran⟩ := bind_ok ran
  obtain ⟨servers, serversMade, ran⟩ := bind_ok ran
  obtain ⟨-, -, ran⟩ := bind_ok ran
  obtain ⟨-, -, ran⟩ := bind_ok ran
  obtain ⟨⟨⟩, checked, ran⟩ := bind_ok ran
  obtain ⟨before, loaded, ran⟩ := bind_ok ran
  obtain ⟨-, -, ran⟩ := bind_ok ran
  obtain ⟨⟨after, results⟩, inserted, ran⟩ := bind_ok ran
  obtain ⟨text, saved, ran⟩ := bind_ok ran
  rw [← Except.ok.inj ran]
  rw [loaded] at checked
  obtain ⟨new, allowed, adds⟩ := adds_withServerSection (fun server _ => checkIf_ok checked server)
  have formed : ∀ p ∈ clients ++ servers, p.entry.wellFormed = true := by
    intro p member
    rcases List.mem_append.mp member with client | server
    · exact formed_specsToPending clientsMade p client
    · exact formed_specsToPending serversMade p server
  exact ⟨before, after, new, makes_of_save loaded allowed
    (adds.trans (adds_insertAll formed inserted)) saved⟩

theorem makes_of_runImport {source : String} {old : Except String Text}
    {out : Text × ServiceSide × Imported} (ran : runImport env source old file = .ok out) :
    ∃ before doc new, Makes env file out.1 before doc new := by
  obtain ⟨text, -, ran⟩ := bind_ok ran
  obtain ⟨src, -, ran⟩ := bind_ok ran
  obtain ⟨role, -, ran⟩ := bind_ok ran
  obtain ⟨⟨kind, srcSection⟩, -, ran⟩ := bind_ok ran
  obtain ⟨before, loaded, ran⟩ := bind_ok ran
  obtain ⟨⟨⟩, allowed, ran⟩ := bind_ok ran
  obtain ⟨-, -, ran⟩ := bind_ok ran
  obtain ⟨⟨target, entries⟩, found, ran⟩ := bind_ok ran
  obtain ⟨⟨section_, report⟩, imported, ran⟩ := bind_ok ran
  obtain ⟨text, saved, ran⟩ := bind_ok ran
  rw [← Except.ok.inj ran]
  have edits : Edits role.side (withImportSection before role.side)
      (Toml.insertKey (withImportSection before role.side) role.side.key
        (.table target section_)) := by
    apply edits_insertKey (sectionOf_ok found)
    intro formed
    exact formed_importSection formed imported
  have opens := (opens_withImportSection before role.side).trans edits.opens
  refine ⟨before, _, some role.side, makes_of_save loaded (fun s same => ?_) opens.adds saved⟩
  cases same
  exact withContext_ok allowed

/-- With a section in the file, the dialog asks for no side. -/
theorem formed_queueRounds {pinned : Option ServiceSide} {fresh : Nat → String}
    {rounds : List Round} {i : Nat} {pending queued : List PendingService}
    (formed : ∀ p ∈ pending, p.entry.wellFormed = true ∧ ∀ s, pinned = some s → p.side = s)
    (ran : queueRounds env before pinned fresh i pending rounds = .ok queued) :
    ∀ p ∈ queued, p.entry.wellFormed = true ∧ ∀ s, pinned = some s → p.side = s := by
  induction rounds generalizing i pending with
  | nil => cases ran
  | cons r rest ih =>
    obtain ⟨name, -, ran⟩ := bind_ok ran
    dsimp only at ran
    split at ran
    · rw [← Except.ok.inj ran]
      exact formed
    · obtain ⟨side, sided, ran⟩ := bind_ok ran
      split at ran
      · exact ih formed ran
      · split at ran
        · exact ih formed ran
        · obtain ⟨p, made, ran⟩ := bind_ok ran
          apply ih _ ran
          intro q member
          rcases List.mem_append.mp member with early | last
          · exact formed q early
          · rw [List.mem_singleton.mp last]
            obtain ⟨entry, same⟩ := formed_roundPending made
            refine ⟨entry, ?_⟩
            intro s pinnedTo
            rw [same]
            subst pinnedTo
            exact (Except.ok.inj sided).symm

/-- Without a section, either role is allowed. -/
theorem ensureRoleAllows_of_none (client : before.lookup "client" = none)
    (server : before.lookup "server" = none) : ensureRoleAllows before side = .ok () := by
  unfold ensureRoleAllows
  rw [client, server]
  rfl

theorem makes_of_runAddInteractive {rounds : List Round} {fresh : Nat → String}
    {added : List Added} (ran : runAddInteractive env rounds fresh file = .ok (some text, added)) :
    ∃ before doc new, Makes env file text before doc new := by
  obtain ⟨before, loaded, ran⟩ := bind_ok ran
  obtain ⟨pinned, found, ran⟩ := bind_ok ran
  obtain ⟨-, -, ran⟩ := bind_ok ran
  obtain ⟨pending, queued, ran⟩ := bind_ok ran
  split at ran
  · cases ran
  · obtain ⟨⟨after, results⟩, inserted, ran⟩ := bind_ok ran
    obtain ⟨saved, save, ran⟩ := bind_ok ran
    cases ran
    have formed := formed_queueRounds (fun p member => by cases member) queued
    have allowed : (pending.any fun p => p.side = .server) = true →
        (before.lookup "server").isNone = true → ensureRoleAllows before .server = .ok () := by
      intro server absent
      obtain ⟨p, member, side⟩ := List.any_eq_true.mp server
      rw [decide_eq_true_eq] at side
      have only := (formed p member).2
      rw [side] at only
      have none := Option.isNone_iff_eq_none.mp absent
      cases client : before.lookup "client" with
      | none => exact ensureRoleAllows_of_none client none
      | some section_ =>
        simp only [pinnedSide, client, none] at found
        cases found
        cases only .client rfl
    obtain ⟨new, checked, adds⟩ := adds_withServerSection allowed
    exact ⟨before, after, new, makes_of_save loaded checked
      (adds.trans (adds_insertAll (fun p member => (formed p member).1) inserted)) save⟩

theorem sections_of_validateSections {order : HashOrder} {parsed config : Config}
    (checked : Config.validateSections order parsed = .ok config) :
    config.server.isNone = parsed.server.isNone ∧ config.client.isNone = parsed.client.isNone := by
  obtain ⟨server, client, -⟩ := Config.validateSections_iff.mp checked
  exact ⟨Config.mapM_isNone server, Config.mapM_isNone client⟩

/-- The loader sees the sections that the file has. -/
theorem sections_of_load {config : Config} (loaded : load env text = .ok config) :
    ∃ t, env.crate.read text = .ok t ∧ TableLoads env t ∧
      config.server.isSome = (t.lookup "server").isSome ∧
      config.client.isSome = (t.lookup "client").isSome := by
  obtain ⟨t, parsed, read, found, accepted⟩ := load_iff.mp loaded
  obtain ⟨-, serverRead, clientRead⟩ := (Schema.config_iff parsed).mp found
  obtain ⟨server, client⟩ := sections_of_validateSections accepted
  refine ⟨t, read, (tableLoads_iff t).mpr ⟨parsed, found, config, accepted⟩, ?_⟩
  rw [optional_isSome serverRead, optional_isSome clientRead]
  simp only [← Option.not_isNone, server, client, and_self]

theorem sound_of_starts (starts : Starts env file) : Sound env file := by
  rcases starts with missing | ⟨text, there, empty | ⟨config, loaded, single⟩⟩
  · exact .missing missing
  · exact .empty text there empty
  · obtain ⟨t, read, loads, server, client⟩ := sections_of_load loaded
    obtain ⟨side, held⟩ := loads.role
    apply Sound.pinned side text t there read
    apply pinned_of_loads loads held
    rw [server, client] at single
    rw [← Option.not_isSome_iff_eq_none]
    intro other
    cases side with
    | client => exact single ⟨held, other⟩
    | server => exact single ⟨other, held⟩

theorem Pinned.declares (pinned : Pinned side t) : (t.lookup side.key).isSome := by
  obtain ⟨v, held, -⟩ := pinned.own
  rw [held]
  rfl

theorem Pinned.only (pinned : Pinned side t) {s : ServiceSide} (held : (t.lookup s.key).isSome) :
    s = side := by
  rcases ServiceSide.eq_or_other side s with same | other
  · exact same
  · rw [other, pinned.other] at held
    cases held

theorem lookup_doc_isSome (formed : doc.wellFormed = true) (same : Table.Same t doc.written)
    (key : String) : (t.lookup key).isSome = (doc.lookup key).isSome :=
  (same key).isSome.trans (Entries.lookup_written_isSome formed key)

theorem formed_of_loadDocument (lawful : env.crate.Lawful)
    (loaded : loadDocument env file = .ok doc) : doc.wellFormed = true := by
  cases file with
  | none =>
    cases loaded
    rfl
  | some text => exact lawful.wellFormed (withContext_ok loaded)

/-- The document has the sections that the file has. -/
theorem declares_iff_lookup (lawful : env.crate.Lawful) (sound : Sound env file)
    (loaded : loadDocument env file = .ok doc) (s : ServiceSide) :
    (doc.lookup s.key).isSome ↔ Declares env file s := by
  have formed := formed_of_loadDocument lawful loaded
  have seen : ∀ {text : Text} {t : Table}, file = some text → env.crate.read text = .ok t →
      ((doc.lookup s.key).isSome ↔ Declares env file s) := by
    rintro text t rfl read
    have same := lawful.read (withContext_ok loaded) read
    rw [← Entries.lookup_written_isSome formed, ← same]
    constructor
    · intro held
      exact ⟨text, t, rfl, read, held⟩
    · rintro ⟨text', t', there, read', held⟩
      cases there
      cases read.symm.trans read'
      exact held
  cases sound with
  | missing none =>
    subst none
    cases loaded
    apply iff_of_false
    · rintro ⟨⟩
    · rintro ⟨text, t, there, -⟩
      cases there
  | empty text there read => exact seen there read
  | pinned side text t there read pinned => exact seen there read

theorem Sound.one (sound : Sound env file) {s s' : ServiceSide} (first : Declares env file s)
    (second : Declares env file s') : s = s' := by
  obtain ⟨text, t, there, read, held⟩ := first
  obtain ⟨text', t', there', read', held'⟩ := second
  cases there.symm.trans there'
  cases read.symm.trans read'
  cases sound with
  | missing none => cases none.symm.trans there
  | empty text' there' empty =>
    cases there.symm.trans there'
    cases read.symm.trans empty
    cases held
  | pinned side text' t' there' read' pinned =>
    cases there.symm.trans there'
    cases read.symm.trans read'
    rw [pinned.only held, pinned.only held']

/-- The role check leaves no room for the section of the other side. -/
theorem other_of_ensureRoleAllows (allowed : ensureRoleAllows doc side = .ok ()) :
    doc.lookup side.other.key = none := by
  unfold ensureRoleAllows at allowed
  split at allowed
  · next none =>
    cases side
    · exact Option.isNone_iff_eq_none.mp none.2
    · exact Option.isNone_iff_eq_none.mp none.1
  · obtain ⟨role, detected, allowed⟩ := bind_ok allowed
    unfold detectRole at detected
    cases client : doc.lookup "client" <;> cases server : doc.lookup "server" <;>
      simp only [client, server] at detected <;> cases detected <;> cases side <;>
      first | exact client | exact server | cases allowed

/-- The text has the section of one side, and no section of the file is lost. -/
def Keeps (env : Env Text) (file : Option Text) (text : Text) : Prop :=
  ∃ side t, env.crate.read text = .ok t ∧ Pinned side t ∧ ∀ s, Declares env file s → s = side

/-- For a literal: the kernel compares it with its characters faster than it finds them. -/
theorem isComment_ofList {rest : List Char}
    (printed : (rest.all fun c => decide (' ' ≤ c ∧ c ≠ '\x7f')) = true) :
    Toml.isComment (String.ofList ('#' :: rest)) = true := by
  unfold Toml.isComment
  rw [String.toList_ofList]
  exact printed

theorem isComment_configSkeleton : ∀ line ∈ configSkeleton, Toml.isComment line = true := by
  simp only [configSkeleton, List.forall_mem_cons]
  and_intros
  all_goals first
    | exact List.forall_mem_nil _
    | exact isComment_ofList (by decide +kernel)

theorem read_render (prints : env.crate.Prints) (created : Bool)
    (readable : env.crate.read (env.crate.print doc) = .ok t) :
    env.crate.read (render env doc created) = .ok t := by
  unfold render
  split
  · exact prints.comments isComment_configSkeleton readable
  · exact readable

theorem keeps_of_makes {new : Option ServiceSide} (lawful : env.crate.Lawful)
    (prints : env.crate.Prints) (sound : Sound env file)
    (makes : Makes env file text before doc new) : Keeps env file text := by
  have formed := formed_document.mp
    (makes.adds.formed (formed_document.mpr (formed_of_loadDocument lawful makes.loaded)))
  have held := declares_iff_lookup lawful sound makes.loaded
  obtain ⟨config, loaded, -⟩ := map_ok makes.valid
  obtain ⟨t, read, loads, -⟩ := sections_of_load loaded
  have present := lookup_doc_isSome formed (prints.printed formed read)
  have closed : ∀ s, new = some s → ¬ Declares env file s.other := by
    intro s same
    rw [← held, other_of_ensureRoleAllows (makes.allowed s same)]
    intro absurd
    cases absurd
  obtain ⟨side, own⟩ := loads.role
  have only : ∀ s, Declares env file s → s = side := by
    intro s there
    rcases makes.adds.keys side ((present _).symm.trans own) with kept | added
    · exact sound.one there ((held side).mp kept)
    · rcases ServiceSide.eq_or_other side s with same | other
      · exact same
      · rw [other] at there
        exact absurd there (closed side added)
  refine ⟨side, t, ?_, pinned_of_loads loads own ?_, only⟩
  · rw [makes.text]
    exact read_render prints _ read
  · rw [← Option.not_isSome_iff_eq_none, present]
    intro other
    rcases makes.adds.keys side.other other with kept | added
    · exact ServiceSide.other_ne side (only _ ((held _).mp kept))
    · rcases makes.adds.keys side ((present _).symm.trans own) with kept | added'
      · apply closed _ added
        rw [ServiceSide.other_other]
        exact (held side).mp kept
      · exact ServiceSide.other_ne side (Option.some.inj (added.symm.trans added'))

theorem sectionAddrKey_ne_services (side : ServiceSide) : side.sectionAddrKey ≠ "services" := by
  cases side <;> decide

theorem pinned_removeAt {name : String} {kind inner : TableKind} {section_ services : Entries}
    (formed : doc.wellFormed = true) (held : doc.lookup side.key = some (.table kind section_))
    (listed : section_.lookup "services" = some (.table inner services))
    (pinned : Pinned side doc.written) :
    Pinned side (doc.removeAt name [side.key, "services"]).written := by
  obtain ⟨v, own, address⟩ := pinned.own
  rw [Entries.lookup_written_table formed held] at own
  cases own
  obtain ⟨a, address⟩ := address _ rfl
  obtain ⟨left, same⟩ : ∃ left, left = Toml.insertKey section_ "services"
    (.table inner (Toml.removeKey services name)) := ⟨_, rfl⟩
  have edited : doc.removeAt name [side.key, "services"] =
      Toml.insertKey doc side.key (.table kind left) := by
    simp only [Entries.removeAt, held, listed, same]
  have keys := Toml.mem_keys_of_lookup held
  have kept : (Entries.written left).lookup side.sectionAddrKey = some (.string a) := by
    rw [same, Entries.lookup_written_insertKey (Toml.mem_keys_of_lookup listed),
      if_neg (sectionAddrKey_ne_services side)]
    exact address
  have filled : Entries.written left ≠ [] := by
    rw [Toml.ne_nil_iff_lookup]
    exact ⟨side.sectionAddrKey, Option.isSome_of_eq_some kept⟩
  rw [edited]
  constructor
  · refine ⟨.table (Entries.written left), ?_, fun inner same => ⟨a, Value.table.inj same ▸ kept⟩⟩
    rw [Entries.lookup_written_insertKey keys, if_pos rfl, Entries.written_table,
      if_pos (Or.inr filled)]
  · rw [Entries.lookup_written_insertKey keys, if_neg (key_ne_of_ne (ServiceSide.other_ne side))]
    exact pinned.other

/-- The address of the section stays when a service goes, so the section is printed. -/
theorem keeps_of_removeService {name : String} (lawful : env.crate.Lawful)
    (sound : Sound env file) (ran : removeService env file name = .ok text) :
    Keeps env file text := by
  cases file with
  | none => cases ran
  | some before =>
    obtain ⟨doc, parsed, ran⟩ := bind_ok ran
    obtain ⟨s, found, ran⟩ := bind_ok ran
    obtain ⟨⟨inner, services⟩, table⟩ := exists_servicesOf (okOrElse_ok found)
    obtain ⟨kind, section_, held, listed⟩ := servicesOf_eq_some table
    have declared : Declares env (some before) s :=
      (declares_iff_lookup lawful sound parsed s).mp (Option.isSome_of_eq_some held)
    have formed := formed_of_loadDocument lawful parsed
    cases sound with
    | missing none => cases none
    | empty text there empty =>
      cases there
      obtain ⟨text', t, there, read, present⟩ := declared
      cases there
      cases read.symm.trans empty
      cases present
    | pinned side text t there read pinned =>
      cases there
      obtain ⟨text', t', there, read', present⟩ := declared
      cases there
      cases read.symm.trans read'
      cases pinned.only present
      have same := lawful.read (withContext_ok parsed) read
      subst same
      have removed := lawful.removed (withContext_ok parsed) read [s.key, "services"] name
      rw [Except.ok.inj ran] at removed
      refine ⟨s, _, removed, pinned_removeAt formed held listed pinned, ?_⟩
      intro s' there
      exact Sound.one (.pinned s before _ rfl read pinned) there
        ⟨before, _, rfl, read, present⟩

theorem keeps_of_run {command : Command Text} (lawful : env.crate.Lawful)
    (prints : env.crate.Prints) (sound : Sound env file) (ran : run env file command = .ok text) :
    Keeps env file text := by
  cases command with
  | remove entry =>
    obtain ⟨out, done, same⟩ := map_ok ran
    obtain ⟨services, -, done⟩ := bind_ok done
    obtain ⟨written, removed, done⟩ := bind_ok done
    rw [← same, ← Except.ok.inj done]
    exact keeps_of_removeService lawful sound removed
  | addSingle args answers fresh keypair =>
    obtain ⟨out, done, same⟩ := map_ok ran
    obtain ⟨before, doc, new, makes⟩ := makes_of_runAddSingle done
    rw [← same]
    exact keeps_of_makes lawful prints sound makes
  | addBatch clientSpecs serverSpecs fresh =>
    obtain ⟨out, done, same⟩ := map_ok ran
    obtain ⟨before, doc, new, makes⟩ := makes_of_runAddBatch done
    rw [← same]
    exact keeps_of_makes lawful prints sound makes
  | set args keypair =>
    obtain ⟨out, done, same⟩ := map_ok ran
    obtain ⟨before, doc, new, makes⟩ := makes_of_runSet done
    rw [← same]
    exact keeps_of_makes lawful prints sound makes
  | importFrom source old =>
    obtain ⟨out, done, same⟩ := map_ok ran
    obtain ⟨before, doc, new, makes⟩ := makes_of_runImport done
    rw [← same]
    exact keeps_of_makes lawful prints sound makes

/-- A command that succeeds leaves the file, or writes one that keeps its section. -/
theorem keeps_of_edit {e : Edit Text} {after : Option Text} (lawful : env.crate.Lawful)
    (prints : env.crate.Prints) (sound : Sound env file) (moved : edit env file e = some after) :
    after = file ∨ ∃ text, after = some text ∧ Keeps env file text := by
  cases e with
  | command c =>
    simp only [edit] at moved
    split at moved
    · next text ran =>
      cases moved
      exact Or.inr ⟨text, rfl, keeps_of_run lawful prints sound ran⟩
    · cases moved
  | addInteractive rounds fresh =>
    simp only [edit] at moved
    split at moved
    · next text added ran =>
      cases moved
      obtain ⟨before, doc, new, makes⟩ := makes_of_runAddInteractive ran
      exact Or.inr ⟨text, rfl, keeps_of_makes lawful prints sound makes⟩
    · exact Or.inl (Option.some.inj moved).symm
    · cases moved

/-- One command keeps the role. -/
theorem sound_step {e : Edit Text} {after : Option Text} (lawful : env.crate.Lawful)
    (prints : env.crate.Prints) (sound : Sound env file) (moved : edit env file e = some after) :
    Sound env after ∧ ∀ s, Declares env file s → Declares env after s := by
  rcases keeps_of_edit lawful prints sound moved with same | ⟨text, there, side, t, read, pinned, only⟩
  · rw [same]
    exact ⟨sound, fun _ declared => declared⟩
  · refine ⟨.pinned side text t there read pinned, ?_⟩
    intro s declared
    rw [only s declared]
    exact ⟨text, t, there, read, pinned.declares⟩

theorem sound_run {es : List (Edit Text)} {after : Option Text} (lawful : env.crate.Lawful)
    (prints : env.crate.Prints) (ran : (files env).Run Free file es after)
    (sound : Sound env file) :
    Sound env after ∧ ∀ s, Declares env file s → Declares env after s := by
  apply ran.invariant (I := fun f => Sound env f ∧ ∀ s, Declares env file s → Declares env f s)
  · intro f e next allowed moved holds
    obtain ⟨here, kept⟩ := holds
    obtain ⟨there, step⟩ := sound_step lawful prints here moved
    exact ⟨there, fun s declared => step s (kept s declared)⟩
  · exact ⟨sound, fun _ declared => declared⟩

/-- No sequence of commands gives a file a second role or another one: the file has one of the
two sections at most, keeps the one it has, and a process without flags runs in its mode. -/
theorem keeps_single_role {start file last : Option Text} {es later : List (Edit Text)}
    (lawful : env.crate.Lawful) (prints : env.crate.Prints) (starts : (files env).init start)
    (ran : (files env).Run Free start es file) (next : (files env).Run Free file later last) :
    ¬ (Declares env file .client ∧ Declares env file .server) ∧
    (∀ text config, file = some text → load env text = .ok config →
      ∀ client server, Supervisor.determineRunMode config client server ≠ .ambiguous) ∧
    ∀ side, Declares env file side → Declares env last side ∧
      ∀ text config, last = some text → load env text = .ok config →
        Supervisor.determineRunMode config false false = side.mode := by
  obtain ⟨sound, -⟩ := sound_run lawful prints ran (sound_of_starts starts)
  obtain ⟨soundLast, kept⟩ := sound_run lawful prints next sound
  have mode : ∀ {f : Option Text} {text : Text} {config : Config}, Sound env f → f = some text →
      load env text = .ok config → ∃ side, Declares env f side ∧
        ∀ client server, Supervisor.determineRunMode config client server =
          if client && server then .undetermine else if client then .client
          else if server then .server else side.mode := by
    intro f text config sound there loaded
    obtain ⟨t, read, loads, server, client⟩ := sections_of_load loaded
    have declared : ∀ {s : ServiceSide}, (t.lookup s.key).isSome → Declares env f s :=
      fun held => ⟨text, t, there, read, held⟩
    obtain ⟨side, own⟩ := loads.role
    have other : (t.lookup side.other.key).isSome = false := by
      rw [← Bool.not_eq_true]
      intro other
      exact ServiceSide.other_ne side (sound.one (declared other) (declared own))
    refine ⟨side, declared own, ?_⟩
    intro c s
    unfold Supervisor.determineRunMode
    cases side <;> simp only [ServiceSide.other, ServiceSide.key] at own other <;>
      simp [server, client, own, other, ServiceSide.mode]
  refine ⟨?_, ?_, ?_⟩
  · intro both
    cases sound.one both.1 both.2
  · intro text config there loaded client server
    obtain ⟨side, -, runs⟩ := mode sound there loaded
    rw [runs]
    cases client <;> cases server <;> cases side <;> simp [ServiceSide.mode]
  · intro side declared
    refine ⟨kept side declared, ?_⟩
    intro text config there loaded
    obtain ⟨side', declared', runs⟩ := mode soundLast there loaded
    rw [runs, soundLast.one (kept side declared) declared']
    rfl

end Role

/-- The flags of `config set --client --remote-addr`. -/
def remoteAddrArgs (addr : String) : SetArgs where
  client := true
  server := false
  remoteAddr := some addr
  bindAddr := none
  defaultToken := none
  preferIpv6 := none
  heartbeatTimeout := none
  retryInterval := none
  heartbeatInterval := none
  transport := none
  noise := false
  noiseKey := none
  trustedRoot := none
  hostname := none
  pkcs12 := none
  pkcs12Password := none
  wsTls := none
  nodelay := none
  keepaliveSecs := none
  keepaliveInterval := none
  proxy := none

/-- A dialog that queues one service. -/
def oneRound (name addr token : String) : List Round :=
  [⟨.ok name, .ok 0, [addr], .ok 0, .ok token⟩, ⟨.ok "", .ok 0, [], .ok 0, .ok ""⟩]

/-- A client with these services. -/
def clientDocument (services : Entries) : Entries :=
  [("client", .table .header [("remote_addr", .string "example.com:2333"),
    ("services", .table .header services)])]

def secretWeb : Entries :=
  [("web", .table .header [("local_addr", .string "127.0.0.1:80"), ("token", .string "secret")])]

theorem validate_clientDocument (order : HashOrder) {services : Entries}
    (small : services = [] ∨ services = secretWeb) :
    validate (treeEnv order) (clientDocument services) = .ok () := by
  have loadable : Loadable (treeEnv order) (clientDocument services) := by
    rw [loadable_iff]
    refine ⟨(clientDocument services).written, rfl, ?_⟩
    rw [tableLoads_iff]
    rcases small with rfl | rfl <;> refine ⟨_, rfl, ?_⟩ <;> rw [Config.validateSections_isOk] <;>
      refine ⟨by simp, ?_, Or.inr rfl⟩ <;> intro client same <;> cases same <;>
      simp only [Config.validateClientConfig, HashOrder.entries_empty, HashOrder.entries_single] <;>
      exact ⟨_, rfl⟩
  obtain ⟨config, loaded⟩ := loadable
  unfold validate
  rw [loaded]
  rfl

theorem set_creates_client (order : HashOrder) :
    edit (treeEnv order) none (.command (.set (remoteAddrArgs "example.com:2333") (.error "unused"))) =
      some (some (clientDocument [])) := by
  have ran : ∃ context result,
      runSet (treeEnv order) (remoteAddrArgs "example.com:2333") (.error "unused") none =
        (withContext (validate (treeEnv order) (clientDocument [])) context >>= fun _ =>
          .ok (clientDocument [], result)) := ⟨_, _, rfl⟩
  obtain ⟨context, result, ran⟩ := ran
  rw [validate_clientDocument order (Or.inl rfl)] at ran
  simp only [edit, run]
  rw [ran]
  rfl

theorem dialog_adds_web (order : HashOrder) :
    edit (treeEnv order) (some (clientDocument []))
        (.addInteractive (oneRound "web" "127.0.0.1:80" "secret") fun _ => "fresh") =
      some (some (clientDocument secretWeb)) := by
  have ran : ∃ results, runAddInteractive (treeEnv order) (oneRound "web" "127.0.0.1:80" "secret")
      (fun _ => "fresh") (some (clientDocument [])) =
        ((validate (treeEnv order) (clientDocument secretWeb) >>= fun _ =>
          .ok (clientDocument secretWeb)) >>= fun text => .ok (some text, results)) := ⟨_, rfl⟩
  obtain ⟨results, ran⟩ := ran
  rw [validate_clientDocument order (Or.inr rfl)] at ran
  simp only [edit]
  rw [ran]
  rfl

/-- A missing file becomes a client with `config set`, and is one still after a dialog and after
the removal of its only service. -/
theorem client_stays_client : ∃ file last, file = some (clientDocument []) ∧
    last = some (clientDocument []) ∧
    ¬ (Declares (treeEnv .some) file .client ∧ Declares (treeEnv .some) file .server) ∧
    Declares (treeEnv .some) last .client := by
  have ran : (files (treeEnv .some)).Run Free none
      [.command (.set (remoteAddrArgs "example.com:2333") (.error "unused"))]
      (some (clientDocument [])) :=
    .single trivial (set_creates_client .some)
  have next : (files (treeEnv .some)).Run Free (some (clientDocument []))
      [.addInteractive (oneRound "web" "127.0.0.1:80" "secret") fun _ => "fresh",
        .command (.remove "web")] (some (clientDocument [])) :=
    .cons trivial (dialog_adds_web .some) (.single trivial rfl)
  have keeps := keeps_single_role Toml.Crate.tree_lawful Toml.Crate.tree_prints (Or.inl rfl) ran next
  refine ⟨_, _, rfl, rfl, keeps.1, ?_⟩
  apply (keeps.2.2 .client _).1
  exact ⟨clientDocument [], _, rfl, rfl, rfl⟩

end Rathole.ConfigEdit
