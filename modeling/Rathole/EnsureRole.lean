import Rathole.ConfigAtomic
import Rathole.ConfigRole

set_option autoImplicit false

/- The configuration that `service install` finds or creates, and the role that the installed
service starts with. -/
namespace Rathole.ConfigEdit

open Disk (State fileExists createDirAll orFail)
open Toml (Entries)

def defaultServerConfig : List String := [
    "# rathole-x server configuration",
    "# Generated by `rathole-x service install server`. Edit freely; the service",
    "# hot-reloads changes.",
    "#",
    "# Add services with:",
    "#   rathole-x config add --name <name> --server \"name:...;bind:0.0.0.0:PORT\"",
    "# Tune the control channel with:",
    "#   rathole-x config set --name <name> --server --transport noise",
    "",
    "[server]",
    "bind_addr = \"0.0.0.0:2333\"",
    "",
    "[server.services]"]

def defaultClientConfig : List String := [
    "# rathole-x client configuration",
    "# Generated by `rathole-x service install client`. Edit freely; the service",
    "# hot-reloads changes.",
    "#",
    "# Point this client at your server first:",
    "#   rathole-x config set --name <name> --client --remote-addr <SERVER>:2333",
    "# Then add services:",
    "#   rathole-x config add --name <name> --client \"name:...;local:127.0.0.1:PORT\"",
    "",
    "[client]",
    "remote_addr = \"example.com:2333\"  # placeholder; unused until services exist",
    "",
    "[client.services]"]

namespace ServiceRole

def defaultConfig : ServiceRole → List String
  | client => defaultClientConfig
  | server => defaultServerConfig

/-- What the lines of the default configuration say. -/
def defaultEntries : ServiceRole → Entries
  | client => [("client", .table .header [("remote_addr", .string "example.com:2333"),
      ("services", .table .header [])])]
  | server => [("server", .table .header [("bind_addr", .string "0.0.0.0:2333"),
      ("services", .table .header [])])]

end ServiceRole

/-- The hint after a message of the system that the permission was denied. -/
def permissionHint (message : String) : String :=
  if ["Permission denied (os error 13)", "Operation not permitted (os error 1)",
      "Access is denied. (os error 5)"].any (fun denied => message.endsWith denied) then
    " (insufficient permissions; run the command elevated, e.g. with sudo)"
  else ""

namespace Host

variable {Text B : Type} (h : Host Text B)

/-- The role of the document, if it can be parsed and has one. -/
def existingRole (content : Text) : Option ServiceRole :=
  (h.crate.parse content).toOption.bind fun doc => (detectRole doc).toOption

def checkRole (role : ServiceRole) (existing : Option ServiceRole) : Except String Unit :=
  match existing with
  | some existing =>
    bailIf (existing ≠ role) (s!"Config {h.path.display} is a {existing.key} config from a " ++
      s!"previous install; it cannot back a {role.key} service. Remove it (`sudo rm " ++
      s!"{h.path.display}`) or uninstall with --purge first")
  | none => .ok ()

/-- Whether the configuration was created. `ofLines` is the text of these lines. -/
def ensureRoleConfig (ofLines : List String → Text) (role : ServiceRole) : Cmd B Bool := do
  if ← fileExists h.path then do
    let content ← orFail (h.readToString h.path) fun fault =>
      s!"Failed to read config file {h.path.display}{permissionHint fault.message}: {fault.message}"
    withContext (validate h.env content)
      s!"Config file {h.path.display} is not a valid rathole-x configuration"
    h.checkRole role (h.existingRole content)
    pure false
  else do
    let dir := h.path.parent.getD ""
    if dir ≠ "" then
      orFail createDirAll fun fault => s!"Failed to create config directory {dir}" ++
        s!"{permissionHint fault.message}: {fault.message}"
    (h.writeAtomic (ofLines role.defaultConfig)).mapError fun e =>
      s!"Failed to write default config {h.path.display}{permissionHint e}: {e}"
    pure true

/-- The loader accepts the file, and a process without flags, as the installed unit starts it,
runs as this role. -/
def Starts (s : State FilePath B) (role : ServiceRole) : Prop :=
  ∃ bytes text config, s.files h.path = some bytes ∧ h.decode bytes = .ok text ∧
    load h.env text = .ok config ∧
    Supervisor.determineRunMode config false false = role.side.mode

/-- A file that is found has not both sections, and when only the loader can parse it, it has the
section of the role. -/
def KeepsRole (s : State FilePath B) (role : ServiceRole) : Prop :=
  s.outcome = .done → ∀ bytes text table, s.files h.path = some bytes →
    h.decode bytes = .ok text → h.crate.read text = .ok table →
    ¬ ((table.lookup "client").isSome ∧ (table.lookup "server").isSome) ∧
    ((h.crate.parse text).toOption = none → (table.lookup role.side.key).isSome)

variable {h : Host Text B} {s t : State FilePath B} {bytes : List B} {content : Text}
  {role : ServiceRole}

theorem readToString_ok {p : FilePath} {text : Text}
    (ran : h.readToString p s = (.ok (.ok text), t)) :
    ∃ bytes, s.outcome = .done ∧ s.files p = some bytes ∧ h.decode bytes = .ok text ∧
      t.files = s.files := by
  obtain ⟨answer, u, first, next⟩ := Disk.bind_inv ran
  unfold Disk.read at first
  cases outcome : s.outcome with
  | fails fault k =>
    rw [outcome] at first
    cases first
    cases next
  | done =>
    rw [outcome] at first
    cases held : s.files p with
    | none =>
      rw [held] at first
      cases first
      cases next
    | some bytes =>
      rw [held] at first
      cases first
      have decoded : h.decode bytes = .ok text ∧ t.files = s.files := by
        simp only [Disk.contentOf] at next
        cases decoding : h.decode bytes with
        | ok read =>
          rw [decoding] at next
          cases next
          exact ⟨rfl, rfl⟩
        | error e =>
          rw [decoding] at next
          cases next
      exact ⟨bytes, rfl, rfl, decoded⟩

theorem cleanUp_inv {x : Cmd B (Except Disk.Fault Unit)} {system : Swapping B} {q : FilePath}
    (ran : cleanUp system x q s = (.ok (.ok ()), t)) : x s = (.ok (.ok ()), t) := by
  rcases Disk.recover_ok ran with done | ⟨fault, u, -, next⟩
  · exact done
  · obtain ⟨answer, v, -, ended⟩ := Disk.bind_inv next
    cases ended

theorem files_of_replaceFile (held : s.files h.tmp = some bytes)
    (ran : h.replaceFile .disk s = (.ok (.ok ()), t)) : t.files h.path = some bytes := by
  unfold replaceFile at ran
  split at ran
  · rcases Disk.recover_ok (cleanUp_inv ran) with done | ⟨fault, u, first, next⟩
    · change Disk.replace h.tmp h.path s = _ at done
      unfold Disk.replace at done
      split at done
      · exact Disk.files_of_rename held done
      · cases done
    · have kept := Disk.files_of_replace first
      split at next
      · exact Disk.files_of_rename (kept ▸ held) next
      · cases next
  · exact Disk.files_of_rename held ran

/-- After `Ok` the file holds the content, whatever name it has. -/
theorem files_of_writeAtomic (ran : h.writeAtomic content s = (.ok (), t)) :
    t.files h.path = some (h.encode content) := by
  obtain ⟨_, u, wrote, next⟩ := Disk.bind_inv ran
  obtain ⟨_, v, secured, swapped⟩ := Disk.bind_inv next
  have held := (Disk.files_of_write (Disk.orFail_ok wrote)).2
  have kept := files_secure h u
  rw [secured] at kept
  exact files_of_replaceFile (kept ▸ held) (cleanUp_inv (Disk.orFail_ok swapped))

/-- The mode of a process without flags, by the sections that the loader has read. -/
theorem mode_of_sections {config : Config} {client server : Bool}
    (isClient : config.client.isSome = client) (isServer : config.server.isSome = server) :
    Supervisor.determineRunMode config false false =
      if client && server then .ambiguous else if client then .client
      else if server then .server else .undetermine := by
  simp [Supervisor.determineRunMode, isClient, isServer]

/-- The role of a file with these of the two sections. -/
def soleRole : Bool → Bool → Option ServiceRole
  | true, false => some .client
  | false, true => some .server
  | true, true | false, false => none

/-- The role check sees the sections that the loader sees, when both parsers take the file. -/
theorem detectRole_of_parsed (lawful : h.crate.Lawful) {doc : Entries} {table : Toml.Table}
    (parsed : h.crate.parse content = .ok doc) (readable : h.crate.read content = .ok table) :
    (detectRole doc).toOption =
      soleRole (table.lookup "client").isSome (table.lookup "server").isSome := by
  have formed := lawful.wellFormed parsed
  rw [lawful.read parsed readable, Entries.lookup_written_isSome formed,
    Entries.lookup_written_isSome formed, detectRole]
  cases (doc.lookup "client").isSome <;> cases (doc.lookup "server").isSome <;> rfl

/-- The section of a role, of the two that a file may have. -/
theorem lookup_role (table : Toml.Table) (role : ServiceRole) :
    (table.lookup role.side.key).isSome =
      if role = .client then (table.lookup "client").isSome
      else (table.lookup "server").isSome := by
  cases role <;> rfl

/-- A file that has passed the checks runs as the role exactly when it has not both sections and,
when only the loader can parse it, has the right one. -/
theorem mode_of_checked (lawful : h.crate.Lawful) {config : Config} {table : Toml.Table}
    (loaded : load h.env content = .ok config) (readable : h.crate.read content = .ok table)
    (checked : h.checkRole role (h.existingRole content) = .ok ()) :
    Supervisor.determineRunMode config false false = role.side.mode ↔
      ¬ ((table.lookup "client").isSome ∧ (table.lookup "server").isSome) ∧
      ((h.crate.parse content).toOption = none → (table.lookup role.side.key).isSome) := by
  obtain ⟨t, read, loads, isServer, isClient⟩ := sections_of_load loaded
  have same : t = table := Except.ok.inj (read.symm.trans readable)
  subst same
  have one : (t.lookup "client").isSome = true ∨ (t.lookup "server").isSome = true := by
    obtain ⟨side, there⟩ := loads.role
    cases side with
    | client => exact .inl there
    | server => exact .inr there
  rw [mode_of_sections isClient isServer, lookup_role]
  unfold existingRole at checked
  cases parsed : h.crate.parse content with
  | ok doc =>
    have detected := detectRole_of_parsed lawful parsed readable
    rw [parsed] at checked
    change h.checkRole role (detectRole doc).toOption = .ok () at checked
    rw [detected] at checked
    generalize (t.lookup "client").isSome = client at *
    generalize (t.lookup "server").isSome = server at *
    have parses : (Except.ok doc : Except String Entries).toOption ≠ none := Option.some_ne_none doc
    simp only [parses, false_implies, and_true]
    cases client <;> cases server <;> cases role <;>
      simp_all [soleRole, checkRole, bailIf_ok, ServiceRole.side, ServiceSide.mode]
  | error e =>
    generalize (t.lookup "client").isSome = client at *
    generalize (t.lookup "server").isSome = server at *
    have refuses : (Except.error e : Except String Entries).toOption = none := rfl
    simp only [refuses, true_implies]
    cases client <;> cases server <;> cases role <;>
      simp_all [ServiceRole.side, ServiceSide.mode]

/-- The texts of the default configurations, as the loader reads them. -/
def ReadsDefaults (h : Host Text B) (ofLines : List String → Text) : Prop :=
  ∀ role : ServiceRole,
    h.crate.read (ofLines role.defaultConfig) = .ok (Entries.written role.defaultEntries)

theorem starts_default {ofLines : List String → Text} (reads : ReadsDefaults h ofLines)
    (stored : ∀ text, h.decode (h.encode text) = .ok text)
    (held : s.files h.path = some (h.encode (ofLines role.defaultConfig))) : h.Starts s role := by
  have read := reads role
  have loadable : Loadable h.env (ofLines role.defaultConfig) := by
    rw [loadable_iff]
    refine ⟨_, read, (tableLoads_iff _).mpr ?_⟩
    cases role with
    | client =>
      refine ⟨_, rfl, ?_⟩
      rw [Config.validateSections_isOk]
      refine ⟨by simp, ?_, Or.inr rfl⟩
      intro client same
      cases same
      simp only [Config.validateClientConfig, HashOrder.entries_empty]
      exact ⟨_, rfl⟩
    | server =>
      refine ⟨_, rfl, ?_⟩
      rw [Config.validateSections_isOk]
      refine ⟨?_, by simp, Or.inl rfl⟩
      intro server same
      cases same
      simp only [Config.validateServerConfig, HashOrder.entries_empty]
      exact ⟨_, rfl⟩
  obtain ⟨config, loaded⟩ := loadable
  refine ⟨_, _, config, held, stored _, loaded, ?_⟩
  obtain ⟨t, read', -, isServer, isClient⟩ := sections_of_load loaded
  cases read.symm.trans read'
  rw [mode_of_sections isClient isServer]
  cases role <;> rfl

/-- A file that is found is checked and stays as it is. -/
theorem found_of_ensureRoleConfig {ofLines : List String → Text} {created : Bool}
    (ran : h.ensureRoleConfig ofLines role s = (.ok created, t)) (done : s.outcome = .done)
    (there : (s.files h.path).isSome = true) : t.files = s.files ∧
      ∃ bytes content config, s.files h.path = some bytes ∧ h.decode bytes = .ok content ∧
        load h.env content = .ok config ∧ h.checkRole role (h.existingRole content) = .ok () := by
  have exists_ : (fileExists h.path : Cmd B Bool) s = (.ok true, s.skip) := by
    unfold Disk.fileExists
    rw [done, there]
  unfold ensureRoleConfig at ran
  rw [Disk.bind_ok exists_, if_pos rfl] at ran
  obtain ⟨content, u, opened, ran⟩ := Disk.bind_inv ran
  obtain ⟨bytes, -, held, decoded, kept⟩ := readToString_ok (Disk.orFail_ok opened)
  obtain ⟨_, v, checked, ran⟩ := Disk.bind_inv ran
  obtain ⟨valid, same⟩ := Disk.lift_ok checked
  obtain ⟨config, loaded, -⟩ := map_ok (withContext_ok valid)
  obtain ⟨_, w, checked, ran⟩ := Disk.bind_inv ran
  obtain ⟨roled, same'⟩ := Disk.lift_ok checked
  cases ran
  refine ⟨?_, bytes, content, config, held, decoded, loaded, roled⟩
  rw [same', same]
  exact kept

/-- A file that is not found is created. -/
theorem created_of_ensureRoleConfig {ofLines : List String → Text} {created : Bool}
    (ran : h.ensureRoleConfig ofLines role s = (.ok created, t))
    (absent : ¬ (s.outcome = .done ∧ (s.files h.path).isSome = true)) :
    t.files h.path = some (h.encode (ofLines role.defaultConfig)) := by
  have exists_ : (fileExists h.path : Cmd B Bool) s = (.ok false, s.skip) := by
    unfold Disk.fileExists
    cases outcome : s.outcome with
    | fails fault k => rfl
    | done =>
      have missing : (s.files h.path).isSome = false := by
        rw [← Bool.not_eq_true]
        exact fun there => absent ⟨outcome, there⟩
      simp only [missing]
  unfold ensureRoleConfig at ran
  rw [Disk.bind_ok exists_, if_neg Bool.false_ne_true] at ran
  have written : ∃ u v, ((h.writeAtomic (ofLines role.defaultConfig)).mapError fun e =>
      s!"Failed to write default config {h.path.display}{permissionHint e}: {e}") u = (.ok (), v) ∧
      t = v := by
    split at ran
    · obtain ⟨_, u, -, ran⟩ := Disk.bind_inv ran
      obtain ⟨_, v, wrote, ran⟩ := Disk.bind_inv ran
      cases ran
      exact ⟨u, _, wrote, rfl⟩
    · obtain ⟨_, v, wrote, ran⟩ := Disk.bind_inv ran
      cases ran
      exact ⟨_, _, wrote, rfl⟩
  obtain ⟨u, v, wrote, rfl⟩ := written
  exact files_of_writeAtomic (Disk.mapError_ok wrote)

/-- After `Ok` the file starts as the role that was asked for, exactly when it was created or is
one that both parsers give the same single role. -/
theorem starts_iff_keepsRole {ofLines : List String → Text} {created : Bool}
    (lawful : h.crate.Lawful) (stored : ∀ text, h.decode (h.encode text) = .ok text)
    (reads : ReadsDefaults h ofLines)
    (ran : h.ensureRoleConfig ofLines role s = (.ok created, t)) :
    h.Starts t role ↔ h.KeepsRole s role := by
  by_cases found : s.outcome = .done ∧ (s.files h.path).isSome = true
  · obtain ⟨done, there⟩ := found
    obtain ⟨same, bytes, content, config, held, decoded, loaded, checked⟩ :=
      found_of_ensureRoleConfig ran done there
    obtain ⟨table, readable, -⟩ := sections_of_load loaded
    have decides := mode_of_checked lawful loaded readable checked
    constructor
    · rintro ⟨bytes', content', config', held', decoded', loaded', mode⟩
      intro _ bytes'' content'' table' held'' decoded'' readable'
      rw [same] at held'
      cases held.symm.trans held'
      cases held.symm.trans held''
      cases decoded.symm.trans decoded'
      cases decoded.symm.trans decoded''
      cases loaded.symm.trans loaded'
      cases readable.symm.trans readable'
      exact decides.mp mode
    · intro keeps
      refine ⟨bytes, content, config, ?_, decoded, loaded, ?_⟩
      · rw [same]
        exact held
      · exact decides.mpr (keeps done bytes content table held decoded readable)
  · refine iff_of_true (starts_default reads stored (created_of_ensureRoleConfig ran found)) ?_
    intro done bytes content table held
    exact absurd ⟨done, by rw [held]; rfl⟩ found

/-- The trees of the default configurations. -/
def treeOfLines (lines : List String) : Entries :=
  if lines = defaultClientConfig then ServiceRole.defaultEntries .client
  else ServiceRole.defaultEntries .server

theorem treeOfLines_reads (order : HashOrder) (path : FilePath) (pid : Nat) :
    ReadsDefaults (treeHost order path pid) treeOfLines := by
  intro role
  cases role with
  | client => rfl
  | server =>
    have other : defaultServerConfig ≠ defaultClientConfig := by decide
    show Except.ok (treeOfLines defaultServerConfig).written = _
    rw [treeOfLines, if_neg other]

/-- A disk where nothing fails, with this content under every name. -/
def holding (content : Option Entries) : State FilePath (String × Toml.Item) where
  files _ := content
  past := []
  outcomes _ := .done

/-- A configuration that is missing is created, and the server starts from it. -/
theorem created_server_starts : ∃ t,
    (treeHost .some ⟨"/etc/rathole-x", "default.toml"⟩ 7).ensureRoleConfig treeOfLines .server
      (holding none) = (.ok true, t) ∧
    (treeHost .some ⟨"/etc/rathole-x", "default.toml"⟩ 7).Starts t .server := by
  obtain ⟨t, ran⟩ : ∃ t, (treeHost .some ⟨"/etc/rathole-x", "default.toml"⟩ 7).ensureRoleConfig
      treeOfLines .server (holding none) = (.ok true, t) := ⟨_, rfl⟩
  refine ⟨t, ran, (starts_iff_keepsRole Toml.Crate.tree_lawful (fun _ => rfl)
    (treeOfLines_reads _ _ _) ran).mpr ?_⟩
  intro _ bytes text table held
  cases held

/-- Both sections, each with what it needs. -/
def dualEntries : Entries :=
  ServiceRole.defaultEntries .client ++ ServiceRole.defaultEntries .server

theorem dual_loads (order : HashOrder) (path : FilePath) (pid : Nat) :
    ∃ config, load (treeHost order path pid).env dualEntries = .ok config ∧
      Supervisor.determineRunMode config false false = .ambiguous := by
  have loadable : Loadable (treeHost order path pid).env dualEntries := by
    rw [loadable_iff]
    refine ⟨_, rfl, (tableLoads_iff _).mpr ⟨_, rfl, ?_⟩⟩
    rw [Config.validateSections_isOk]
    refine ⟨fun server same => ?_, fun client same => ?_, Or.inl rfl⟩
    · cases same
      simp only [Config.validateServerConfig, HashOrder.entries_empty]
      exact ⟨_, rfl⟩
    · cases same
      simp only [Config.validateClientConfig, HashOrder.entries_empty]
      exact ⟨_, rfl⟩
  obtain ⟨config, loaded⟩ := loadable
  obtain ⟨t, read, -, isServer, isClient⟩ := sections_of_load loaded
  refine ⟨config, loaded, ?_⟩
  cases read
  rw [mode_of_sections isClient isServer]
  rfl

/-- A file with both sections passes for a server, which stops at once as ambiguous. -/
theorem dual_passes_for_server : ∃ t,
    (treeHost .some ⟨"/etc/rathole-x", "default.toml"⟩ 7).ensureRoleConfig treeOfLines .server
      (holding (some dualEntries)) = (.ok false, t) ∧
    ¬ (treeHost .some ⟨"/etc/rathole-x", "default.toml"⟩ 7).Starts t .server := by
  obtain ⟨config, loaded, ambiguous⟩ := dual_loads .some ⟨"/etc/rathole-x", "default.toml"⟩ 7
  have valid : validate (treeHost .some ⟨"/etc/rathole-x", "default.toml"⟩ 7).env dualEntries =
      .ok () := by
    unfold validate
    rw [loaded]
    rfl
  obtain ⟨context, checks⟩ : ∃ context,
      (treeHost .some ⟨"/etc/rathole-x", "default.toml"⟩ 7).ensureRoleConfig treeOfLines .server
        (holding (some dualEntries)) =
      (Disk.Program.lift (withContext (validate
        (treeHost .some ⟨"/etc/rathole-x", "default.toml"⟩ 7).env dualEntries) context) >>=
        fun _ => pure false) (holding (some dualEntries)).skip.skip := ⟨_, rfl⟩
  rw [valid] at checks
  refine ⟨(holding (some dualEntries)).skip.skip, checks, ?_⟩
  rintro ⟨bytes, content, config', held, decoded, loaded', mode⟩
  cases held
  cases decoded
  cases loaded.symm.trans loaded'
  cases ambiguous.symm.trans mode

end Host

end Rathole.ConfigEdit
