import Rathole.ConfigImport
import Rathole.ShellScript
import Rathole.ShellWords
import Rathole.SystemdUnit

set_option autoImplicit false

/- The OpenRC script of a service, and what a shell reads in it. -/
namespace Rathole.OpenRc

open ConfigEdit (ServiceRole validateServiceName)
open Linux (serviceAccount)
open Shell
open Transduce (run)

def serviceName (role : ServiceRole) (name : String) : String := s!"rathole-x-{role.key}-{name}"

def logPath (svc : String) : String := s!"/var/log/{svc}.log"

def shellQuote (path : OsPath) : Except String String :=
  match path.toStr with
  | none => .error s!"path {path.display} is not valid UTF-8"
  | some s =>
    if '\'' ∈ s.toList ∨ '\\' ∈ s.toList ∨ '"' ∈ s.toList then
      .error <| s!"cannot embed path `{s}` in an init.d script; move the file to a " ++
        "path without quotes or backslashes"
    else if s.toList.any isWhitespace then .ok ("'" ++ s ++ "'")
    else .ok s

def restrictedIab : String :=
  "!cap_chown,!cap_dac_override,!cap_dac_read_search," ++
  "!cap_fowner,!cap_fsetid,!cap_kill,!cap_setgid,!cap_setuid,!cap_setpcap," ++
  "!cap_linux_immutable,!cap_net_broadcast,!cap_net_admin,!cap_net_raw,!cap_ipc_lock," ++
  "!cap_ipc_owner,!cap_sys_module,!cap_sys_rawio,!cap_sys_chroot,!cap_sys_ptrace," ++
  "!cap_sys_pacct,!cap_sys_admin,!cap_sys_boot,!cap_sys_nice,!cap_sys_resource," ++
  "!cap_sys_time,!cap_sys_tty_config,!cap_mknod,!cap_lease,!cap_audit_write," ++
  "!cap_audit_control,!cap_setfcap,!cap_mac_override,!cap_mac_admin,!cap_syslog," ++
  "!cap_wake_alarm,!cap_block_suspend,!cap_audit_read,!cap_perfmon,!cap_bpf," ++
  "!cap_checkpoint_restore,^cap_net_bind_service"

/-- The lines of the script. -/
def initLines (exe config svc : String) : List String :=
  ["#!/sbin/openrc-run",
    "",
    "description=\"rathole-x reverse proxy service (single role)\"",
    s!"command={exe}",
    "command_args_foreground=\"run --config " ++ config ++ "\"",
    "# Bare user name only: openrc-run expands `$command_user` unquoted and",
    "# supervise-daemon takes --user as ONE argument — a \"user:group\" value is",
    "# split and the group token becomes the daemon's command. `-u` already",
    "# applies the account's primary group (rathole-x).",
    "command_user=\"" ++ serviceAccount ++ "\"",
    "# libcap IAB text for supervise-daemon (see RESTRICTED_IAB): every",
    "# capability except net_bind_service is dropped from the bounding set.",
    "capabilities=\"" ++ restrictedIab ++ "\"",
    "supervisor=supervise-daemon",
    "pidfile=\"/run/" ++ svc ++ ".pid\"",
    "respawn_delay=3",
    "output_log=\"" ++ logPath svc ++ "\"",
    "error_log=\"" ++ logPath svc ++ "\"",
    "rc_ulimit=\"-n 1048576\"",
    "",
    "depend() \x7b",
    "\t# rathole retries connections itself, so net is not a hard need;",
    "\t# this also lets the service start in containers without the net",
    "\t# service running.",
    "\tafter net firewall",
    "\x7d"]

def renderInitd (exe config : OsPath) (svc : String) : Except String String := do
  let exe ← shellQuote exe
  let config ← shellQuote config
  return unlines (initLines exe config svc)

section Script

variable {exe config svc name : String} {role : ServiceRole}

/-- A path in the script. -/
def embedded (s : String) : List Char :=
  if s.toList.any isWhitespace then '\'' :: (s.toList ++ ['\'']) else s.toList

theorem shellQuote_ok {path : OsPath} {arg : String} (ok : shellQuote path = .ok arg) :
    ∃ s, path.toStr = some s ∧ ('\'' ∉ s.toList ∧ '\\' ∉ s.toList ∧ '"' ∉ s.toList) ∧
      arg.toList = embedded s := by
  unfold shellQuote at ok
  split at ok
  · cases ok
  · next s utf8 =>
    split at ok
    · cases ok
    · next plain =>
      rw [not_or, not_or] at plain
      refine ⟨s, utf8, plain, ?_⟩
      unfold embedded
      split at ok
      · next blank =>
        cases ok
        rw [if_pos blank]
        simp
      · next tight =>
        cases ok
        rw [if_neg tight]

/-- What stands in front of the configuration in the arguments. -/
def given : List Char := "run --config ".toList

/-- What the script assigns to the command. -/
def commandPieces (exe : String) : List Piece :=
  if exe.toList.any isWhitespace then enclosed .single exe.toList else quoted .bare exe.toList

/-- What the script assigns to the arguments of the command. -/
def argsPieces (config : String) : List Piece :=
  enclosed .double (given ++ embedded config)

def setBefore : List (List Char × List Piece) :=
  [("description".toList, enclosed .double "rathole-x reverse proxy service (single role)".toList)]

def setAfter (svc : String) : List (List Char × List Piece) :=
  [("command_user".toList, enclosed .double serviceAccount.toList),
    ("capabilities".toList, enclosed .double restrictedIab.toList),
    ("supervisor".toList, quoted .bare "supervise-daemon".toList),
    ("pidfile".toList, enclosed .double ("/run/" ++ svc ++ ".pid").toList),
    ("respawn_delay".toList, quoted .bare "3".toList),
    ("output_log".toList, enclosed .double (logPath svc).toList),
    ("error_log".toList, enclosed .double (logPath svc).toList),
    ("rc_ulimit".toList, enclosed .double "-n 1048576".toList)]

/-- A text that is itself between double quotes. -/
def Literal (cs : List Char) : Prop :=
  cs.all (· ∉ ['\x00', '"', '\\', '$', backtick]) = true

instance (cs : List Char) : Decidable (Literal cs) := instDecidableEqBool _ _

theorem Literal.apart {cs : List Char} {c : Char} (literal : Literal cs) (member : c ∈ cs) :
    c ∉ ['\x00', '"', '\\', '$', backtick] :=
  of_decide_eq_true (List.all_eq_true.mp literal c member)

theorem Literal.append {a b : List Char} (first : Literal a) (second : Literal b) :
    Literal (a ++ b) := by
  rw [Literal, List.all_append, first, second]
  rfl

theorem Literal.plain {cs : List Char} (literal : Literal cs) :
    ∀ c ∈ cs, c ≠ '\x00' ∧ c ≠ '"' ∧ c ≠ '\\' := by
  intro c member
  have apart := literal.apart member
  simp only [List.mem_cons, not_or] at apart
  exact ⟨apart.1, apart.2.1, apart.2.2.1⟩

theorem Literal.unexpanded {cs : List Char} (literal : Literal cs) :
    ∀ c ∈ cs, c ≠ '$' ∧ c ≠ backtick := by
  intro c member
  have apart := literal.apart member
  simp only [List.mem_cons, not_or] at apart
  exact ⟨apart.2.2.2.1, apart.2.2.2.2.1⟩

theorem Literal.inert {cs : List Char} (literal : Literal cs) : Inert cs := by
  refine ⟨fun member => literal.apart member (by decide), ?_⟩
  have free : ∀ c ∈ cs, c ≠ '$' := by
    rintro c member rfl
    exact literal.apart member (by decide)
  clear literal
  induction cs with
  | nil => exact .nil
  | cons c cs ih =>
    refine List.isChain_cons.mpr ⟨fun _ _ dollar => ?_, ih fun c member => ?_⟩
    · exact absurd dollar (free c List.mem_cons_self)
    · exact free c (List.mem_cons_of_mem _ member)

theorem literal_serviceName (valid : validateServiceName name = .ok ()) :
    Literal (serviceName role name).toList := by
  have clean : Literal name.toList := by
    unfold validateServiceName at valid
    split at valid
    · cases valid
    · next named =>
      rw [not_or, not_not, List.all_eq_true] at named
      refine List.all_eq_true.mpr fun c member => decide_eq_true fun listed => ?_
      have allowed := named.2 c member
      simp only [List.mem_cons, List.not_mem_nil, or_false] at listed
      rcases listed with rfl | rfl | rfl | rfl | rfl <;> exact absurd allowed (by decide)
  have text : (serviceName role name).toList =
      "rathole-x-".toList ++ role.key.toList ++ "-".toList ++ name.toList := by
    simp [serviceName, toString]
  have key : Literal role.key.toList := by cases role <;> decide
  rw [text]
  exact ((Literal.append (by decide) key).append (by decide)).append clean

theorem unlines_toList (line : String) (rest : List String) :
    (unlines (line :: rest)).toList = (line.toList ++ ['\n']) ++ (unlines rest).toList := by
  simp [unlines]

theorem gives_skip {line : String} {rest : List String} {more : List (List Char × List Piece)}
    (first : Gives (line.toList ++ ['\n']) []) (others : Gives (unlines rest).toList more) :
    Gives (unlines (line :: rest)).toList more := by
  rw [unlines_toList]
  exact first.append others

theorem gives_set {line : String} {rest : List String} {set : List Char × List Piece}
    {more : List (List Char × List Piece)} (first : Gives (line.toList ++ ['\n']) [set])
    (others : Gives (unlines rest).toList more) :
    Gives (unlines (line :: rest)).toList (set :: more) := by
  rw [unlines_toList]
  exact first.append others

/-- A line that assigns a text in double quotes. -/
theorem gives_double {line : String} (key body : String) (isName : IsName key.toList)
    (same : line.toList = key.toList ++ '=' :: ('"' :: (body.toList ++ ['"'])))
    (literal : Literal body.toList) :
    Gives (line.toList ++ ['\n']) [(key.toList, enclosed .double body.toList)] := by
  have whole := gives_assignment isName (reads_double literal.plain)
  rw [same]
  simpa using whole

theorem gives_around {opening : String} (key body : String) (isName : IsName key.toList)
    (begins : opening.toList = key.toList ++ ['=', '"']) (literal : Literal body.toList) :
    Gives ((opening ++ body ++ "\"").toList ++ ['\n'])
      [(key.toList, enclosed .double body.toList)] := by
  refine gives_double key body isName ?_ literal
  rw [String.toList_append, String.toList_append, begins]
  simp

theorem gives_bare {line : String} (key body : String) (isName : IsName key.toList)
    (same : line.toList = key.toList ++ '=' :: body.toList)
    (plain : body.toList.all isPlain = true) :
    Gives (line.toList ++ ['\n']) [(key.toList, quoted .bare body.toList)] := by
  have whole := gives_assignment isName (reads_plain (List.all_eq_true.mp plain))
  rw [same]
  simpa using whole

theorem gives_remark {rest : List Char}
    (clean : rest.all (fun c => c ≠ '\x00' ∧ c ≠ '\n') = true) :
    Gives ((String.ofList ('#' :: rest)).toList ++ ['\n']) [] := by
  rw [String.toList_ofList]
  exact gives_comment fun c member => of_decide_eq_true (List.all_eq_true.mp clean c member)

def linesBefore : List String := (initLines "" "" "").take 3

def linesAfter (svc : String) : List String := (initLines "" "" svc).drop 5

theorem initLines_eq (exe config svc : String) :
    initLines exe config svc = linesBefore ++ ("command=" ++ exe) ::
      ("command_args_foreground=\"run --config " ++ config ++ "\"") :: linesAfter svc := rfl

theorem unlines_append (a b : List String) : unlines (a ++ b) = unlines a ++ unlines b := by
  induction a with
  | nil => exact String.empty_append.symm
  | cons line a ih =>
    rw [List.cons_append, unlines, unlines, ih, String.append_assoc, String.append_assoc,
      String.append_assoc]

theorem gives_end : Gives (unlines []).toList [] := gives_nil

theorem gives_empty : Gives ("".toList ++ ['\n']) [] := gives_blank

theorem gives_before : Gives (unlines linesBefore).toList setBefore :=
  gives_skip (gives_remark (by decide))
    (gives_skip gives_empty
      (gives_set (gives_double "description" "rathole-x reverse proxy service (single role)"
        ⟨by decide, by decide⟩ (by repeat rw [String.toList_ofList]; rfl) (by decide)) gives_end))

/-- The tokens of the function of the script. -/
def dependTokens : List Token :=
  [.word (quoted .bare "depend".toList), .operator '(', .operator ')',
    .word [.char '\x7b' .bare], .newline, .newline, .newline, .newline,
    .word (quoted .bare "after".toList), .word (quoted .bare "net".toList),
    .word (quoted .bare "firewall".toList), .newline, .word [.char '\x7d' .bare], .newline]

theorem gives_depend : Gives (unlines ((initLines "" "" "").drop 20)).toList [] := by
  simp only [initLines, List.drop_succ_cons, List.drop_zero, unlines_toList]
  repeat rw [String.toList_ofList]
  exact ⟨dependTokens, by decide +kernel, by decide⟩

theorem literal_append {a b : String} (first : Literal a.toList) (second : Literal b.toList) :
    Literal (a ++ b).toList := by
  rw [String.toList_append]
  exact first.append second

theorem literal_iab : Literal restrictedIab.toList := by
  refine literal_append (literal_append (literal_append (literal_append (literal_append
    (literal_append (literal_append (literal_append ?_ ?_) ?_) ?_) ?_) ?_) ?_) ?_) ?_
  all_goals
    rw [String.toList_ofList]
    decide

theorem literal_pidfile (literal : Literal svc.toList) :
    Literal ("/run/" ++ svc ++ ".pid").toList :=
  literal_append (literal_append (by decide) literal) (by decide)

theorem literal_logPath (literal : Literal svc.toList) : Literal (logPath svc).toList := by
  have text : logPath svc = "/var/log/" ++ svc ++ ".log" := rfl
  rw [text]
  exact literal_append (literal_append (by decide) literal) (by decide)

theorem gives_after (literal : Literal svc.toList) :
    Gives (unlines (linesAfter svc)).toList (setAfter svc) := by
  have pidfile := literal_pidfile literal
  have log := literal_logPath literal
  refine gives_skip (gives_remark (by decide))
    (gives_skip (gives_remark (by decide)) (gives_skip (gives_remark (by decide +kernel))
    (gives_skip (gives_remark (by decide))
      (gives_set (gives_around "command_user" _ ⟨by decide, by decide⟩ rfl (by decide)) ?_))))
  refine gives_skip (gives_remark (by decide))
    (gives_skip (gives_remark (by decide))
    (gives_set (gives_around "capabilities" _ ⟨by decide, by decide⟩ rfl literal_iab) ?_))
  refine gives_set (gives_bare "supervisor" _ ⟨by decide, by decide⟩ rfl (by decide))
    (gives_set (gives_double "pidfile" _ ⟨by decide, by decide⟩ (by simp) pidfile)
    (gives_set (gives_bare "respawn_delay" _ ⟨by decide, by decide⟩ rfl (by decide))
    (gives_set (gives_around "output_log" _ ⟨by decide, by decide⟩ rfl log)
    (gives_set (gives_around "error_log" _ ⟨by decide, by decide⟩ rfl log)
    (gives_set (gives_double "rc_ulimit" _ ⟨by decide, by decide⟩ rfl (by decide))
    (gives_skip gives_empty gives_depend))))))

def command : List Char := "command".toList

def args : List Char := "command_args_foreground".toList

theorem script_eq {e c : String} (es : e.toList = embedded exe) (cs : c.toList = embedded config) :
    (unlines (initLines e c svc)).toList = (unlines linesBefore).toList ++
      ((command ++ '=' :: (embedded exe ++ ['\n'])) ++
        ((args ++ '=' :: ('"' :: ((given ++ embedded config) ++ ['"']) ++ ['\n'])) ++
          (unlines (linesAfter svc)).toList)) := by
  have first : ("command=" ++ e).toList = command ++ '=' :: embedded exe := by
    rw [String.toList_append, es]
    unfold command
    rw [String.toList_ofList, String.toList_ofList]
    rfl
  have opening : "command_args_foreground=\"run --config ".toList =
      args ++ '=' :: '"' :: given := by
    unfold args given
    rw [String.toList_ofList, String.toList_ofList, String.toList_ofList]
    rfl
  have second : ("command_args_foreground=\"run --config " ++ c ++ "\"").toList =
      args ++ '=' :: ('"' :: ((given ++ embedded config) ++ ['"'])) := by
    rw [String.toList_append, String.toList_append, cs, opening]
    simp only [List.append_assoc, List.cons_append]
    rfl
  rw [initLines_eq, unlines_append, String.toList_append, unlines_toList, unlines_toList, first,
    second]
  simp -implicitDefEqProofs only [List.append_assoc, List.cons_append]

theorem gives_command (known : '\x00' ∉ exe.toList) (unquoted : '\'' ∉ exe.toList)
    (plain : exe.toList.any isWhitespace = false → ∀ c ∈ exe.toList, isPlain c = true) :
    Gives (command ++ '=' :: (embedded exe ++ ['\n'])) [(command, commandPieces exe)] := by
  refine gives_assignment ⟨by decide, by decide⟩ ?_
  unfold embedded commandPieces
  cases blank : exe.toList.any isWhitespace with
  | true =>
    exact reads_single fun c member =>
      ⟨fun same => known (same ▸ member), fun same => unquoted (same ▸ member)⟩
  | false => exact reads_plain (plain blank)

theorem gives_args (known : '\x00' ∉ config.toList)
    (quotes : '\\' ∉ config.toList ∧ '"' ∉ config.toList) :
    Gives (args ++ '=' :: ('"' :: ((given ++ embedded config) ++ ['"']) ++ ['\n']))
      [(args, argsPieces config)] := by
  have inside : ∀ c ∈ config.toList, c ≠ '\x00' ∧ c ≠ '"' ∧ c ≠ '\\' := fun c member =>
    ⟨fun same => known (same ▸ member), fun same => quotes.2 (same ▸ member),
      fun same => quotes.1 (same ▸ member)⟩
  refine gives_assignment ⟨by decide, by decide⟩ (reads_double fun c member => ?_)
  rcases List.mem_append.mp member with front | path
  · have literal : Literal given := by decide
    exact literal.plain c front
  · unfold embedded at path
    split at path
    · simp only [List.mem_cons, List.mem_append, List.not_mem_nil, or_false] at path
      rcases path with rfl | path | rfl
      · decide
      · exact inside c path
      · decide
    · exact inside c path

/-- Everything that the script assigns. -/
def settings (exe config svc : String) : List (List Char × List Piece) :=
  setBefore ++ (command, commandPieces exe) :: (args, argsPieces config) :: setAfter svc

theorem isTight_of_tight {s : String} (quotes : '\'' ∉ s.toList ∧ '\\' ∉ s.toList ∧ '"' ∉ s.toList)
    (tight : s.toList.any isWhitespace = false) : ∀ c ∈ s.toList, isTight c = true := by
  intro c member
  rw [isTight, decide_eq_true_eq]
  intro listed
  simp only [List.mem_cons, List.not_mem_nil, or_false] at listed
  rw [List.any_eq_false] at tight
  have open_ := tight c member
  rcases listed with rfl | rfl | rfl | rfl | rfl | rfl
  · exact quotes.1 member
  · exact quotes.2.2 member
  · exact quotes.2.1 member
  · exact open_ (by decide)
  · exact open_ (by decide)
  · exact open_ (by decide)

theorem mem_embedded {s : String} {c : Char} (member : c ∈ s.toList) : c ∈ embedded s := by
  unfold embedded
  split
  · exact List.mem_cons_of_mem _ (List.mem_append_left _ member)
  · exact member

section Paths

variable {e c : String} (es : e.toList = embedded exe) (cs : c.toList = embedded config)
  (exeQuotes : '\'' ∉ exe.toList ∧ '\\' ∉ exe.toList ∧ '"' ∉ exe.toList)
  (configQuotes : '\'' ∉ config.toList ∧ '\\' ∉ config.toList ∧ '"' ∉ config.toList)
include es cs

theorem statements_known {found : List (List Char × List Piece)}
    (reads : statements (unlines (initLines e c svc)).toList = some found) :
    '\x00' ∉ exe.toList ∧ '\x00' ∉ config.toList := by
  rw [script_eq es cs] at reads
  constructor <;>
  · intro member
    have inside := mem_embedded member
    rw [statements_nul (by simp [inside])] at reads
    cases reads

include exeQuotes

theorem statements_plain {found : List (List Char × List Piece)}
    (reads : statements (unlines (initLines e c svc)).toList = some found)
    (tight : exe.toList.any isWhitespace = false) : ∀ c ∈ exe.toList, isPlain c = true := by
  obtain ⟨known, -⟩ := statements_known es cs reads
  by_contra special
  obtain ⟨front, d, more, text, plain, odd⟩ :=
    special_split (isTight_of_tight exeQuotes tight) special
  rcases odd with rfl | operator
  · exact known (by simp [text])
  · have bare : embedded exe = front ++ d :: more := by
      rw [embedded, if_neg (by simp [tight]), text]
    have isName : IsName command := ⟨by decide, by decide⟩
    rw [script_eq es cs, statements_append gives_before, bare] at reads
    have refused := statements_operator isName (reads_plain plain) operator (more ++ ['\n'] ++
      ((args ++ '=' :: ('"' :: ((given ++ embedded config) ++ ['"']) ++ ['\n'])) ++
        (unlines (linesAfter svc)).toList))
    simp -implicitDefEqProofs only [List.append_assoc, List.cons_append] at refused reads
    rw [refused] at reads
    cases reads

include configQuotes

theorem statements_settings (literal : Literal svc.toList)
    (known : '\x00' ∉ exe.toList ∧ '\x00' ∉ config.toList)
    (plain : exe.toList.any isWhitespace = false → ∀ c ∈ exe.toList, isPlain c = true) :
    statements (unlines (initLines e c svc)).toList = some (settings exe config svc) := by
  rw [script_eq es cs]
  exact (gives_before.append ((gives_command known.1 exeQuotes.1 plain).append
    ((gives_args known.2 configQuotes.2).append (gives_after literal)))).statements

end Paths

end Script

end Rathole.OpenRc
