import Rathole.InitScript

set_option autoImplicit false

/- The daemon that an OpenRC script starts. -/
namespace Rathole.OpenRc

open ConfigEdit (ServiceRole validateServiceName)
open Shell

/-- What supervise-daemon is to start: the command, and the arguments that `eval` finds in the
value of `command_args_foreground`. -/
def started (host : Host) (script : String) : Option (List (List Char)) := do
  let values ← evaluate host script.toList
  let command ← values.reverse.lookup "command".toList
  let args ← values.reverse.lookup "command_args_foreground".toList
  let words ← evalWords host args
  if command = [] then none else some (command :: words)

/-- On every host the script runs no command of its own, and starts what it should. -/
def Runs (exe config script : String) : Prop :=
  ∀ host, started host script = some ([exe, "run", "--config", config].map String.toList)

/-- No script is written, or one that starts what it should. -/
def Renders (exe config : OsPath) (svc : String) : Prop :=
  ∀ script, renderInitd exe config svc = .ok script → ∃ e c, exe.toStr = some e ∧
    config.toStr = some c ∧ Runs e c script

/-- An executable that is assigned as it is: the shell reads it as one word without operators, and
expands nothing in it. -/
structure Assigned (exe : String) : Prop where
  nonempty : exe ≠ ""
  known : '\x00' ∉ exe.toList
  bare : exe.toList.any isWhitespace = false →
    (∀ c ∈ exe.toList, isPlain c = true) ∧ Inert exe.toList ∧ Homeless true true exe.toList

/-- A configuration that is one argument: nothing in it is expanded between double quotes, and it
is a word when the value is read again, with the single quotes that white space gives it. -/
structure Passed (config : String) : Prop where
  known : '\x00' ∉ config.toList
  inert : Inert config.toList
  bare : config.toList.any isWhitespace = false → BareWord config.toList
  quoted : config.toList.any isWhitespace = true → Unmatched config.toList ∧ Spaced config.toList

section Command

variable {host : Host} {exe config svc : String} {role : ServiceRole} {name : String}

theorem fresh_after (svc : String) :
    (∀ s ∈ setAfter svc, s.1 ≠ command) ∧ ∀ s ∈ setAfter svc, s.1 ≠ args := by
  simp only [setAfter, List.forall_mem_cons]
  decide

theorem fixed_after (literal : Literal svc.toList) :
    ∀ s ∈ setBefore ++ setAfter svc, Fixed s.2 := by
  have log := fixed_double (literal_logPath literal).inert
  simp only [setBefore, setAfter, List.forall_mem_append, List.forall_mem_cons]
  refine ⟨⟨fixed_double ?_, by simp⟩, fixed_double ?_, fixed_double literal_iab.inert,
    fixed_bare ⟨by decide, by decide⟩ ⟨by decide, by decide⟩,
    fixed_double (literal_pidfile literal).inert,
    fixed_bare ⟨by decide, by decide⟩ ⟨by decide, by decide⟩, log, log, fixed_double ?_, by simp⟩
  all_goals exact ⟨by decide, by decide⟩

/-- The command that is assigned, where expansions give nothing. -/
theorem assigned_of_odd {value : List Piece}
    (expands : expand .odd true true 0 (commandPieces exe) = some value) (same : text value = exe.toList)
    (tight : exe.toList.any isWhitespace = false) :
    Inert exe.toList ∧ Homeless true true exe.toList := by
  rw [commandPieces, if_neg (by simp [tight]), ← List.append_nil (quoted _ _)] at expands
  obtain ⟨front, rfl, -, whole⟩ := expand_odd (.inl rfl) closes_nil (fun _ => rfl) true expands
  rw [List.append_nil] at same
  obtain ⟨-, inert, homeless⟩ := whole (by rw [same])
  exact ⟨inert, homeless rfl⟩

theorem evalWords_given (host : Host) (cs : List Char) :
    evalWords host (given ++ cs) =
      (["run".toList, "--config".toList] ++ ·) <$> evalWords host cs := by
  have run : BareWord "run".toList :=
    ⟨by decide, forall_mem_of_all (by decide), by decide, ⟨by decide, by decide⟩,
      ⟨by decide, by decide⟩, by decide⟩
  have key : BareWord "--config".toList :=
    ⟨by decide, forall_mem_of_all (by decide), by decide, ⟨by decide, by decide⟩,
      ⟨by decide, by decide⟩, by decide⟩
  have text : given ++ cs = "run".toList ++ ' ' :: ("--config".toList ++ ' ' :: cs) := rfl
  rw [text, evalWords_append run, evalWords_append key]
  cases evalWords host cs <;> rfl

theorem argsPieces_quoted (blank : config.toList.any isWhitespace = true) :
    argsPieces config = .mark :: (quoted .double (given ++ ['\'']) ++
      (quoted .double config.toList ++ [.char '\'' .double, .mark])) := by
  simp [argsPieces, enclosed, embedded, blank, quoted]

theorem argsPieces_bare (tight : config.toList.any isWhitespace = false) :
    argsPieces config = .mark :: (quoted .double given ++
      (quoted .double config.toList ++ [.mark])) := by
  simp [argsPieces, enclosed, embedded, tight]

theorem literal_given : Literal given ∧ Literal (given ++ ['\'']) := by
  decide

theorem fixed_args (inert : Inert config.toList) : Fixed (argsPieces config) := by
  cases blank : config.toList.any isWhitespace with
  | true =>
    rw [argsPieces_quoted blank]
    exact fixed_around literal_given.2.unexpanded closes_single inert
  | false =>
    rw [argsPieces_bare blank]
    exact fixed_around literal_given.1.unexpanded closes_mark inert

/-- The configuration that is passed, where expansions give nothing. -/
theorem passed_of_odd {value : List Piece} (known : '\x00' ∉ config.toList)
    (quotes : '\'' ∉ config.toList ∧ '\\' ∉ config.toList ∧ '"' ∉ config.toList)
    (expands : expand .odd true true 0 (argsPieces config) = some value)
    (words : evalWords .odd (text value) =
      some ["run".toList, "--config".toList, config.toList]) : Passed config := by
  cases blank : config.toList.any isWhitespace with
  | true =>
    rw [argsPieces_quoted blank] at expands
    obtain ⟨front, same, less, whole⟩ :=
      around_odd literal_given.2.unexpanded closes_single expands
    have value_eq : text value = given ++ '\'' :: (front ++ ['\'']) := by simp [same, text]
    rw [value_eq, evalWords_given, Option.map_eq_map, Option.map_eq_some_iff] at words
    obtain ⟨last, reads, three⟩ := words
    cases three
    obtain ⟨unmatched, squeezed, -⟩ :=
      evalWords_quoted_odd (fun member => quotes.1 (less.subset member)) reads
    have bound := squeeze_length false front
    rw [← squeezed] at bound
    obtain ⟨rfl, inert⟩ := whole (Nat.le_antisymm less.length_le (by simpa using bound))
    have single := (squeeze_eq_iff _).1.mp squeezed.symm
    exact ⟨known, inert, by simp [blank], fun _ => ⟨unmatched, single⟩⟩
  | false =>
    rw [argsPieces_bare blank] at expands
    obtain ⟨front, same, less, whole⟩ := around_odd literal_given.1.unexpanded closes_mark expands
    have value_eq : text value = given ++ front := by simp [same, text]
    rw [value_eq, evalWords_given, Option.map_eq_map, Option.map_eq_some_iff] at words
    obtain ⟨last, reads, three⟩ := words
    cases three
    have tight := isTight_of_tight quotes blank
    obtain ⟨bound, word⟩ :=
      evalWords_odd (fun c member => tight c (less.subset member)) quotes.1 reads
    have length := Nat.le_antisymm less.length_le bound
    obtain ⟨rfl, inert⟩ := whole length
    exact ⟨known, inert, fun _ => (word rfl).2, by simp [blank]⟩

/-- On every host a configuration that is passed is the third argument. -/
theorem evalWords_passed (passed : Passed config) (unquoted : '\'' ∉ config.toList) :
    evalWords host (text (argsPieces config)) =
      some ["run".toList, "--config".toList, config.toList] := by
  have last : evalWords host (embedded config) = some [config.toList] := by
    unfold embedded
    cases blank : config.toList.any isWhitespace with
    | true =>
      obtain ⟨unmatched, single⟩ := passed.quoted blank
      exact evalWords_quoted passed.known unquoted unmatched single
    | false => exact evalWords_bareWord (passed.bare blank)
  rw [argsPieces, text_enclosed, evalWords_given, last]
  rfl

theorem fixed_command (assigned : Assigned exe) : Fixed (commandPieces exe) := by
  unfold commandPieces
  cases blank : exe.toList.any isWhitespace with
  | true => exact fixed_single _
  | false =>
    obtain ⟨-, inert, homeless⟩ := assigned.bare blank
    exact fixed_bare inert homeless

theorem text_command (exe : String) : text (commandPieces exe) = exe.toList := by
  unfold commandPieces
  split
  · exact text_enclosed _ _
  · exact text_quoted _ _

section Paths

variable {e c : String} (es : e.toList = embedded exe) (cs : c.toList = embedded config)
  (exeQuotes : '\'' ∉ exe.toList ∧ '\\' ∉ exe.toList ∧ '"' ∉ exe.toList)
  (configQuotes : '\'' ∉ config.toList ∧ '\\' ∉ config.toList ∧ '"' ∉ config.toList)
include es cs exeQuotes configQuotes

theorem started_settings (literal : Literal svc.toList)
    (known : '\x00' ∉ exe.toList ∧ '\x00' ∉ config.toList)
    (plain : exe.toList.any isWhitespace = false → ∀ c ∈ exe.toList, isPlain c = true)
    {values : List (List Char × List Char)}
    (evaluated : evaluate host (unlines (initLines e c svc)).toList = some values) :
    ∃ first second, expand host true true 0 (commandPieces exe) = some first ∧
      expand host true true 0 (argsPieces config) = some second ∧
      values.reverse.lookup command = some (text first) ∧
      values.reverse.lookup args = some (text second) := by
  have found := statements_settings es cs exeQuotes configQuotes literal known plain
  have apart := fresh_after svc
  have afterCommand : ∀ s ∈ (args, argsPieces config) :: setAfter svc, s.1 ≠ command := by
    rw [List.forall_mem_cons]
    exact ⟨show args ≠ command by decide, apart.1⟩
  obtain ⟨first, expands, looks⟩ := lookup_evaluate found afterCommand evaluated
  have second : settings exe config svc = (setBefore ++ [(command, commandPieces exe)]) ++
      (args, argsPieces config) :: setAfter svc := by simp [settings]
  rw [second] at found
  obtain ⟨second, expandsArgs, looksArgs⟩ := lookup_evaluate found apart.2 evaluated
  exact ⟨first, second, expands, expandsArgs, looks, looksArgs⟩

theorem runs_iff (literal : Literal svc.toList) :
    Runs exe config (unlines (initLines e c svc)) ↔ Assigned exe ∧ Passed config := by
  constructor
  · intro runs
    have odd := runs .odd
    simp only [started, Option.bind_eq_bind, Option.bind_eq_some_iff] at odd
    obtain ⟨values, evaluated, first, firsts, second, seconds, words, read, whole⟩ := odd
    split at whole
    · cases whole
    · next nonempty =>
      simp only [List.map_cons, List.map_nil, Option.some.injEq, List.cons.injEq] at whole
      obtain ⟨rfl, rfl⟩ := whole
      obtain ⟨found, reads, -⟩ := Option.bind_eq_some_iff.mp evaluated
      have known := statements_known es cs reads
      have plain := statements_plain es cs exeQuotes reads
      obtain ⟨one, other, expands, expandsArgs, looks, looksArgs⟩ :=
        started_settings es cs exeQuotes configQuotes literal known plain evaluated
      rw [show "command".toList = command from rfl, looks] at firsts
      rw [show "command_args_foreground".toList = args from rfl, looksArgs] at seconds
      cases seconds
      refine ⟨⟨fun empty => nonempty (by rw [empty]; rfl), known.1, fun tight => ?_⟩,
        passed_of_odd known.2 configQuotes expandsArgs read⟩
      exact ⟨plain tight, assigned_of_odd expands (Option.some.inj firsts) tight⟩
  · rintro ⟨assigned, passed⟩ host
    have known := And.intro assigned.known passed.known
    have plain := fun tight => (assigned.bare tight).1
    have fixed : ∀ s ∈ settings exe config svc, Fixed s.2 := by
      have others := fixed_after literal
      simp only [settings, List.forall_mem_append, List.forall_mem_cons] at others ⊢
      exact ⟨others.1, fixed_command assigned, fixed_args passed.inert, others.2⟩
    have evaluated := evaluate_fixed host
      (statements_settings es cs exeQuotes configQuotes literal known plain) fixed
    obtain ⟨one, other, expands, expandsArgs, looks, looksArgs⟩ :=
      started_settings es cs exeQuotes configQuotes literal known plain evaluated
    rw [fixed_command assigned host] at expands
    rw [fixed_args passed.inert host] at expandsArgs
    cases expands
    cases expandsArgs
    have nonempty : exe.toList ≠ [] := fun empty =>
      assigned.nonempty (String.toList_eq_nil_iff.mp empty)
    unfold started
    simp only [Option.bind_eq_bind]
    rw [evaluated, Option.bind_some, show "command".toList = command from rfl, looks,
      Option.bind_some, show "command_args_foreground".toList = args from rfl, looksArgs,
      Option.bind_some, evalWords_passed passed configQuotes.1, Option.bind_some, text_command,
      if_neg nonempty]
    rfl

end Paths

theorem renderInitd_ok {exe config : OsPath} {script : String} :
    renderInitd exe config svc = .ok script ↔ ∃ e c, shellQuote exe = .ok e ∧
      shellQuote config = .ok c ∧ script = unlines (initLines e c svc) := by
  unfold renderInitd
  cases shellQuote exe with
  | error _ => simp [bind, Except.bind]
  | ok e =>
    cases shellQuote config with
    | error _ => simp [bind, Except.bind]
    | ok c => simp [bind, Except.bind, pure, Except.pure, eq_comm]

/-- A script runs the intended command on every host exactly when its paths are rejected or stand
for themselves where they are written. -/
theorem initd_renders_iff (exe config : OsPath) (valid : validateServiceName name = .ok ()) :
    Renders exe config (serviceName role name) ↔
      ((∃ script, renderInitd exe config (serviceName role name) = .ok script) →
        ∃ e c, exe.toStr = some e ∧ config.toStr = some c ∧ Assigned e ∧ Passed c) := by
  have literal : Literal (serviceName role name).toList := literal_serviceName valid
  constructor
  · rintro renders ⟨script, ok⟩
    obtain ⟨e, c, exeText, configText, runs⟩ := renders script ok
    obtain ⟨a, b, exeArg, configArg, rfl⟩ := renderInitd_ok.mp ok
    obtain ⟨e', exeText', exeQuotes, es⟩ := shellQuote_ok exeArg
    obtain ⟨c', configText', configQuotes, cs⟩ := shellQuote_ok configArg
    cases exeText.symm.trans exeText'
    cases configText.symm.trans configText'
    exact ⟨e, c, exeText, configText, (runs_iff es cs exeQuotes configQuotes literal).mp runs⟩
  · intro passes script ok
    obtain ⟨e, c, exeText, configText, both⟩ := passes ⟨script, ok⟩
    obtain ⟨a, b, exeArg, configArg, rfl⟩ := renderInitd_ok.mp ok
    obtain ⟨e', exeText', exeQuotes, es⟩ := shellQuote_ok exeArg
    obtain ⟨c', configText', configQuotes, cs⟩ := shellQuote_ok configArg
    cases exeText.symm.trans exeText'
    cases configText.symm.trans configText'
    exact ⟨e, c, exeText, configText, (runs_iff es cs exeQuotes configQuotes literal).mpr both⟩

/-- Paths without special characters are run as they are. -/
theorem plain_renders : Renders (.utf8 "/usr/local/lib/rathole-x/rathole-x")
    (.utf8 "/etc/rathole-x/home.toml") (serviceName .client "home") := by
  refine (initd_renders_iff _ _ (by decide)).mpr fun _ => ⟨_, _, rfl, rfl, ?_, ?_⟩
  · exact ⟨by decide, by decide, fun _ =>
      ⟨forall_mem_of_all (by decide), ⟨by decide, by decide⟩, ⟨by decide, by decide⟩⟩⟩
  · exact ⟨by decide, ⟨by decide, by decide⟩, fun _ =>
      ⟨by decide, forall_mem_of_all (by decide), by decide,
      ⟨by decide, by decide⟩,
      ⟨by decide, by decide⟩, by decide⟩,
      fun blank => absurd blank (by decide)⟩

/-- A command in the path of a configuration is run when the script is read. -/
theorem dollar_not_renders : ¬ Renders (.utf8 "/usr/local/lib/rathole-x/rathole-x")
    (.utf8 "/etc/rathole-x/$(id).toml") (serviceName .client "home") := by
  intro renders
  have exeArg : shellQuote (.utf8 "/usr/local/lib/rathole-x/rathole-x") =
      .ok "/usr/local/lib/rathole-x/rathole-x" := by decide +kernel
  have configArg : shellQuote (.utf8 "/etc/rathole-x/$(id).toml") =
      .ok "/etc/rathole-x/$(id).toml" := by decide +kernel
  obtain ⟨e, c, exeText, configText, runs⟩ :=
    renders _ (renderInitd_ok.mpr ⟨_, _, exeArg, configArg, rfl⟩)
  cases exeText
  cases configText
  have literal : Literal (serviceName .client "home").toList := literal_serviceName (by decide)
  have passed := ((runs_iff (by decide) (by decide) (by decide) (by decide) literal).mp runs).2
  have dollar := passed.inert.dollar
  revert dollar
  decide

end Command

end Rathole.OpenRc
