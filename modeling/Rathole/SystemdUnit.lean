import Rathole.Text
import Rathole.UnitFile

set_option autoImplicit false

/- The systemd unit of a service, and the command that systemd reads in it. -/
namespace Rathole

def unlines : List String → String
  | [] => ""
  | line :: rest => line ++ "\n" ++ unlines rest

namespace Linux

def serviceAccount : String := "rathole-x"

def serviceGroup : String := "rathole-x"

end Linux

namespace Systemd

open Linux (serviceAccount serviceGroup)
open UnitFile
open Transduce (run run_cons run_append_of)

def execPathArg (path : OsPath) : Except String String :=
  match path.toStr with
  | none => .error s!"path {path.display} is not valid UTF-8"
  | some s =>
    if '"' ∈ s.toList ∨ '\\' ∈ s.toList then
      .error <| s!"cannot embed path `{s}` in a systemd unit; move the file to a " ++
        "path without quotes or backslashes"
    else if s.toList.any isWhitespace then .ok ("\"" ++ s ++ "\"")
    else .ok s

def unitLines (exe config : String) : List String :=
  ["[Unit]",
    "Description=rathole-x reverse proxy service (single role)",
    "After=network-online.target",
    "Wants=network-online.target",
    "",
    "[Service]",
    "Type=simple",
    s!"User={serviceAccount}",
    s!"Group={serviceGroup}",
    s!"ExecStart={exe} run --config {config}",
    "Restart=on-failure",
    "RestartSec=3",
    "LimitNOFILE=1048576",
    "NoNewPrivileges=true",
    "CapabilityBoundingSet=CAP_NET_BIND_SERVICE",
    "AmbientCapabilities=CAP_NET_BIND_SERVICE",
    "PrivateTmp=true",
    "ProtectHome=true",
    "ProtectSystem=strict",
    "",
    "[Install]",
    "WantedBy=multi-user.target"]

def renderUnit (exe config : OsPath) : Except String String := do
  let exe ← execPathArg exe
  let config ← execPathArg config
  return unlines (unitLines exe config)

/-- The directives of the template. -/
def template (execStart : String) : List Directive :=
  [⟨"Unit", "Description", "rathole-x reverse proxy service (single role)"⟩,
    ⟨"Unit", "After", "network-online.target"⟩,
    ⟨"Unit", "Wants", "network-online.target"⟩,
    ⟨"Service", "Type", "simple"⟩,
    ⟨"Service", "User", "rathole-x"⟩,
    ⟨"Service", "Group", "rathole-x"⟩,
    ⟨"Service", "ExecStart", execStart⟩,
    ⟨"Service", "Restart", "on-failure"⟩,
    ⟨"Service", "RestartSec", "3"⟩,
    ⟨"Service", "LimitNOFILE", "1048576"⟩,
    ⟨"Service", "NoNewPrivileges", "true"⟩,
    ⟨"Service", "CapabilityBoundingSet", "CAP_NET_BIND_SERVICE"⟩,
    ⟨"Service", "AmbientCapabilities", "CAP_NET_BIND_SERVICE"⟩,
    ⟨"Service", "PrivateTmp", "true"⟩,
    ⟨"Service", "ProtectHome", "true"⟩,
    ⟨"Service", "ProtectSystem", "strict"⟩,
    ⟨"Install", "WantedBy", "multi-user.target"⟩]

/-- The relay on a configuration. -/
def intended (exe config : String) : Command :=
  ⟨[], exe.toList, [exe, "run", "--config", config].map String.toList⟩

/-- The unit has the directives of the template, and starts what it should on every host. -/
def Runs (exe config unit : String) : Prop :=
  ∃ execStart, directives unit = some (template execStart) ∧
    ∀ host, commands host execStart = some [intended exe config]

/-- No unit is written, or one that starts what it should. -/
def Renders (exe config : OsPath) : Prop :=
  ∀ unit, renderUnit exe config = .ok unit → ∃ e c, exe.toStr = some e ∧ config.toStr = some c ∧
    Runs e c unit

/-- A configuration that is one word of one line. -/
structure OneWord (config : String) : Prop where
  word : config ≠ "" ∧ config ≠ ";"
  oneLine : ∀ c ∈ config.toList, isLineEnd c = false
  quoted : '\'' ∈ config.toList → config.toList.any isWhitespace = true

/-- The paths that stand for themselves in the unit: systemd takes the executable for one, the
configuration is a word, and nothing is to be expanded in either. -/
structure Readable (exe config : String) : Prop where
  executable : isExecutable exe.toList = true
  named : exe ≠ ";"
  unflagged : ∀ c, exe.toList.head? = some c → c ∉ prefixes
  literalExe : Literal exe.toList
  literalConfig : Literal config.toList
  oneWord : OneWord config

section Text

/-- A path in the unit. -/
def embedded (s : String) : List Char :=
  if s.toList.any isWhitespace then '"' :: s.toList ++ ['"'] else s.toList

theorem execPathArg_ok {path : OsPath} {arg : String} (ok : execPathArg path = .ok arg) :
    ∃ s, path.toStr = some s ∧ '"' ∉ s.toList ∧ '\\' ∉ s.toList ∧ arg.toList = embedded s := by
  unfold execPathArg at ok
  split at ok
  · cases ok
  · next s utf8 =>
    split at ok
    · cases ok
    · next plain =>
      rw [not_or] at plain
      refine ⟨s, utf8, plain.1, plain.2, ?_⟩
      unfold embedded
      split at ok
      · next blank =>
        cases ok
        rw [if_pos blank]
        simp
      · next tight =>
        cases ok
        rw [if_neg tight]

theorem lines_unlines (after : List String) {before : List String}
    (clean : ∀ line ∈ before, ∀ c ∈ line.toList, isLineEnd c = false) :
    lines (unlines (before ++ after)).toList =
      before.map String.toList ++ lines (unlines after).toList := by
  induction before with
  | nil => rfl
  | cons line before ih =>
    have text : (unlines (line :: before ++ after)).toList =
        line.toList ++ '\n' :: (unlines (before ++ after)).toList := by
      simp [unlines]
    rw [text, lines_end (clean line List.mem_cons_self) rfl,
      ih fun line member => clean line (List.mem_cons_of_mem _ member)]
    rfl

def linesBefore : List String := (unitLines "" "").take 9

def linesAfter : List String := (unitLines "" "").drop 10

theorem unitLines_eq (exe config : String) :
    unitLines exe config = linesBefore ++ s!"ExecStart={exe} run --config {config}" :: linesAfter :=
  rfl

/-- The lines of the template end where they should, and none is a comment or goes on. -/
theorem plain_template : ∀ line ∈ linesBefore ++ linesAfter,
    (∀ c ∈ line.toList, isLineEnd c = false) ∧ isComment line.toList = false ∧
      goesOn line.toList = false := by
  have each : ((linesBefore ++ linesAfter).map String.toList).all (fun line =>
      line.all (!isLineEnd ·) && !isComment line && !goesOn line) = true := by
    simp only [linesBefore, linesAfter, unitLines, serviceAccount, serviceGroup, toString,
      List.take_succ_cons, List.take_zero, List.drop_succ_cons, List.drop_zero, List.cons_append,
      List.nil_append, List.map_cons, List.map_nil, String.toList_append]
    -- The kernel takes the characters from a literal faster than from its bytes.
    repeat rw [String.toList_ofList]
    decide
  intro line member
  simpa [and_assoc] using List.all_eq_true.mp each _ (List.mem_map_of_mem member)

theorem reads_before :
    run readLine "" (linesBefore.map String.toList) = some ("Service", (template "").take 6) := by
  simp only [linesBefore, unitLines, serviceAccount, serviceGroup, toString, List.take_succ_cons,
    List.take_zero, List.map_cons, List.map_nil, String.toList_append]
  repeat rw [String.toList_ofList]
  decide

theorem reads_after :
    run readLine "Service" (linesAfter.map String.toList ++ [[]]) =
      some ("Install", (template "").drop 7) := by
  simp only [linesAfter, unitLines, List.drop_succ_cons, List.drop_zero, List.map_cons,
    List.map_nil]
  repeat rw [String.toList_ofList]
  decide

/-- What is written behind `ExecStart=`. -/
def written (exe config : String) : List Char :=
  embedded exe ++ (" run --config".toList ++ ' ' :: embedded config)

/-- What of it is on the line. -/
def onLine (exe config : String) : List Char :=
  (written exe config).takeWhile fun c => !isLineEnd c

variable {exe config : String}

/-- Whatever the paths are, the unit begins as the template does, up to the value of `ExecStart`. -/
theorem lines_unit {e c : String} (es : e.toList = embedded exe) (cs : c.toList = embedded config) :
    ∃ more, lines (unlines (unitLines e c)).toList = linesBefore.map String.toList ++
        ("ExecStart".toList ++ '=' :: onLine exe config) :: more ∧
      ((∀ c ∈ written exe config, isLineEnd c = false) →
        more = linesAfter.map String.toList ++ [[]]) := by
  have split := lines_unlines (s!"ExecStart={e} run --config {c}" :: linesAfter)
    fun line member => (plain_template line (List.mem_append_left _ member)).1
  have key : ∀ c ∈ "ExecStart=".toList, isLineEnd c = false :=
    forall_mem_of_all (by decide)
  have text : (unlines (s!"ExecStart={e} run --config {c}" :: linesAfter)).toList =
      "ExecStart=".toList ++ (written exe config ++ '\n' :: (unlines linesAfter).toList) := by
    simp [unlines, written, es, cs, toString]
  rw [unitLines_eq, split, text, lines_append key]
  obtain ⟨more, first, whole⟩ := lines_first (c := '\n') rfl (written exe config)
    (unlines linesAfter).toList
  refine ⟨more, by rw [first]; rfl, fun clean => ?_⟩
  have after := lines_unlines [] fun line (member : line ∈ linesAfter) =>
    (plain_template line (List.mem_append_right _ member)).1
  rw [List.append_nil] at after
  rw [whole clean, after]
  rfl

/-- The value that systemd reads for `ExecStart`. -/
def execStart (exe config : String) : List Char := strip ((onLine exe config).rdropWhile isBlank)

theorem directives_unit {e c : String} (es : e.toList = embedded exe)
    (cs : c.toList = embedded config) (plain : '\\' ∉ onLine exe config) :
    ∃ rest : Option (String × List Directive), directives (unlines (unitLines e c)) =
        rest.map (fun r => (template "").take 6 ++
          ⟨"Service", "ExecStart", String.ofList (execStart exe config)⟩ :: r.2) ∧
      ((∀ c ∈ written exe config, isLineEnd c = false) →
        rest = some ("Install", (template "").drop 7)) := by
  obtain ⟨more, lines, whole⟩ := lines_unit es cs
  have before : ∀ line ∈ linesBefore.map String.toList,
      isComment line = false ∧ goesOn line = false := by
    intro line member
    obtain ⟨text, listed, rfl⟩ := List.mem_map.mp member
    exact (plain_template text (List.mem_append_left _ listed)).2
  have after : ∀ line ∈ linesAfter.map String.toList,
      isComment line = false ∧ goesOn line = false := by
    intro line member
    obtain ⟨text, listed, rfl⟩ := List.mem_map.mp member
    exact (plain_template text (List.mem_append_right _ listed)).2
  have ends : goesOn ("ExecStart".toList ++ '=' :: onLine exe config) = false := by
    apply goesOn_of_plain
    rw [List.mem_append, List.mem_cons, not_or, not_or]
    exact ⟨by decide, by decide, plain⟩
  have value : readLine "Service" ("ExecStart".toList ++ '=' :: onLine exe config) = some
      ("Service", [⟨"Service", "ExecStart", String.ofList (execStart exe config)⟩]) :=
    readLine_value (by decide) (by decide) (by decide)
  refine ⟨run readLine "Service" (logical [] more), ?_, fun clean => ?_⟩
  · unfold directives
    rw [lines, logical_append before, logical_line rfl ends, run_append_of reads_before,
      run_cons value]
    cases run readLine "Service" (logical [] more) <;> rfl
  · rw [whole clean, logical_append after]
    exact reads_after

end Text

section Words

variable {exe config : String}

theorem isWhitespace_of_isBlank {c : Char} (blank : isBlank c = true) : isWhitespace c = true := by
  simp only [isBlank, decide_eq_true_eq] at blank
  rcases blank with rfl | rfl | rfl | rfl <;> decide

theorem isBlank_of_tight (tight : config.toList.any isWhitespace = false) :
    ∀ c ∈ config.toList, isBlank c = false := by
  intro c member
  rw [List.any_eq_false] at tight
  exact Bool.eq_false_iff.mpr fun blank => tight c member (isWhitespace_of_isBlank blank)

/-- The line behind `--config`. -/
def behind (config : String) : List Char :=
  (' ' :: (embedded config).takeWhile fun c => !isLineEnd c).rdropWhile isBlank

theorem behind_quoted (blank : config.toList.any isWhitespace = true)
    (clean : ∀ c ∈ config.toList, isLineEnd c = false) :
    behind config = ' ' :: '"' :: (config.toList ++ ['"']) := by
  have whole : (embedded config).takeWhile (fun c => !isLineEnd c) = embedded config := by
    rw [List.takeWhile_eq_self_iff, embedded, if_pos blank]
    intro c member
    simp only [List.cons_append, List.mem_cons, List.mem_append, List.not_mem_nil, or_false]
      at member
    rcases member with rfl | inside | rfl
    · decide
    · simp [clean c inside]
    · decide
  have ends := rdropWhile_append (' ' :: '"' :: config.toList)
    (show isBlank '"' = false by rfl) []
  rw [behind, whole, embedded, if_pos blank]
  simpa using ends

/-- A quoted configuration that is cut has no closing quote. -/
theorem behind_cut (blank : config.toList.any isWhitespace = true) (plain : '"' ∉ config.toList)
    (cut : ¬ ∀ c ∈ config.toList, isLineEnd c = false) :
    ∃ text, behind config = ' ' :: '"' :: text ∧ '"' ∉ text := by
  have short : (embedded config).takeWhile (fun c => !isLineEnd c) =
      '"' :: config.toList.takeWhile fun c => !isLineEnd c := by
    rw [embedded, if_pos blank, List.cons_append, List.takeWhile_cons_of_pos (by decide),
      List.takeWhile_append, if_neg]
    intro whole
    refine cut fun c member => ?_
    have same := List.takeWhile_eq_self_iff.mp
      ((List.takeWhile_prefix _).eq_of_length whole) c member
    simpa using same
  have ends := rdropWhile_append [' '] (show isBlank '"' = false by rfl)
    (config.toList.takeWhile fun c => !isLineEnd c)
  refine ⟨_, by rw [behind, short]; exact ends, fun member => plain ?_⟩
  exact (List.takeWhile_prefix _).subset ((List.rdropWhile_prefix _ _).subset member)

/-- A configuration without white space is on the line up to the first end in it. -/
theorem behind_tight (tight : config.toList.any isWhitespace = false) :
    behind config =
      if (config.toList.takeWhile fun c => !isLineEnd c) = [] then []
      else ' ' :: config.toList.takeWhile fun c => !isLineEnd c := by
  have plain := isBlank_of_tight tight
  have bare : embedded config = config.toList := if_neg (by simp [tight])
  rw [behind, bare]
  generalize part : (config.toList.takeWhile fun c => !isLineEnd c) = text
  have inside : ∀ c ∈ text, isBlank c = false := by
    intro c member
    rw [← part] at member
    exact plain c ((List.takeWhile_prefix _).subset member)
  rcases List.eq_nil_or_concat text with rfl | ⟨front, last, rfl⟩
  · rfl
  · have kept := rdropWhile_append (' ' :: front) (inside last (by simp)) []
    simpa using kept

/-- What the rest of the line reads as, once `--config` is a word. -/
theorem scan_behind {read : List Token} (plain : '"' ∉ config.toList)
    (reads : scan false (some "--config".toList) none ((behind config).map .plain) = some read) :
    ∃ rest, read = .word "--config".toList :: rest ∧ (rest = [] ∨ rest = [.semicolon] ∨
      ∃ w, rest = [.word w] ∧ w.length ≤ config.toList.length ∧
        (w.length = config.toList.length → w = config.toList ∧ OneWord config)) := by
  cases blank : config.toList.any isWhitespace with
  | true =>
    by_cases clean : ∀ c ∈ config.toList, isLineEnd c = false
    · have text : (behind config).map Cell.plain = .plain ' ' :: .plain '"' ::
          (config.toList.map .plain ++ .plain '"' :: []) := by
        rw [behind_quoted blank clean]
        simp
      rw [text, scan_blank, scan_open _ (.inl rfl), scan_quoted plain] at reads
      simp [scan] at reads
      refine ⟨_, reads.symm, .inr (.inr ⟨_, rfl, Nat.le_refl _, fun _ => ⟨rfl, ?_, clean, ?_⟩⟩)⟩
      · constructor <;> rintro rfl <;> exact absurd blank (by decide)
      · exact fun _ => blank
    · obtain ⟨text, cut, open_⟩ := behind_cut blank plain clean
      rw [cut, List.map_cons, List.map_cons, scan_blank, scan_open _ (.inl rfl),
        scan_unclosed open_] at reads
      cases reads
  | false =>
    rw [behind_tight blank] at reads
    split at reads
    · cases reads
      exact ⟨[], rfl, .inl rfl⟩
    · next short =>
      rw [List.map_cons, scan_blank, Option.map_eq_map, Option.map_eq_some_iff] at reads
      obtain ⟨rest, rests, rfl⟩ := reads
      have tight : ∀ c ∈ config.toList.takeWhile (fun c => !isLineEnd c),
          isBlank c = false ∧ c ≠ '"' := by
        intro c member
        have inside := (List.takeWhile_prefix _).subset member
        exact ⟨isBlank_of_tight blank c inside, fun quote => plain (quote ▸ inside)⟩
      refine ⟨rest, rfl, ?_⟩
      rcases scan_tight tight short rests with ⟨-, separates⟩ | ⟨apart, reads⟩
      · exact .inr (.inl separates)
      · have fewer := List.length_filter_le (fun c => decide (c ≠ '\''))
          (config.toList.takeWhile fun c => !isLineEnd c)
        have shorter := (List.takeWhile_prefix (l := config.toList)
          fun c => !isLineEnd c).length_le
        refine .inr (.inr ⟨_, reads, by omega, fun length => ?_⟩)
        have whole := (List.takeWhile_prefix _).eq_of_length
          (show (config.toList.takeWhile fun c => !isLineEnd c).length = _ by omega)
        rw [whole] at length apart short ⊢
        have unquoted := List.length_filter_eq_length_iff.mp length
        refine ⟨List.filter_eq_self.mpr unquoted, ⟨?_, ?_⟩, ?_, fun quote => ?_⟩
        · rintro rfl
          exact short rfl
        · rintro rfl
          exact apart rfl
        · intro c member
          have kept := List.takeWhile_eq_self_iff.mp whole c member
          simpa using kept
        · exact absurd rfl (of_decide_eq_true (unquoted _ quote))

theorem not_mem_embedded {s : String} (plain : '\\' ∉ s.toList) : '\\' ∉ embedded s := by
  unfold embedded
  split
  · simpa using plain
  · exact plain

theorem isLineEnd_embedded {s : String} (clean : ∀ c ∈ s.toList, isLineEnd c = false) :
    ∀ c ∈ embedded s, isLineEnd c = false := by
  intro c member
  unfold embedded at member
  split at member
  · simp only [List.cons_append, List.mem_cons, List.mem_append, List.not_mem_nil, or_false]
      at member
    rcases member with rfl | inside | rfl
    · rfl
    · exact clean c inside
    · rfl
  · exact clean c member

/-- What systemd takes for an executable can be written into the unit. -/
structure Usable (exe : String) : Prop where
  nonempty : exe.toList ≠ []
  safe : ∀ c ∈ exe.toList, isSafe c = true

theorem isSafe_plain {c : Char} (safe : isSafe c = true) :
    isLineEnd c = false ∧ c ≠ '"' ∧ c ≠ '\'' ∧ c ≠ '\\' := by
  obtain ⟨printed, apart⟩ := isSafe_iff.mp safe
  simp only [List.mem_cons, List.not_mem_nil, or_false, not_or] at apart
  refine ⟨?_, apart.1, apart.2.1, apart.2.2.1⟩
  rw [Bool.eq_false_iff]
  intro ends
  simp only [isLineEnd, decide_eq_true_eq] at ends
  rcases ends with rfl | rfl | rfl <;> exact absurd printed (by decide)

/-- No path begins with a blank in the unit. -/
theorem embedded_begins (usable : Usable exe) : ∃ first rest, embedded exe = first :: rest ∧
    isBlank first = false := by
  unfold embedded
  split
  · exact ⟨'"', _, rfl, rfl⟩
  · next tight =>
    have plain := isBlank_of_tight (Bool.not_eq_true _ ▸ tight)
    cases letters : exe.toList with
    | nil => exact absurd letters usable.nonempty
    | cons c rest => exact ⟨c, rest, rfl, plain c (letters ▸ List.mem_cons_self)⟩

theorem execStart_eq (usable : Usable exe) : execStart exe config =
    embedded exe ++ (" run --config".toList ++ behind config) := by
  obtain ⟨first, rest, begins, plain⟩ := embedded_begins usable
  have clean : ∀ c ∈ embedded exe, (!isLineEnd c) = true := by
    intro c member
    have safe := fun c member => (isSafe_plain (usable.safe c member)).1
    simp [isLineEnd_embedded safe c member]
  have line : onLine exe config = first :: (rest ++ " run --confi".toList) ++
      'g' :: (' ' :: (embedded config).takeWhile fun c => !isLineEnd c) := by
    have key : ∀ c ∈ " run --config".toList, (!isLineEnd c) = true :=
      forall_mem_of_all (by decide)
    rw [onLine, written, List.takeWhile_append_of_pos clean, List.takeWhile_append_of_pos key,
      List.takeWhile_cons_of_pos (by decide), begins]
    simp
  rw [execStart, line, rdropWhile_append _ (by decide), strip_append plain (by decide),
    ← behind, behind, List.rdropWhile_idempotent, begins]
  simp

theorem scan_embedded (usable : Usable exe) (cells : List Cell) :
    scan true none none ((embedded exe).map .plain ++ .plain ' ' :: cells) =
      (.word exe.toList :: ·) <$> scan false none none cells := by
  unfold embedded
  split
  · next blank =>
    have inside : '"' ∉ exe.toList := fun quote => (isSafe_plain (usable.safe _ quote)).2.1 rfl
    have text : List.map Cell.plain ('"' :: exe.toList ++ ['"']) ++ .plain ' ' :: cells =
        .plain '"' :: (exe.toList.map .plain ++ .plain '"' :: .plain ' ' :: cells) := by simp
    rw [text, scan_open _ (.inl rfl), scan_quoted inside, scan_blank]
    rfl
  · next tight =>
    have ordinary : ∀ c ∈ exe.toList, isOrdinary c = true := by
      intro c member
      have plain := isSafe_plain (usable.safe c member)
      have blank := isBlank_of_tight (Bool.not_eq_true _ ▸ tight) c member
      simp [isOrdinary, blank, plain.2.1, plain.2.2.1]
    cases letters : exe.toList with
    | nil => exact absurd letters usable.nonempty
    | cons c rest =>
      rw [letters] at ordinary
      rw [List.map_cons, List.cons_append, scan_start (ordinary c List.mem_cons_self) (.inl rfl),
        scan_ordinary fun c member => ordinary c (List.mem_cons_of_mem _ member), scan_blank]
      rfl

theorem tokens_execStart (usable : Usable exe) (plain : '\\' ∉ config.toList) :
    tokens (execStart exe config) =
      (fun read => .word exe.toList :: .word "run".toList :: read) <$>
        scan false (some "--config".toList) none ((behind config).map .plain) := by
  have inside : '\\' ∉ embedded exe := not_mem_embedded fun member =>
    (isSafe_plain (usable.safe _ member)).2.2.2 rfl
  have after : '\\' ∉ behind config := by
    intro member
    have line := (List.rdropWhile_prefix _ _).subset member
    rw [List.mem_cons] at line
    rcases line with blank | cut
    · exact absurd blank (by decide)
    · exact not_mem_embedded plain ((List.takeWhile_prefix _).subset cut)
  have unescaped : '\\' ∉ embedded exe ++ (" run --config".toList ++ behind config) := by
    rw [List.mem_append, List.mem_append, not_or, not_or]
    exact ⟨inside, by decide, after⟩
  have split : (embedded exe ++ (" run --config".toList ++ behind config)).map Cell.plain =
      (embedded exe).map .plain ++ .plain ' ' ::
        ("run --config".toList.map .plain ++ (behind config).map .plain) := by
    simp
  have words (cells : List Cell) :
      scan false none none ("run --config".toList.map .plain ++ cells) =
        (.word "run".toList :: ·) <$> scan false (some "--config".toList) none cells := rfl
  rw [UnitFile.tokens, execStart_eq usable, unescape_plain unescaped, Option.bind_some, split,
    scan_embedded usable, words]
  cases scan false (some "--config".toList) none ((behind config).map .plain) <;> rfl

/-- A configuration that is one word is read as it is. -/
theorem scan_oneWord (oneWord : OneWord config) (plain : '"' ∉ config.toList) :
    scan false (some "--config".toList) none ((behind config).map .plain) =
      some [.word "--config".toList, .word config.toList] := by
  cases blank : config.toList.any isWhitespace with
  | true =>
    have text : (behind config).map Cell.plain = .plain ' ' :: .plain '"' ::
        (config.toList.map .plain ++ .plain '"' :: []) := by
      rw [behind_quoted blank oneWord.oneLine]
      simp
    rw [text, scan_blank, scan_open _ (.inl rfl), scan_quoted plain]
    rfl
  | false =>
    have whole : (config.toList.takeWhile fun c => !isLineEnd c) = config.toList := by
      rw [List.takeWhile_eq_self_iff]
      intro c member
      simp [oneWord.oneLine c member]
    have ordinary : ∀ c ∈ config.toList, isOrdinary c = true := by
      intro c member
      have other : c ≠ '"' := fun quote => plain (quote ▸ member)
      have single : c ≠ '\'' := by
        rintro rfl
        rw [oneWord.quoted member] at blank
        cases blank
      simp [isOrdinary, isBlank_of_tight blank c member, other, single]
    cases letters : config.toList with
    | nil => exact absurd (String.toList_eq_nil_iff.mp letters) oneWord.word.1
    | cons first rest =>
      have behind_eq : behind config = ' ' :: first :: rest := by
        rw [behind_tight blank, whole, letters, if_neg (List.cons_ne_nil _ _)]
      rw [letters] at ordinary
      have begins : false = true ∨ first ≠ ';' ∨ ∃ next more, isBlank next = false ∧
          rest.map Cell.plain ++ [] = .plain next :: more := by
        cases rest with
        | nil =>
          refine .inr (.inl fun semicolon => oneWord.word.2 ?_)
          rw [← String.toList_inj, letters, semicolon]
          rfl
        | cons next rest =>
          have tight := isBlank_of_tight blank next (by rw [letters]; simp)
          exact .inr (.inr ⟨next, _, tight, rfl⟩)
      rw [behind_eq, List.map_cons, List.map_cons, scan_blank, ← List.append_nil (rest.map _),
        scan_start (ordinary first List.mem_cons_self) begins,
        scan_ordinary fun c member => ordinary c (List.mem_cons_of_mem _ member)]
      rfl

end Words

section Commands

variable {exe config : String}

/-- The first and the last of four words, where each stands for one at most. -/
theorem ends_of_four {front last : List (List Char)} {a b c d : List Char} (one : front.length ≤ 1)
    (most : last.length ≤ 1) (four : [a, b, c, d] = front ++ (b :: c :: last)) :
    front = [a] ∧ last = [d] := by
  cases front with
  | nil =>
    have lengths := congrArg List.length four
    simp only [List.length_cons, List.length_nil, List.nil_append] at lengths
    omega
  | cons first front =>
    cases front with
    | nil =>
      obtain ⟨same, rest⟩ := List.cons.inj four
      exact ⟨by rw [same], (List.cons.inj (List.cons.inj rest).2).2.symm⟩
    | cons second front =>
      simp only [List.length_cons] at one
      omega

/-- Where nothing is known, a command of two literal words between the executable and its argument
has the argument as its last word. -/
theorem last_of_command {exe run key config : List Char} {words : List (List Char)}
    (literal : Literal run ∧ Literal key) (most : words.length ≤ 1)
    (made : command .bare (exe :: run :: key :: words) =
      some ⟨[], exe, [exe, run, key, config]⟩) :
    Literal exe ∧ (∀ f, exe.head? = some f → f ∉ prefixes) ∧ isExecutable exe = true ∧
      ∃ w r, words = [w] ∧ resolve .bare false w = some r ∧ config ∈ expand .bare r := by
  obtain ⟨resolved, unflagged, executable, args, mapped, argv⟩ := command_unflagged made rfl
  rw [List.mapM_cons, literal.1.specifier.resolve, List.mapM_cons,
    literal.2.specifier.resolve] at mapped
  simp only [Option.bind_eq_bind, Option.bind_some, Option.pure_def, Option.bind_eq_some_iff,
    Option.some.injEq] at mapped
  obtain ⟨_, ⟨last, lasts, rfl⟩, rfl⟩ := mapped
  simp only [List.flatMap_cons, literal.1.expand, literal.2.expand] at argv
  have one := expand_bare_length exe
  cases words with
  | nil =>
    cases lasts
    have few : (List.flatMap (expand .bare) []).length ≤ 1 := Nat.zero_le 1
    cases (ends_of_four one few argv).2
  | cons w words =>
    cases words with
    | cons other words =>
      simp only [List.length_cons] at most
      omega
    | nil =>
      rw [List.mapM_cons] at lasts
      simp only [List.mapM_nil, Option.bind_eq_bind, Option.bind_some, Option.pure_def,
        Option.bind_eq_some_iff, Option.some.injEq] at lasts
      obtain ⟨r, resolves, rfl⟩ := lasts
      simp only [List.flatMap_cons, List.flatMap_nil, List.append_nil] at argv
      obtain ⟨exes, configs⟩ := ends_of_four one (expand_bare_length r) argv
      refine ⟨literal_of_bare resolved ?_, unflagged, executable, w, r, rfl, resolves, ?_⟩
      · rw [exes]
        exact List.mem_singleton_self _
      · rw [configs]
        exact List.mem_singleton_self _

theorem literal_template : Literal "run".toList ∧ Literal "--config".toList :=
  ⟨literal_of_bare rfl (by decide), literal_of_bare rfl (by decide)⟩

theorem runs_iff {e c : String} (es : e.toList = embedded exe) (cs : c.toList = embedded config)
    (plainExe : '\\' ∉ exe.toList) (plain : '"' ∉ config.toList ∧ '\\' ∉ config.toList) :
    Runs exe config (unlines (unitLines e c)) ↔ Readable exe config := by
  have inside : '\\' ∉ onLine exe config := by
    intro member
    have all := (List.takeWhile_prefix _).subset member
    simp only [written, List.mem_append, List.mem_cons] at all
    rcases all with first | key | blank | last
    · exact not_mem_embedded plainExe first
    · exact absurd key (by decide)
    · exact absurd blank (by decide)
    · exact not_mem_embedded plain.2 last
  obtain ⟨rest, directives, whole⟩ := directives_unit es cs inside
  constructor
  · rintro ⟨value, reads, runs⟩
    rw [directives, Option.map_eq_some_iff] at reads
    obtain ⟨after, -, same⟩ := reads
    have value_eq : value = String.ofList (execStart exe config) := by
      have seventh := congrArg (fun l => l[6]?) same
      simp [template] at seventh
      exact seventh.symm
    obtain ⟨read, group, tokenized, grouped, made⟩ := commands_single (runs .bare)
    rw [value_eq, String.toList_ofList] at tokenized
    have usable : Usable exe := by
      have executable := executable_of_command made
      obtain ⟨nonempty, safe⟩ := safe_of_executable executable
      exact ⟨nonempty, safe⟩
    rw [tokens_execStart usable plain.2, Option.map_eq_map, Option.map_eq_some_iff] at tokenized
    obtain ⟨more, scanned, rfl⟩ := tokenized
    obtain ⟨rest, rfl, shape⟩ := scan_behind plain.1 scanned
    have named : exe.toList ≠ [';'] := by
      intro semicolon
      rw [semicolon, groups_semicolon, groups_word (.inr (by decide)),
        groups_word (.inl (by simp))] at grouped
      obtain ⟨words, rfl, -⟩ := groups_last (by simp) shape grouped
      have resolved := (command_unflagged made rfl).1
      rw [literal_template.1.specifier.resolve, Option.some.injEq] at resolved
      cases resolved.trans semicolon
    rw [groups_word (.inr named), groups_word (.inl (by simp)),
      groups_word (.inl (by simp))] at grouped
    obtain ⟨words, rfl, most, last⟩ := groups_last (by simp) shape grouped
    obtain ⟨literal, unflagged, executable, w, r, rfl, resolves, member⟩ :=
      last_of_command literal_template most made
    obtain ⟨short, word⟩ := last w rfl
    have lengths := bare_length resolves member
    obtain ⟨rfl, oneWord⟩ := word (by omega)
    exact ⟨executable, fun same => named (by rw [same]; rfl), unflagged, literal, literal_of_bare resolves member, oneWord⟩
  · intro readable
    have usable : Usable exe := by
      obtain ⟨nonempty, safe⟩ := safe_of_executable readable.executable
      exact ⟨nonempty, safe⟩
    have clean : ∀ c ∈ written exe config, isLineEnd c = false := by
      intro c member
      simp only [written, List.mem_append, List.mem_cons] at member
      rcases member with first | key | rfl | last
      · exact isLineEnd_embedded (fun c member => (isSafe_plain (usable.safe c member)).1) c first
      · have ends : ∀ c ∈ " run --config".toList, isLineEnd c = false :=
          forall_mem_of_all (by decide)
        exact ends c key
      · rfl
      · exact isLineEnd_embedded readable.oneWord.oneLine c last
    refine ⟨String.ofList (execStart exe config), ?_, fun host => ?_⟩
    · rw [directives, whole clean]
      rfl
    · unfold commands
      rw [String.toList_ofList, tokens_execStart usable plain.2,
        scan_oneWord readable.oneWord plain.1]
      have literal : ∀ w ∈ [exe, "run", "--config", config].map String.toList, Literal w := by
        simp only [List.map_cons, List.map_nil, List.forall_mem_cons, List.not_mem_nil,
          false_implies, implies_true, and_true]
        exact ⟨readable.literalExe, literal_template.1, literal_template.2,
          readable.literalConfig⟩
      have made : command host ([exe, "run", "--config", config].map String.toList) = _ :=
        command_literal readable.executable readable.unflagged literal
      have named : exe.toList ≠ [';'] := fun same =>
        readable.named (String.toList_inj.mp same)
      show (groups [] ([exe, "run", "--config", config].map fun w => .word w.toList)).mapM
        (command host) = _
      rw [List.map_cons, groups_word (.inr named)]
      show [[exe, "run", "--config", config].map String.toList].mapM (command host) = _
      rw [List.mapM_cons, made]
      rfl

theorem renderUnit_ok {exe config : OsPath} {unit : String} :
    renderUnit exe config = .ok unit ↔ ∃ e c, execPathArg exe = .ok e ∧
      execPathArg config = .ok c ∧ unit = unlines (unitLines e c) := by
  unfold renderUnit
  cases execPathArg exe with
  | error _ => simp [bind, Except.bind]
  | ok e =>
    cases execPathArg config with
    | error _ => simp [bind, Except.bind]
    | ok c => simp [bind, Except.bind, pure, Except.pure, eq_comm]

/-- A unit starts what it should on every host exactly when its paths are rejected or stand for
themselves. -/
theorem renders_iff (exe config : OsPath) :
    Renders exe config ↔ ((∃ unit, renderUnit exe config = .ok unit) →
      ∃ e c, exe.toStr = some e ∧ config.toStr = some c ∧ Readable e c) := by
  constructor
  · rintro renders ⟨unit, ok⟩
    obtain ⟨e, c, exeText, configText, runs⟩ := renders unit ok
    obtain ⟨a, b, exeArg, configArg, rfl⟩ := renderUnit_ok.mp ok
    obtain ⟨e', exeText', -, plainExe, es⟩ := execPathArg_ok exeArg
    obtain ⟨c', configText', quote, backslash, cs⟩ := execPathArg_ok configArg
    cases exeText.symm.trans exeText'
    cases configText.symm.trans configText'
    exact ⟨e, c, exeText, configText, (runs_iff es cs plainExe ⟨quote, backslash⟩).mp runs⟩
  · intro readable unit ok
    obtain ⟨e, c, exeText, configText, reads⟩ := readable ⟨unit, ok⟩
    obtain ⟨a, b, exeArg, configArg, rfl⟩ := renderUnit_ok.mp ok
    obtain ⟨e', exeText', -, plainExe, es⟩ := execPathArg_ok exeArg
    obtain ⟨c', configText', quote, backslash, cs⟩ := execPathArg_ok configArg
    cases exeText.symm.trans exeText'
    cases configText.symm.trans configText'
    exact ⟨e, c, exeText, configText, (runs_iff es cs plainExe ⟨quote, backslash⟩).mpr reads⟩

/-- A percent sign in the path of a configuration is read as a specifier. -/
theorem percent_not_renders : ¬ Renders (.utf8 "/usr/local/lib/rathole-x/rathole-x")
    (.utf8 "/etc/rathole-x/50%off.toml") := by
  intro renders
  have exeArg : execPathArg (.utf8 "/usr/local/lib/rathole-x/rathole-x") =
      .ok "/usr/local/lib/rathole-x/rathole-x" := by decide +kernel
  have configArg : execPathArg (.utf8 "/etc/rathole-x/50%off.toml") =
      .ok "/etc/rathole-x/50%off.toml" := by decide +kernel
  obtain ⟨e, c, exeText, configText, runs⟩ :=
    renders _ (renderUnit_ok.mpr ⟨_, _, exeArg, configArg, rfl⟩)
  cases exeText
  cases configText
  have readable := (runs_iff (by decide) (by decide) (by decide) (by decide)).mp runs
  have unresolved : resolve .bare false "/etc/rathole-x/50%off.toml".toList = none := by decide
  rw [readable.literalConfig.specifier.resolve] at unresolved
  cases unresolved

end Commands

end Systemd

end Rathole
