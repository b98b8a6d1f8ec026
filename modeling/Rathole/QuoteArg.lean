import Mathlib.Data.List.TakeWhile
import Rathole.Argv
import Rathole.Text

set_option autoImplicit false

/- The command line that a process writes for its elevated copy, and the arguments that the copy
reads from it. -/
namespace Rathole.Windows

open Argv (slashes split blank Ends Word)

/-- The loop over the characters of an argument, with the backslashes that are not yet written. -/
def quoteLoop : Nat → List Char → List Char
  | backslashes, [] => slashes (backslashes * 2)
  | backslashes, c :: cs =>
    if c = '\\' then quoteLoop (backslashes + 1) cs
    else if c = '"' then slashes (backslashes * 2 + 1) ++ '"' :: quoteLoop 0 cs
    else slashes backslashes ++ c :: quoteLoop 0 cs

def quoteArg (arg : String) : String :=
  if arg ≠ "" ∧ ¬ arg.toList.any (fun c => c = ' ' ∨ c = '\t' ∨ c = '"') then arg
  else String.ofList ('"' :: quoteLoop 0 arg.toList ++ ['"'])

/-- The relay's own flags in `args`, the log path with the first of them, are not passed on. -/
def stripRelayFlags : List OsPath → List OsPath
  | [] => []
  | a :: rest =>
    if a = .utf8 "--elevated-log" then stripRelayFlags rest.tail
    else if a = .utf8 "--confirmed" then stripRelayFlags rest
    else a :: stripRelayFlags rest
termination_by args => args.length
decreasing_by
  all_goals simp only [List.length_tail, List.length_cons]
  all_goals omega

def commandLine (params : List String) : String := " ".intercalate (params.map quoteArg)

/-- The arguments that `relaunch_elevated_wait` has for the child. -/
def relaunchParams (args : List OsPath) (logPath : OsPath) : List OsPath :=
  stripRelayFlags args ++ [.utf8 "--elevated-log", logPath, .utf8 "--confirmed"]

/-- `lpParameters` of the relaunch, with every argument as it reads. -/
def relaunchParameters (args : List OsPath) (logPath : OsPath) : String :=
  commandLine ((relaunchParams args logPath).map OsPath.display)

/-- What the child reads of a text that a NUL ends. -/
def received (parameters : String) : List String :=
  (split none (parameters.toList.takeWhile (· ≠ '\x00'))).map String.ofList

/-- Inside the quotes the loop says the backslashes that it still owes, and then its characters. -/
theorem split_quoteLoop (n : Nat) (cs read rest : List Char) :
    split (some ⟨read, true, 0⟩) (quoteLoop n cs ++ '"' :: rest) =
      split (some ⟨read ++ slashes n ++ cs, false, 0⟩) rest := by
  induction cs generalizing n read with
  | nil =>
    rw [quoteLoop, Argv.split_slashes, Argv.split_feed (.inr rfl),
      Argv.feed_quote_even (n := n) (by simp only; omega)]
    simp
  | cons c cs ih =>
    rw [quoteLoop]
    by_cases backslash : c = '\\'
    · rw [if_pos backslash, ih, backslash, Argv.slashes_add]
      simp
    · rw [if_neg backslash]
      by_cases quote : c = '"'
      · rw [if_pos quote, List.append_assoc, Argv.split_slashes, List.cons_append,
          Argv.split_feed (.inr rfl), Argv.feed_quote_odd (n := n) (by simp only; omega), ih, quote]
        simp
      · rw [if_neg quote, List.append_assoc, Argv.split_slashes, List.cons_append,
          Argv.split_feed (.inr rfl), Argv.feed_other backslash quote, ih]
        simp

theorem split_quoteArg (arg : String) (rest : List Char) (ends : Ends rest) :
    split none ((quoteArg arg).toList ++ rest) = arg.toList :: split none rest := by
  unfold quoteArg
  split
  · next plain =>
    obtain ⟨nonempty, unmarked⟩ := plain
    have clean : ∀ c ∈ arg.toList, blank c = false ∧ c ≠ '"' := by
      intro c member
      have here : ¬ (c = ' ' ∨ c = '\t' ∨ c = '"') := fun bad =>
        unmarked (List.any_eq_true.mpr ⟨c, member, decide_eq_true bad⟩)
      simp only [not_or] at here
      simp [blank, here]
    cases chars : arg.toList with
    | nil => exact absurd (String.toList_eq_nil_iff.mp chars) nonempty
    | cons c cs =>
      rw [chars] at clean
      rw [List.cons_append, Argv.split_none (clean c List.mem_cons_self).1, ← List.cons_append,
        Argv.split_plain clean ends rfl]
      rfl
  · rw [String.toList_ofList]
    have opened : split none ('"' :: (quoteLoop 0 arg.toList ++ '"' :: rest)) =
        split (some ⟨[], true, 0⟩) (quoteLoop 0 arg.toList ++ '"' :: rest) := rfl
    simp only [List.cons_append, List.append_assoc, List.nil_append]
    rw [opened, split_quoteLoop]
    have closed : split (some ⟨arg.toList, false, 0⟩) ([] ++ rest) = _ :=
      Argv.split_plain (by simp) ends rfl
    simpa [Word.close] using closed

theorem split_joined (words : List String) :
    split none ([' '].intercalate (words.map fun arg => (quoteArg arg).toList)) =
      words.map String.toList := by
  induction words with
  | nil => rfl
  | cons arg words ih =>
    cases words with
    | nil =>
      have whole := split_quoteArg arg [] (.inl rfl)
      simpa [split] using whole
    | cons next words =>
      have rest := split_quoteArg arg (' ' :: [' '].intercalate
        ((next :: words).map fun arg => (quoteArg arg).toList)) .blank
      rw [List.map_cons, List.map_cons, List.intercalate_cons_cons, List.append_assoc]
      refine rest.trans ?_
      rw [split, if_pos (by decide), ih]
      rfl

theorem toList_commandLine (words : List String) :
    (commandLine words).toList =
      [' '].intercalate (words.map fun arg => (quoteArg arg).toList) := by
  rw [commandLine, String.toList_intercalate, List.map_map]
  rfl

theorem mem_quoteLoop {n : Nat} {cs : List Char} {c : Char} (member : c ∈ quoteLoop n cs) :
    c ∈ cs ∨ c = '\\' ∨ c = '"' := by
  induction cs generalizing n with
  | nil => exact .inr (.inl (List.eq_of_mem_replicate member))
  | cons d cs ih =>
    have below : ∀ {m}, c ∈ quoteLoop m cs → c ∈ d :: cs ∨ c = '\\' ∨ c = '"' :=
      fun inner => (ih inner).imp_left (List.mem_cons_of_mem d)
    rw [quoteLoop] at member
    split at member
    · exact below member
    · split at member
      · next quote =>
        rcases List.mem_append.mp member with owed | later
        · exact .inr (.inl (List.eq_of_mem_replicate owed))
        · rcases List.mem_cons.mp later with here | inner
          · exact .inr (.inr here)
          · exact below inner
      · rcases List.mem_append.mp member with owed | later
        · exact .inr (.inl (List.eq_of_mem_replicate owed))
        · rcases List.mem_cons.mp later with here | inner
          · exact .inl (by simp [here])
          · exact below inner

theorem mem_quoteArg {arg : String} {c : Char} (member : c ∈ (quoteArg arg).toList) :
    c ∈ arg.toList ∨ c = '\\' ∨ c = '"' := by
  unfold quoteArg at member
  split at member
  · exact .inl member
  · rw [String.toList_ofList] at member
    rcases List.mem_append.mp member with opened | closing
    · rcases List.mem_cons.mp opened with quote | inner
      · exact .inr (.inr quote)
      · exact mem_quoteLoop inner
    · exact .inr (.inr (List.mem_singleton.mp closing))

theorem mem_intercalate_blank {c : Char} {words : List (List Char)}
    (member : c ∈ [' '].intercalate words) : c = ' ' ∨ ∃ word ∈ words, c ∈ word := by
  induction words with
  | nil => exact absurd member List.not_mem_nil
  | cons word words ih =>
    cases words with
    | nil =>
      rw [List.intercalate_singleton] at member
      exact .inr ⟨word, List.mem_cons_self, member⟩
    | cons next words =>
      rw [List.intercalate_cons_cons] at member
      simp only [List.mem_append, List.mem_singleton] at member
      rcases member with (here | sep) | later
      · exact .inr ⟨word, List.mem_cons_self, here⟩
      · exact .inl sep
      · refine (ih later).imp_right fun inside => ?_
        obtain ⟨other, held, found⟩ := inside
        exact ⟨other, List.mem_cons_of_mem _ held, found⟩

/-- The quotes, the backslashes and the blanks between the arguments bring no NUL in. -/
theorem nul_not_mem_commandLine {words : List String} (free : ∀ a ∈ words, '\x00' ∉ a.toList) :
    '\x00' ∉ (commandLine words).toList := by
  intro member
  rw [toList_commandLine] at member
  rcases mem_intercalate_blank member with blank | ⟨text, held, found⟩
  · exact absurd blank (by decide)
  · obtain ⟨arg, argued, rfl⟩ := List.mem_map.mp held
    rcases mem_quoteArg found with inside | backslash | quote
    · exact free arg argued inside
    · exact absurd backslash (by decide)
    · exact absurd quote (by decide)

theorem received_commandLine {words : List String} (free : ∀ a ∈ words, '\x00' ∉ a.toList) :
    received (commandLine words) = words := by
  have whole : (commandLine words).toList.takeWhile (· ≠ '\x00') = (commandLine words).toList := by
    refine List.takeWhile_eq_self_iff.mpr fun c member => decide_eq_true ?_
    intro nul
    exact nul_not_mem_commandLine free (nul ▸ member)
  rw [received, whole, toList_commandLine, split_joined, List.map_map]
  exact List.map_id'' (fun arg => String.ofList_toList) words

theorem mem_stripRelayFlags {args : List OsPath} {a : OsPath} (member : a ∈ stripRelayFlags args) :
    a ∈ args := by
  induction args using stripRelayFlags.induct with
  | case1 => simp [stripRelayFlags] at member
  | case2 rest ih =>
    rw [stripRelayFlags, if_pos rfl] at member
    exact List.mem_cons_of_mem _ (List.mem_of_mem_tail (ih member))
  | case3 rest notLog ih =>
    rw [stripRelayFlags, if_neg notLog, if_pos rfl] at member
    exact List.mem_cons_of_mem _ (ih member)
  | case4 arg rest notLog unconfirmed ih =>
    rw [stripRelayFlags, if_neg notLog, if_neg unconfirmed] at member
    rcases List.mem_cons.mp member with here | later
    · exact List.mem_cons.mpr (.inl here)
    · exact List.mem_cons_of_mem _ (ih later)

theorem nul_not_mem_relaunchParams {args : List OsPath} {logPath : OsPath}
    (free : ∀ a ∈ args, '\x00' ∉ a.display.toList) (log : '\x00' ∉ logPath.display.toList) :
    ∀ a ∈ (relaunchParams args logPath).map OsPath.display, '\x00' ∉ a.toList := by
  intro a member
  obtain ⟨own, held, rfl⟩ := List.mem_map.mp member
  rcases List.mem_append.mp held with kept | added
  · exact free own (mem_stripRelayFlags kept)
  · simp only [List.mem_cons, List.not_mem_nil, or_false] at added
    rcases added with rfl | rfl | rfl
    · decide
    · exact log
    · decide

/-- Every list of arguments comes back from the text that it is written as, and so the elevated
child has the arguments that were built for it, as they read. -/
theorem arguments_round_trip (words : List String) (args : List OsPath) (logPath : OsPath)
    (plain : ∀ a ∈ words, '\x00' ∉ a.toList) (free : ∀ a ∈ args, '\x00' ∉ a.display.toList)
    (log : '\x00' ∉ logPath.display.toList) :
    received (commandLine words) = words ∧
      received (relaunchParameters args logPath) =
        (relaunchParams args logPath).map OsPath.display :=
  ⟨received_commandLine plain, received_commandLine (nul_not_mem_relaunchParams free log)⟩

theorem arguments_round_trip_backslashes :
    received (commandLine ["", "a b\\", "\\\"", "c\\d"]) = ["", "a b\\", "\\\"", "c\\d"] ∧
      received (relaunchParameters [.utf8 "a b\\", .other "c\\d?"] (.utf8 "C:\\T\\log")) =
        (relaunchParams [.utf8 "a b\\", .other "c\\d?"] (.utf8 "C:\\T\\log")).map
          OsPath.display :=
  arguments_round_trip ["", "a b\\", "\\\"", "c\\d"] [.utf8 "a b\\", .other "c\\d?"]
    (.utf8 "C:\\T\\log") (by decide) (by decide) (by decide)

end Rathole.Windows
